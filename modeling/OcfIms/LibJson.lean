import Mathlib

/-!
# JavaScript values and their JSON

`JSON.stringify` with a replacer walks a value from the root down, and `JSON.parse` with a reviver
walks what was read from the leaves up. A value survives both when every part of it does: scalars
and containers that both functions leave alone, and leaves that travel as a tagged object.
-/

namespace OcfIms

/-- A string as JavaScript has it: any sequence of UTF-16 code units. -/
abbrev JSString := List UInt16

/-- The values that are written and read, over the finite numbers `ν`; the members of an object stand
in the order of its own keys. -/
inductive JSValue (ν : Type) where
  | null
  | bool (b : Bool)
  | number (n : ν)
  | string (s : JSString)
  | bigint (n : Int)
  | bytes (b : List UInt8)
  | array (elements : List (JSValue ν))
  | object (members : List (JSString × JSValue ν))

/-- The values that JSON has a text for. -/
inductive Json (ν : Type) where
  | null
  | bool (b : Bool)
  | number (n : ν)
  | string (s : JSString)
  | array (elements : List (Json ν))
  | object (members : List (JSString × Json ν))

variable {ν : Type}

namespace JSValue

/-- Induction over a value, with the hypothesis for each element and each member. -/
@[elab_as_elim]
theorem induction {P : JSValue ν → Prop} (null : P .null) (bool : ∀ b, P (.bool b))
    (number : ∀ n, P (.number n)) (string : ∀ s, P (.string s)) (bigint : ∀ n, P (.bigint n))
    (bytes : ∀ b, P (.bytes b)) (array : ∀ vs, (∀ v ∈ vs, P v) → P (.array vs))
    (object : ∀ ms : List (JSString × JSValue ν), (∀ m ∈ ms, P m.2) → P (.object ms)) :
    ∀ v, P v
  | .null => null
  | .bool b => bool b
  | .number n => number n
  | .string s => string s
  | .bigint n => bigint n
  | .bytes b => bytes b
  | .array vs => array vs fun v _ =>
      induction null bool number string bigint bytes array object v
  | .object ms => object ms fun m _ =>
      induction null bool number string bigint bytes array object m.2
decreasing_by
  · rename_i hv
    have := List.sizeOf_lt_of_mem hv
    simp only [JSValue.array.sizeOf_spec]
    omega
  · rename_i hm
    have := List.sizeOf_lt_of_mem hm
    obtain ⟨k, v⟩ := m
    simp only [JSValue.object.sizeOf_spec, Prod.mk.sizeOf_spec] at this ⊢
    omega

/-- A value stands somewhere in another one, or is the whole of it. -/
inductive Within : JSValue ν → JSValue ν → Prop
  | refl (v : JSValue ν) : Within v v
  | element {u v : JSValue ν} {vs : List (JSValue ν)} (hv : v ∈ vs) (hu : Within u v) :
      Within u (.array vs)
  | member {u : JSValue ν} {m : JSString × JSValue ν} {ms : List (JSString × JSValue ν)}
      (hm : m ∈ ms) (hu : Within u m.2) : Within u (.object ms)

theorem within_object_iff {u : JSValue ν} {ms : List (JSString × JSValue ν)} :
    Within u (.object ms) ↔ u = .object ms ∨ ∃ m ∈ ms, Within u m.2 := by
  constructor
  · intro h
    cases h with
    | refl => exact .inl rfl
    | member hm hu => exact .inr ⟨_, hm, hu⟩
  · rintro (rfl | ⟨m, hm, hu⟩)
    · exact .refl _
    · exact .member hm hu

end JSValue

namespace JSON

/-- The members that a byte array has as an object. -/
def indexed (index : Nat → JSString) (byte : UInt8 → ν) (b : List UInt8) :
    List (JSString × JSValue ν) :=
  b.mapIdx fun i x => (index i, .number (byte x))

section Walks

variable (index : Nat → JSString) (byte : UInt8 → ν) (replacer : JSValue ν → JSValue ν)
  (reviver : JSValue ν → Except String (JSValue ν))

/-- `SerializeJSONProperty`, to a depth of calls: the replacer's answer, and the parts of that. -/
def serializeProperty : Nat → JSValue ν → Except String (Json ν)
  | 0, _ => .error "Maximum call stack size exceeded"
  | depth + 1, value =>
    match replacer value with
    | .null => .ok .null
    | .bool b => .ok (.bool b)
    | .number n => .ok (.number n)
    | .string s => .ok (.string s)
    | .bigint _ => .error "Do not know how to serialize a BigInt"
    | .bytes b => do
        let members ← (indexed index byte b).mapM fun m =>
          (serializeProperty depth m.2).map fun j => (m.1, j)
        return .object members
    | .array vs => do
        let elements ← vs.mapM (serializeProperty depth)
        return .array elements
    | .object ms => do
        let members ← ms.mapM fun m => (serializeProperty depth m.2).map fun j => (m.1, j)
        return .object members

mutual

/-- `InternalizeJSONProperty`, with a reviver that answers a value for every value. -/
def internalizeProperty : Json ν → Except String (JSValue ν)
  | .null => reviver .null
  | .bool b => reviver (.bool b)
  | .number n => reviver (.number n)
  | .string s => reviver (.string s)
  | .array js => do
      let vs ← internalizeElements js
      reviver (.array vs)
  | .object ms => do
      let vs ← internalizeMembers ms
      reviver (.object vs)

def internalizeElements : List (Json ν) → Except String (List (JSValue ν))
  | [] => .ok []
  | j :: js => do
      let v ← internalizeProperty j
      let vs ← internalizeElements js
      return v :: vs

def internalizeMembers : List (JSString × Json ν) → Except String (List (JSString × JSValue ν))
  | [] => .ok []
  | (k, j) :: ms => do
      let v ← internalizeProperty j
      let vs ← internalizeMembers ms
      return (k, v) :: vs

end

/-- The value is written as one tree at every depth that is large enough, and read back from it. -/
def Survives (v : JSValue ν) : Prop :=
  ∃ least j, (∀ depth, least ≤ depth →
      serializeProperty index byte replacer depth v = .ok j) ∧
    internalizeProperty reviver j = .ok v

end Walks

section Survives

variable {index : Nat → JSString} {byte : UInt8 → ν} {replacer : JSValue ν → JSValue ν}
  {reviver : JSValue ν → Except String (JSValue ν)}

/-- A value that is neither replaced nor revived, and has no parts. -/
theorem Survives.scalar {v : JSValue ν} {j : Json ν}
    (hwrite : ∀ depth, serializeProperty index byte replacer (depth + 1) v = .ok j)
    (hread : internalizeProperty reviver j = .ok v) : Survives index byte replacer reviver v := by
  refine ⟨1, j, ?_, hread⟩
  intro depth hdepth
  obtain ⟨depth, rfl⟩ := Nat.exists_eq_add_of_le' hdepth
  exact hwrite depth

theorem survives_elements {vs : List (JSValue ν)}
    (h : ∀ v ∈ vs, Survives index byte replacer reviver v) :
    ∃ least js, (∀ depth, least ≤ depth →
        vs.mapM (serializeProperty index byte replacer depth) = .ok js) ∧
      internalizeElements reviver js = .ok vs := by
  induction vs with
  | nil => exact ⟨0, [], fun _ _ => rfl, rfl⟩
  | cons v vs ih =>
      obtain ⟨least, j, hwrite, hread⟩ := h v List.mem_cons_self
      obtain ⟨least', js, hwrites, hreads⟩ := ih fun u hu => h u (List.mem_cons_of_mem v hu)
      refine ⟨max least least', j :: js, ?_, ?_⟩
      · intro depth hdepth
        have hv := hwrite depth (by omega)
        have hvs := hwrites depth (by omega)
        rw [List.mapM_cons, hv, hvs]
        rfl
      · rw [internalizeElements, hread, hreads]
        rfl

theorem survives_members {ms : List (JSString × JSValue ν)}
    (h : ∀ m ∈ ms, Survives index byte replacer reviver m.2) :
    ∃ least js, (∀ depth, least ≤ depth → ms.mapM (fun m =>
        (serializeProperty index byte replacer depth m.2).map fun j => (m.1, j)) = .ok js) ∧
      internalizeMembers reviver js = .ok ms := by
  induction ms with
  | nil => exact ⟨0, [], fun _ _ => rfl, rfl⟩
  | cons m ms ih =>
      obtain ⟨least, j, hwrite, hread⟩ := h m List.mem_cons_self
      obtain ⟨least', js, hwrites, hreads⟩ := ih fun u hu => h u (List.mem_cons_of_mem m hu)
      refine ⟨max least least', (m.1, j) :: js, ?_, ?_⟩
      · intro depth hdepth
        have hm := hwrite depth (by omega)
        have hms := hwrites depth (by omega)
        rw [List.mapM_cons, hm, hms]
        rfl
      · rw [internalizeMembers, hread, hreads]
        rfl

/-- An array whose elements survive. -/
theorem Survives.array {vs : List (JSValue ν)}
    (h : ∀ v ∈ vs, Survives index byte replacer reviver v)
    (hreplace : replacer (.array vs) = .array vs)
    (hrevive : reviver (.array vs) = .ok (.array vs)) :
    Survives index byte replacer reviver (.array vs) := by
  obtain ⟨least, js, hwrites, hreads⟩ := survives_elements h
  refine ⟨least + 1, .array js, ?_, ?_⟩
  · intro depth hdepth
    obtain ⟨depth, rfl⟩ := Nat.exists_eq_add_of_le' (Nat.le_of_add_left_le hdepth)
    rw [serializeProperty, hreplace]
    simp only [hwrites depth (by omega)]
    rfl
  · rw [internalizeProperty, hreads]
    exact hrevive

/-- An object whose members survive. -/
theorem Survives.object {ms : List (JSString × JSValue ν)}
    (h : ∀ m ∈ ms, Survives index byte replacer reviver m.2)
    (hreplace : replacer (.object ms) = .object ms)
    (hrevive : reviver (.object ms) = .ok (.object ms)) :
    Survives index byte replacer reviver (.object ms) := by
  obtain ⟨least, js, hwrites, hreads⟩ := survives_members h
  refine ⟨least + 1, .object js, ?_, ?_⟩
  · intro depth hdepth
    obtain ⟨depth, rfl⟩ := Nat.exists_eq_add_of_le' (Nat.le_of_add_left_le hdepth)
    rw [serializeProperty, hreplace]
    simp only [hwrites depth (by omega)]
    rfl
  · rw [internalizeProperty, hreads]
    exact hrevive

/-- A value that is replaced by an object of one text, and revived from that. -/
theorem Survives.tagged {v : JSValue ν} {tag text : JSString}
    (hreplace : replacer v = .object [(tag, .string text)])
    (hkept : replacer (.string text) = .string text)
    (hread : reviver (.string text) = .ok (.string text))
    (hrevive : reviver (.object [(tag, .string text)]) = .ok v) :
    Survives index byte replacer reviver v := by
  refine ⟨2, .object [(tag, .string text)], ?_, ?_⟩
  · intro depth hdepth
    obtain ⟨depth, rfl⟩ := Nat.exists_eq_add_of_le' hdepth
    rw [serializeProperty, hreplace]
    simp only [List.mapM_cons, List.mapM_nil, serializeProperty, hkept]
    rfl
  · simp only [internalizeProperty, internalizeMembers, hread]
    exact hrevive

end Survives

end JSON

end OcfIms
