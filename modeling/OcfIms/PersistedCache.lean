import OcfIms.Conv
import OcfIms.LibJson

/-!
# The persisted read cache

The client writes its query cache to the device as JSON. `bigint`s and byte arrays have no JSON, so
the serializer tags them and the deserializer takes the tags off again.
-/

namespace OcfIms

/-! ## Texts and numbers -/

/-- The code units of a text in the basic plane. -/
def utf16 (s : String) : JSString := s.toList.map fun c => UInt16.ofNat c.toNat

/-- The characters of code units in the basic plane. -/
def utf16Chars (s : JSString) : List Char := s.map fun u => Char.ofNat u.toNat

/-- White space and line ends, as `StringToBigInt` trims them. -/
def isJSSpace (c : Char) : Bool :=
  c.toNat ∈ [0x9, 0xA, 0xB, 0xC, 0xD, 0x20, 0xA0, 0x1680, 0x2028, 0x2029, 0x202F, 0x205F, 0x3000,
    0xFEFF] || (0x2000 ≤ c.toNat && c.toNat ≤ 0x200A)

def trimJS (cs : List Char) : List Char :=
  ((cs.dropWhile isJSSpace).reverse.dropWhile isJSSpace).reverse

/-- The value of a digit, letters being digits past nine. -/
def digitValue (c : Char) : Option Nat :=
  if c.isDigit then some (c.toNat - '0'.toNat)
  else if 'a' ≤ c ∧ c ≤ 'z' then some (c.toNat - 'a'.toNat + 10)
  else if 'A' ≤ c ∧ c ≤ 'Z' then some (c.toNat - 'A'.toNat + 10)
  else none

/-- The digits of a number to a base. -/
def parseRadix (base : Nat) (cs : List Char) : Option Int :=
  if cs = [] then none
  else (cs.foldlM (fun n c => ((digitValue c).filter (· < base)).map (n * base + ·)) 0).map
    Int.ofNat

/-- `StringToBigInt`, after the trimming. -/
def bigIntOfChars : List Char → Option Int
  | [] => some 0
  | '0' :: 'x' :: cs => parseRadix 16 cs
  | '0' :: 'X' :: cs => parseRadix 16 cs
  | '0' :: 'o' :: cs => parseRadix 8 cs
  | '0' :: 'O' :: cs => parseRadix 8 cs
  | '0' :: 'b' :: cs => parseRadix 2 cs
  | '0' :: 'B' :: cs => parseRadix 2 cs
  | cs => parseSigned cs

/-- `BigInt`, on a string. -/
def bigInt (s : JSString) : Except String Int :=
  match bigIntOfChars (trimJS (utf16Chars s)) with
  | some n => .ok n
  | none => .error "Cannot convert the string to a BigInt"

/-! ## The two functions -/

/-- What the client takes from elsewhere: JSON's texts, the numbers that bytes are, and base64. -/
structure PersistRuntime (ν : Type) where
  print : Json ν → String
  parse : String → Except String (Json ν)
  byte : UInt8 → ν
  base64Encode : List UInt8 → JSString
  base64Decode : JSString → Except String (List UInt8)

def BIGINT_TAG : JSString := utf16 "$bigint"

def BYTES_TAG : JSString := utf16 "$bytes"

variable {ν : Type} (rt : PersistRuntime ν)

/-- The replacer: `bigint`s and byte arrays become objects of one tagged text. -/
def tagLeaf : JSValue ν → JSValue ν
  | .bigint n => .object [(BIGINT_TAG, .string (utf16 (toString n)))]
  | .bytes b => .object [(BYTES_TAG, .string (rt.base64Encode b))]
  | value => value

/-- The reviver: an object of one tagged text becomes what the tag says. -/
def untagObject : JSValue ν → Except String (JSValue ν)
  | .object [(key, .string text)] =>
    if key = BIGINT_TAG then (bigInt text).map .bigint
    else if key = BYTES_TAG then (rt.base64Decode text).map .bytes
    else .ok (.object [(key, .string text)])
  | value => .ok value

/-- The tree that is printed, to a depth of calls. -/
def tagged (depth : Nat) (client : JSValue ν) : Except String (Json ν) :=
  JSON.serializeProperty (fun i => utf16 (toString i)) rt.byte (tagLeaf rt) depth client

def serializePersistedClient (depth : Nat) (client : JSValue ν) : Except String String :=
  (tagged rt depth client).map rt.print

def deserializePersistedClient (raw : String) : Except String (JSValue ν) := do
  let json ← rt.parse raw
  JSON.internalizeProperty (untagObject rt) json

/-! ## What comes back -/

/-- An object that the deserializer takes for a tag. -/
def LooksTagged (v : JSValue ν) : Prop :=
  ∃ key text, v = .object [(key, .string text)] ∧ (key = BIGINT_TAG ∨ key = BYTES_TAG)

/-- JSON reads back the tree it was given for a value, and base64 the byte arrays in it. -/
structure PersistRuntime.RoundTrips (client : JSValue ν) : Prop where
  json : ∀ depth tree, tagged rt depth client = .ok tree → rt.parse (rt.print tree) = .ok tree
  base64 : ∀ b, JSValue.Within (.bytes b) client → rt.base64Decode (rt.base64Encode b) = .ok b

theorem utf16Chars_utf16 {s : String} (h : ∀ c ∈ s.toList, c.toNat < 0xD800) :
    utf16Chars (utf16 s) = s.toList := by
  rw [utf16Chars, utf16, List.map_map]
  have hunit : ∀ c ∈ s.toList, ((fun u : UInt16 => Char.ofNat u.toNat) ∘
      fun c : Char => UInt16.ofNat c.toNat) c = id c := by
    intro c hc
    have hlt : c.toNat < 2 ^ 16 := by
      have := h c hc
      omega
    simp only [Function.comp_apply, UInt16.toNat_ofNat', Nat.mod_eq_of_lt hlt, Char.ofNat_toNat]
    rfl
  exact (List.map_congr_left hunit).trans (List.map_id _)

/-- A number is printed with digits, and a minus sign. -/
theorem mem_toString {n : Int} {c : Char} (hc : c ∈ (toString n).toList) :
    c.isDigit = true ∨ c = '-' := by
  cases n with
  | ofNat n =>
      have htext : (toString (Int.ofNat n)).toList = Nat.toDigits 10 n := Nat.toList_repr
      rw [htext] at hc
      exact .inl (isDigit_of_toDigits hc)
  | negSucc n =>
      have htext : (toString (Int.negSucc n)).toList = '-' :: Nat.toDigits 10 (n + 1) := by
        change ("-" ++ Nat.repr (n + 1)).toList = _
        rw [String.toList_append, Nat.toList_repr]
        rfl
      rw [htext] at hc
      rcases List.mem_cons.mp hc with rfl | hc
      · exact .inr rfl
      · exact .inl (isDigit_of_toDigits hc)

theorem toNat_bounds_of_isDigit {c : Char} (h : c.isDigit = true) : 48 ≤ c.toNat ∧ c.toNat ≤ 57 := by
  simpa [Char.isDigit, UInt32.le_iff_toNat_le] using h

theorem toNat_bounds_of_mem_toString {n : Int} {c : Char} (hc : c ∈ (toString n).toList) :
    45 ≤ c.toNat ∧ c.toNat ≤ 57 := by
  rcases mem_toString hc with hdigit | rfl
  · obtain ⟨hlow, hhigh⟩ := toNat_bounds_of_isDigit hdigit
    omega
  · decide

theorem trimJS_eq_self {cs : List Char} (h : ∀ c ∈ cs, isJSSpace c = false) : trimJS cs = cs := by
  have hkeep : ∀ l : List Char, (∀ c ∈ l, isJSSpace c = false) → l.dropWhile isJSSpace = l := by
    intro l hl
    cases l with
    | nil => rfl
    | cons c l => rw [List.dropWhile_cons, hl c List.mem_cons_self]; rfl
  rw [trimJS, hkeep cs h, hkeep _ fun c hc => h c (List.mem_reverse.mp hc), List.reverse_reverse]

theorem bigIntOfChars_toString (n : Int) : bigIntOfChars (toString n).toList = some n := by
  have hletter : ∀ c ∈ (toString n).toList, 57 < c.toNat → False := by
    intro c hc hlt
    have := (toNat_bounds_of_mem_toString hc).2
    omega
  have hparse := parseSigned_toString n
  rw [bigIntOfChars.eq_def]
  split
  case h_1 heq => rw [heq] at hparse; cases hparse
  case h_8 => exact hparse
  all_goals
    rename_i heq
    rw [heq] at hletter
    exact (hletter _ (List.mem_cons_of_mem _ List.mem_cons_self) (by decide)).elim

/-- `BigInt` reads what `toString` prints. -/
theorem bigInt_toString (n : Int) : bigInt (utf16 (toString n)) = .ok n := by
  have hplane : ∀ c ∈ (toString n).toList, c.toNat < 0xD800 := by
    intro c hc
    have := (toNat_bounds_of_mem_toString hc).2
    omega
  have hspace : ∀ c ∈ (toString n).toList, isJSSpace c = false := by
    intro c hc
    obtain ⟨hlow, hhigh⟩ := toNat_bounds_of_mem_toString hc
    simp only [isJSSpace, List.mem_cons, List.not_mem_nil, or_false, Bool.or_eq_false_iff,
      Bool.and_eq_false_iff, decide_eq_false_iff_not]
    omega
  rw [bigInt, utf16Chars_utf16 hplane, trimJS_eq_self hspace, bigIntOfChars_toString]

section RoundTrip

variable {rt}

theorem untagObject_of_not_looksTagged {v : JSValue ν} (h : ¬ LooksTagged v) :
    untagObject rt v = .ok v := by
  rw [untagObject.eq_def]
  split
  · rename_i key text
    have hkey : ¬ (key = BIGINT_TAG ∨ key = BYTES_TAG) := fun hkey => h ⟨key, text, rfl, hkey⟩
    obtain ⟨hbigint, hbytes⟩ := not_or.mp hkey
    rw [if_neg hbigint, if_neg hbytes]
  · rfl

theorem tags_ne : BYTES_TAG ≠ BIGINT_TAG := by
  decide

/-- Every part of a value survives the two walks. -/
theorem survives {client : JSValue ν}
    (hplain : ∀ v, JSValue.Within v client → ¬ LooksTagged v)
    (hbytes : ∀ b, JSValue.Within (.bytes b) client →
      rt.base64Decode (rt.base64Encode b) = .ok b) :
    JSON.Survives (fun i => utf16 (toString i)) rt.byte (tagLeaf rt) (untagObject rt) client := by
  induction client using JSValue.induction with
  | null => exact .scalar (j := .null) (fun _ => rfl) rfl
  | bool b => exact .scalar (j := .bool b) (fun _ => rfl) rfl
  | number n => exact .scalar (j := .number n) (fun _ => rfl) rfl
  | string s => exact .scalar (j := .string s) (fun _ => rfl) rfl
  | bigint n =>
      have hrevive : untagObject rt (.object [(BIGINT_TAG, .string (utf16 (toString n)))]) =
          .ok (.bigint n) := by
        rw [untagObject, if_pos rfl, bigInt_toString]
        rfl
      exact .tagged rfl rfl rfl hrevive
  | bytes b =>
      have hrevive : untagObject rt (.object [(BYTES_TAG, .string (rt.base64Encode b))]) =
          .ok (.bytes b) := by
        rw [untagObject, if_neg tags_ne, if_pos rfl, hbytes b (.refl _)]
        rfl
      exact .tagged rfl rfl rfl hrevive
  | array vs ih =>
      have helements : ∀ v ∈ vs, JSON.Survives (fun i => utf16 (toString i)) rt.byte (tagLeaf rt)
          (untagObject rt) v := fun v hv =>
        ih v hv (fun u hu => hplain u (.element hv hu)) fun b hb => hbytes b (.element hv hb)
      exact .array helements rfl rfl
  | object ms ih =>
      have hmembers : ∀ m ∈ ms, JSON.Survives (fun i => utf16 (toString i)) rt.byte (tagLeaf rt)
          (untagObject rt) m.2 := fun m hm =>
        ih m hm (fun u hu => hplain u (.member hm hu)) fun b hb => hbytes b (.member hm hb)
      exact .object hmembers rfl (untagObject_of_not_looksTagged (hplain _ (.refl _)))

end RoundTrip

/-- A cache none of whose objects looks tagged is restored as it was written. -/
theorem deserialize_serialize (rt : PersistRuntime ν) (client : JSValue ν)
    (hplain : ∀ v, JSValue.Within v client → ¬ LooksTagged v) (hrt : rt.RoundTrips client) :
    ∃ least, ∀ depth, least ≤ depth → ∃ raw,
      serializePersistedClient rt depth client = .ok raw ∧
        deserializePersistedClient rt raw = .ok client := by
  obtain ⟨least, tree, hwrite, hread⟩ := survives hplain hrt.base64
  refine ⟨least, fun depth hdepth => ⟨rt.print tree, ?_, ?_⟩⟩
  · rw [serializePersistedClient, tagged, hwrite depth hdepth]
    rfl
  · rw [deserializePersistedClient, hrt.json depth tree (hwrite depth hdepth)]
    exact hread

/-! ## A time, a picture, and an object with a tag's key over a number -/

def cachedQuery : JSValue Int :=
  .object [(utf16 "seconds", .bigint (-7)), (utf16 "photo", .bytes [1, 2, 255]),
    (utf16 "state", .object [(BIGINT_TAG, .bigint 5)])]

def cachedTree : Json Int :=
  .object [(utf16 "seconds", .object [(BIGINT_TAG, .string (utf16 "-7"))]),
    (utf16 "photo", .object [(BYTES_TAG, .string (utf16 "AQL/"))]),
    (utf16 "state", .object [(BIGINT_TAG, .object [(BIGINT_TAG, .string (utf16 "5"))])])]

def cachedText : String :=
  "\x7b\x22seconds\x22:\x7b\x22$bigint\x22:\x22-7\x22\x7d,"
    ++ "\x22photo\x22:\x7b\x22$bytes\x22:\x22AQL/\x22\x7d,"
    ++ "\x22state\x22:\x7b\x22$bigint\x22:\x7b\x22$bigint\x22:\x225\x22\x7d\x7d\x7d"

/-- JSON and base64 as far as that query needs them. -/
def cachedRuntime : PersistRuntime Int where
  print _ := cachedText
  parse raw := if raw = cachedText then .ok cachedTree else .error "Unexpected token"
  byte b := b.toNat
  base64Encode b := if b = [1, 2, 255] then utf16 "AQL/" else []
  base64Decode s := if s = utf16 "AQL/" then .ok [1, 2, 255] else .error "invalid base64 string"

theorem tagged_cachedQuery {depth : Nat} {tree : Json Int}
    (h : tagged cachedRuntime depth cachedQuery = .ok tree) : tree = cachedTree := by
  match depth with
  | 0 => cases h
  | 1 => cases h
  | 2 => cases h
  | 3 => cases h
  | _ + 4 => cases h; rfl

theorem deserialize_serialize_cachedQuery : ∃ depth raw,
    serializePersistedClient cachedRuntime depth cachedQuery = .ok raw ∧
      deserializePersistedClient cachedRuntime raw = .ok cachedQuery := by
  have hplain : ∀ v, JSValue.Within v cachedQuery → ¬ LooksTagged v := by
    rintro v h ⟨key, text, rfl, _⟩
    simp only [cachedQuery, JSValue.within_object_iff, List.mem_cons, List.not_mem_nil, or_false,
      exists_eq_or_imp, exists_eq_left] at h
    rcases h with h | h | h | h | h
    all_goals cases h
  have hbytes : ∀ b, JSValue.Within (.bytes b) cachedQuery → cachedRuntime.base64Decode
      (cachedRuntime.base64Encode b) = .ok b := by
    intro b h
    simp only [cachedQuery, JSValue.within_object_iff, List.mem_cons, List.not_mem_nil, or_false,
      exists_eq_or_imp, exists_eq_left] at h
    rcases h with h | h | h | h | h
    all_goals cases h
    rfl
  obtain ⟨least, h⟩ := deserialize_serialize cachedRuntime cachedQuery hplain
    ⟨fun _ _ htree => by rw [tagged_cachedQuery htree]; rfl, hbytes⟩
  exact ⟨least, h least (Nat.le_refl least)⟩

end OcfIms
