import OcfIms.JSText

/-!
# The parameters of a table's view

The tables keep their filters, their order and their selection in the URL, one key each. A key that
is absent is at its default, and what a key says is read leniently: numbers up to where their digits
end, lists without their empty items.
-/

namespace OcfIms

/-! ## Numbers -/

/-- Numbers as JavaScript has them: the nearest one to a whole number, if it is finite, and its text.
Below 2^53 whole numbers are exact, and printed with all their digits. -/
structure NumberRuntime where
  nearest : Nat → Option Nat
  print : Nat → JSString
  nearest_eq : ∀ n, n < 2 ^ 53 → nearest n = some n
  print_eq : ∀ n, n < 2 ^ 53 → print n = numberText n

/-- `parseInt` to the base 10, before it is rounded. -/
def parseIntText (s : JSString) : Option Int :=
  let t := s.dropWhile isSpaceUnit
  let negative := t.head? == some 45
  let digits := ((if negative || t.head? == some 43 then t.tail else t).takeWhile isDigitUnit)
  if digits = [] then none
  else some (if negative then -numberOfDigits digits else numberOfDigits digits)

variable (rt : NumberRuntime)

/-- `int`. -/
def intParam (value : Option JSString) : Option Nat :=
  match value with
  | none => none
  | some s =>
    match parseIntText s with
    | some (.ofNat n) => (rt.nearest n).filter (0 < ·)
    | _ => none

/-- `list`. -/
def listParam (value : Option JSString) : List JSString :=
  match value with
  | none => []
  | some s => (s.splitOn 44).filter (· ≠ [])

/-- `join(",")`, if there is anything to join. -/
def joinParam (items : List JSString) : Option JSString :=
  if items = [] then none else some ([44].intercalate items)

/-- A text that stands for itself unless it is empty. -/
def textParam (s : JSString) : Option JSString := if s = [] then none else some s

/-- The value of a key that is a number in the URL is below 2^53. -/
def SmallInt (value : Option JSString) : Prop :=
  ∀ s n, value = some s → parseIntText s = some (Int.ofNat n) → n < 2 ^ 53

theorem smallInt_iff {value : Option JSString} :
    SmallInt value ↔ ∀ s, s ∈ value → ∀ i, i ∈ parseIntText s → i < 2 ^ 53 := by
  constructor
  · intro h s hs i hi
    cases i with
    | ofNat n =>
        have hlt : n < 2 ^ 53 := h s n hs hi
        show (n : Int) < 2 ^ 53
        omega
    | negSucc n => exact (Int.negSucc_lt_zero n).trans (by decide)
  · intro h s n hs hn
    have hlt : (n : Int) < 2 ^ 53 := h s hs _ hn
    omega

instance (value : Option JSString) : Decidable (SmallInt value) := decidable_of_iff _ smallInt_iff.symm

/-- The URL's parameters. -/
abbrev Params : Type := String → Option JSString

/-- `setParams`: the keys of the object replace those of the URL, and remove them where they are
undefined. -/
def setParams (p : Params) (next : List (String × Option JSString)) : Params :=
  fun key => (next.lookup key).getD (p key)

/-! ## Words and orders -/

/-- The value that a word stands for, among these. -/
def ofWord {α : Type} (values : List α) (word : α → JSString) (s : JSString) : Option α :=
  values.find? fun a => word a = s

inductive SortDir
  | asc
  | desc
  deriving DecidableEq, Repr

def SortDir.word : SortDir → JSString
  | .asc => utf16 "asc"
  | .desc => utf16 "desc"

structure TableSort (Key : Type) where
  key : Key
  dir : SortDir
  deriving DecidableEq, Repr

section Sorts

variable {Key : Type} [DecidableEq Key] (keys : List Key) (word : Key → JSString)
  (default : TableSort Key)

def parseSort (value : Option JSString) : TableSort Key :=
  let parts := (value.getD []).splitOn 58
  match ofWord keys word (parts.head?.getD []) with
  | none => default
  | some key => ⟨key, if parts[1]? = some (utf16 "asc") then .asc else .desc⟩

def serializeSort (sort : TableSort Key) : Option JSString :=
  if sort = default then none else some (word sort.key ++ 58 :: sort.dir.word)

end Sorts

/-! ## What is written is read back -/

section Reads

variable {rt}

theorem setParams_of_lookup {params : Params} {next : List (String × Option JSString)} {key : String}
    {value : Option JSString} (h : next.lookup key = some value) : setParams params next key = value := by
  rw [setParams, h]
  rfl

theorem not_isSpaceUnit_of_isDigitUnit {u : UInt16} (h : isDigitUnit u = true) :
    isSpaceUnit u = false := by
  obtain ⟨d, hd, rfl⟩ := exists_digitUnit h
  interval_cases d <;> rfl

/-- `parseInt` reads digits after white space, up to what is no digit. -/
theorem parseIntText_of_run {before s after : JSString}
    (hbefore : ∀ u ∈ before, isSpaceUnit u = true) (hne : s ≠ [])
    (hs : ∀ u ∈ s, isDigitUnit u = true) (hafter : after.takeWhile isDigitUnit = []) :
    parseIntText (before ++ s ++ after) = some (numberOfDigits s : Int) := by
  have hspace : (before ++ s ++ after).dropWhile isSpaceUnit = s ++ after := by
    rw [List.append_assoc, List.dropWhile_append_of_pos hbefore]
    obtain ⟨u, t, rfl⟩ := List.exists_cons_of_ne_nil hne
    rw [List.cons_append, List.dropWhile_cons,
      not_isSpaceUnit_of_isDigitUnit (hs u List.mem_cons_self)]
    rfl
  have hsign : ∀ v : UInt16, isDigitUnit v = false → ((s ++ after).head? == some v) = false := by
    intro v hv
    obtain ⟨u, t, rfl⟩ := List.exists_cons_of_ne_nil hne
    rw [List.cons_append, List.head?_cons, beq_eq_false_iff_ne]
    intro heq
    rw [← Option.some.inj heq, hs u List.mem_cons_self] at hv
    cases hv
  have htake : (s ++ after).takeWhile isDigitUnit = s := by
    rw [List.takeWhile_append_of_pos hs, hafter, List.append_nil]
  rw [parseIntText]
  simp only [hspace, hsign 45 (by decide), hsign 43 (by decide), Bool.or_self, Bool.false_eq_true,
    if_false, htake, if_neg hne]

/-- `parseInt` reads a text of digits whole. -/
theorem parseIntText_of_digits {s : JSString} (hne : s ≠ []) (hs : ∀ u ∈ s, isDigitUnit u = true) :
    parseIntText s = some (numberOfDigits s : Int) := by
  have hrun : parseIntText ([] ++ s ++ []) = some (numberOfDigits s : Int) :=
    parseIntText_of_run (fun _ h => absurd h List.not_mem_nil) hne hs rfl
  rwa [List.nil_append, List.append_nil] at hrun

theorem not_comma_of_digits {s : JSString} (hs : ∀ u ∈ s, isDigitUnit u = true) : (44 : UInt16) ∉ s :=
  fun h => absurd (hs 44 h) (by decide)

/-- A value that survives, or one that is put in its place and survives. -/
theorem forall_getD {α : Type} {P : α → Prop} {o : Option α} {a : α} (ha : P a)
    (ho : ∀ v, o = some v → P v) : P (o.getD a) := by
  cases o with
  | none => exact ha
  | some v => exact ho v rfl

/-- A number that `int` can answer is read back from its text. -/
theorem intParam_print {n : Nat} (hpos : 0 < n) (hn : n < 2 ^ 53) :
    intParam rt (some (rt.print n)) = some n := by
  have hparse := parseIntText_of_digits (numberText_ne_nil n) (digits_numberText n)
  rw [numberOfDigits_numberText] at hparse
  simp only [intParam, rt.print_eq n hn, hparse]
  change (rt.nearest n).filter (0 < ·) = some n
  rw [rt.nearest_eq n hn, Option.filter_some, if_pos (decide_eq_true hpos)]

/-- What `int` answers is positive, and below 2^53 where the URL's number is. -/
theorem intParam_eq_some {value : Option JSString} {n : Nat} (h : intParam rt value = some n)
    (hsmall : SmallInt value) : 0 < n ∧ n < 2 ^ 53 := by
  cases value with
  | none => cases h
  | some s =>
      rw [intParam.eq_def] at h
      simp only at h
      split at h
      · rename_i m hm
        have hlt := hsmall s m rfl hm
        rw [rt.nearest_eq m hlt, Option.filter_eq_some_iff] at h
        cases h.1
        exact ⟨of_decide_eq_true h.2, hlt⟩
      · cases h

/-- An optional number is read back from its text, or its absence. -/
theorem intParam_map_print {o : Option Nat} (h : ∀ n, o = some n → 0 < n ∧ n < 2 ^ 53) :
    intParam rt (o.map rt.print) = o := by
  cases o with
  | none => rfl
  | some n =>
      obtain ⟨hpos, hn⟩ := h n rfl
      exact intParam_print hpos hn

/-- The items of a split list are made of its elements, without the separator. -/
theorem mem_of_mem_splitOn {α : Type} [BEq α] [LawfulBEq α] {u : α} :
    ∀ {s item : List α}, item ∈ s.splitOn u → ∀ c ∈ item, c ∈ s ∧ c ≠ u := by
  intro s
  induction s with
  | nil =>
      intro item h
      rw [List.splitOn_nil, List.mem_singleton] at h
      rw [h]
      exact fun c hc => nomatch hc
  | cons v s ih =>
      intro item h c hc
      rw [List.splitOn_cons_eq_if_modifyHead] at h
      split at h
      · rcases List.mem_cons.mp h with rfl | h
        · cases hc
        · exact ⟨List.mem_cons_of_mem v (ih h c hc).1, (ih h c hc).2⟩
      · rename_i hv
        cases hsplit : s.splitOn u with
        | nil => exact absurd hsplit (List.splitOn_ne_nil u s)
        | cons first rest =>
            rw [hsplit, List.modifyHead_cons] at h
            rcases List.mem_cons.mp h with rfl | h
            · rcases List.mem_cons.mp hc with rfl | hc
              · exact ⟨List.mem_cons_self, fun hcu => hv (beq_iff_eq.mpr hcu)⟩
              · have hmem := ih (hsplit ▸ List.mem_cons_self : first ∈ s.splitOn u) c hc
                exact ⟨List.mem_cons_of_mem v hmem.1, hmem.2⟩
            · have hmem := ih (hsplit ▸ List.mem_cons_of_mem _ h : item ∈ s.splitOn u) c hc
              exact ⟨List.mem_cons_of_mem v hmem.1, hmem.2⟩

/-- The items of a split text have no separator in them. -/
theorem not_mem_of_mem_splitOn {s item : JSString} {u : UInt16} (h : item ∈ s.splitOn u) :
    u ∉ item :=
  fun hmem => (mem_of_mem_splitOn h u hmem).2 rfl

theorem mem_listParam {value : Option JSString} {item : JSString} (h : item ∈ listParam value) :
    item ≠ [] ∧ (44 : UInt16) ∉ item := by
  cases value with
  | none => exact absurd h List.not_mem_nil
  | some s =>
      obtain ⟨hmem, hne⟩ := List.mem_filter.mp h
      exact ⟨of_decide_eq_true hne, not_mem_of_mem_splitOn hmem⟩

/-- A list is read back from its items, if none is empty or has a comma in it. -/
theorem listParam_joinParam {items : List JSString}
    (h : ∀ item ∈ items, item ≠ [] ∧ (44 : UInt16) ∉ item) : listParam (joinParam items) = items := by
  rw [joinParam]
  split
  · rename_i hnil
    rw [hnil]
    rfl
  · rename_i hne
    rw [listParam, List.splitOn_intercalate 44 (fun item hitem => (h item hitem).2) hne]
    exact List.filter_eq_self.mpr fun item hitem => decide_eq_true (h item hitem).1

theorem textParam_getD (s : JSString) : (textParam s).getD [] = s := by
  rw [textParam]
  split
  · rename_i hnil
    rw [hnil]
    rfl
  · rfl

theorem word_of_ofWord {α : Type} {values : List α} {word : α → JSString} {s : JSString} {a : α}
    (h : ofWord values word s = some a) : word a = s :=
  of_decide_eq_true (List.find?_some (p := fun a => decide (word a = s)) h)

/-- Different values have different words. -/
theorem ofWord_word {α : Type} {values : List α} {word : α → JSString} {a : α} (ha : a ∈ values)
    (hword : ∀ b, word b = word a → b = a) : ofWord values word (word a) = some a := by
  rw [ofWord]
  cases hfind : values.find? fun b => word b = word a with
  | none => exact absurd (decide_eq_true rfl) (List.find?_eq_none.mp hfind a ha)
  | some b => rw [hword b (word_of_ofWord hfind)]

/-- The words of a list are read back, if they are plain. -/
theorem filterMap_ofWord {α : Type} {values : List α} {word : α → JSString}
    (hvalues : ∀ a, a ∈ values) (hword : ∀ a b, word a = word b → a = b)
    (hplain : ∀ a, word a ≠ [] ∧ (44 : UInt16) ∉ word a) (items : List α) :
    (listParam (joinParam (items.map word))).filterMap (ofWord values word) = items := by
  have hitems : ∀ item ∈ items.map word, item ≠ [] ∧ (44 : UInt16) ∉ item := by
    intro item hitem
    obtain ⟨a, -, rfl⟩ := List.mem_map.mp hitem
    exact hplain a
  have hback : (fun a => ofWord values word (word a)) = some :=
    funext fun a => ofWord_word (hvalues a) fun b hb => hword b a hb
  rw [listParam_joinParam hitems, List.filterMap_map]
  exact (congrArg (fun f => items.filterMap f) hback).trans List.filterMap_some

/-- The numbers of a list are read back. -/
theorem filterMap_intParam {numbers : List Nat} (h : ∀ n ∈ numbers, 0 < n ∧ n < 2 ^ 53) :
    (listParam (joinParam (numbers.map rt.print))).filterMap (fun t => intParam rt (some t)) =
      numbers := by
  have hitems : ∀ item ∈ numbers.map rt.print, item ≠ [] ∧ (44 : UInt16) ∉ item := by
    intro item hitem
    obtain ⟨n, hn, rfl⟩ := List.mem_map.mp hitem
    rw [rt.print_eq n (h n hn).2]
    exact ⟨numberText_ne_nil n, not_comma_of_digits (digits_numberText n)⟩
  rw [listParam_joinParam hitems, List.filterMap_map]
  refine (List.filterMap_congr fun n hn => ?_).trans List.filterMap_some
  exact intParam_print (h n hn).1 (h n hn).2

/-- An order is read back, if its key is one of those known and no word has a colon in it or is
empty. -/
theorem parseSort_serializeSort {Key : Type} [DecidableEq Key] {keys : List Key}
    {word : Key → JSString} {default sort : TableSort Key} (hkey : sort.key ∈ keys)
    (hword : ∀ a b, word a = word b → a = b)
    (hplain : ∀ a, word a ≠ [] ∧ (58 : UInt16) ∉ word a) :
    parseSort keys word default (serializeSort word default sort) = sort := by
  rw [serializeSort]
  split
  · rename_i heq
    have hnone : ofWord keys word [] = none :=
      List.find?_eq_none.mpr fun a _ => by simpa using (hplain a).1
    rw [heq]
    simp only [parseSort, Option.getD_none, List.splitOn_nil, List.head?_cons, Option.getD_some,
      hnone]
  · have hdir : (58 : UInt16) ∉ sort.dir.word := by
      cases sort.dir <;> decide
    have hsplit : (word sort.key ++ 58 :: sort.dir.word).splitOn 58 =
        [word sort.key, sort.dir.word] := by
      rw [List.splitOn_append_cons_self_of_not_mem (hplain sort.key).2,
        List.splitOn_eq_singleton hdir]
    simp only [parseSort, Option.getD_some, hsplit, List.head?_cons,
      ofWord_word hkey fun b hb => hword b sort.key hb]
    have hback : (if [word sort.key, sort.dir.word][1]? = some (utf16 "asc") then SortDir.asc
        else .desc) = sort.dir := by
      cases sort.dir
      · exact if_pos rfl
      · have hne : SortDir.desc.word ≠ utf16 "asc" := by decide
        exact if_neg fun heq => hne (Option.some.inj heq)
    rw [hback]

end Reads

end OcfIms
