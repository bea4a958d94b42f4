import Mathlib
import OcfIms.LibRounding
import OcfIms.StoreSchema

/-!
# Conversions

`lib/conv` and the string functions of Go's standard library that the services call. An instant is
its number of nanoseconds since the Unix epoch. The columns of times are doubles, in seconds. Those that
`TimeToFloat` yields are whole multiples of 2⁻⁸² s, the last place of a nanosecond, and are given as
that many.
-/

namespace OcfIms

/-- Go's zero `time.Time`: midnight of 1 January of year 1, UTC. -/
def zeroTime : Int := -62135596800 * 1000000000

def isZero (t : Int) : Bool := t == zeroTime

/-- Drop the fraction of a second. -/
def truncateToSeconds (t : Int) : Int := t.tdiv 1000000000 * 1000000000

/-- A second in a column. -/
def storedSecond : Int := 2 ^ 82

/-- The double nearest to a fraction, in the unit of the columns. -/
def float64 (num : Int) (den : Nat) : Int := RoundingLib.round 53 num den

/-- `conv.TimeToFloat`: the quotient and the sum are rounded each. -/
def timeToFloat (t : Int) : Int :=
  let decimalPart := float64 (t % 1000000000 * storedSecond) 1000000000
  float64 (decimalPart + float64 (t / 1000000000 * storedSecond) 1) 1

/-- `timeToFloat` keeps the order of times whose seconds a double holds. -/
theorem timeToFloat_mono {t t' : Int} (h : t ≤ t') (hlow : -2 ^ 53 < t / 1000000000)
    (hhigh : t' / 1000000000 < 2 ^ 53) : timeToFloat t ≤ timeToFloat t' := by
  have hmono : ∀ (den : Nat) {num num' : Int}, 0 < den → num ≤ num' →
      float64 num den ≤ float64 num' den :=
    fun _ _ _ hden h => RoundingLib.round_mono (p := 53) (by decide) hden h
  have hwhole : ∀ s : Int, -2 ^ 53 < s → s < 2 ^ 53 →
      float64 (s * storedSecond) 1 = s * storedSecond := by
    intro s hs hs'
    have habs : (s * storedSecond).natAbs < 2 ^ (53 + 82) := by
      unfold storedSecond
      omega
    exact RoundingLib.round_of_short (by decide) habs (Dvd.intro_left s rfl)
  unfold timeToFloat
  rw [hwhole _ hlow (by omega), hwhole _ (by omega) hhigh]
  refine hmono 1 Nat.one_pos ?_
  rcases (Int.ediv_le_ediv (c := 1000000000) (by decide) h).lt_or_eq with hlt | heq
  · -- a fraction of a second is at most a second
    have hfraction : float64 (t % 1000000000 * storedSecond) 1000000000 ≤ storedSecond :=
      (hmono 1000000000 (by decide) (by unfold storedSecond; omega :
        t % 1000000000 * storedSecond ≤ 1000000000 * storedSecond)).trans_eq (by decide)
    have hnext : 0 ≤ float64 (t' % 1000000000 * storedSecond) 1000000000 :=
      (by decide : (0 : Int) = float64 0 1000000000).trans_le
        (hmono 1000000000 (by decide) (by unfold storedSecond; omega))
    unfold storedSecond at *
    omega
  · have hfraction := hmono 1000000000 (by decide)
      (by unfold storedSecond; omega :
        t % 1000000000 * storedSecond ≤ t' % 1000000000 * storedSecond)
    rw [heq]
    exact Int.add_le_add_right hfraction _

/-- `conv.FloatToTime`, where the nanoseconds fit 64 bits. -/
def floatToTime (f : Int) : Int :=
  f.tdiv storedSecond * 1000000000 +
    ((float64 (f * 1000000000) 1).tdiv storedSecond).tmod 1000000000

/-- `time.Unix(int64(f), 0)`. -/
def floatToSeconds (f : Int) : Int := f.tdiv storedSecond * 1000000000

/-- `conv.NullFloatToTime`. -/
def nullFloatToTime (f : Option Int) : Int := (f.map floatToTime).getD zeroTime

/-- `conv.TimeToNullFloat`. -/
def timeToNullFloat (t : Int) : Option Int := if isZero t then none else some (timeToFloat t)

/-- The longest prefix of whole characters that takes at most `n` bytes, and the bytes left over. -/
def takeBytes : Nat → List Char → List Char × Nat
  | n, [] => ([], n)
  | n, c :: cs =>
    if c.utf8Size ≤ n then
      let r := takeBytes (n - c.utf8Size) cs
      (c :: r.1, r.2)
    else ([], n)

/-- `conv.StringToSql`: nil and the empty string are null, and a string longer than `maxLength`
bytes is cut there, when `maxLength` is positive. -/
def stringToSql (s : Option String) (maxLength : Nat) : Option SqlText :=
  match s with
  | none => none
  | some s =>
    if s = "" then none
    else if maxLength = 0 ∨ s.utf8ByteSize ≤ maxLength then some (.text s)
    else
      let r := takeBytes maxLength s.toList
      if r.2 = 0 then some (.text (String.ofList r.1)) else some (.cut (String.ofList r.1))

/-- `conv.StringToSql` without a limit. -/
def textToSql (s : Option String) : Option String := s.filter (· ≠ "")

/-- The case tables: `fold` names the orbit of a character under `unicode.SimpleFold`, and `toLower`
is `unicode.ToLower`. -/
structure UnicodeTables where
  fold : Char → Char
  toLower : Char → Char

namespace UnicodeTables

variable (u : UnicodeTables)

/-- `strings.EqualFold`. -/
def equalFold (s t : String) : Bool := s.toList.map u.fold == t.toList.map u.fold

/-- `strings.ToLower`. -/
def lower (s : String) : String := String.ofList (s.toList.map u.toLower)

end UnicodeTables

/-- `unicode.IsSpace`. -/
def isSpace (c : Char) : Bool :=
  c.val ∈ [0x9, 0xA, 0xB, 0xC, 0xD, 0x20, 0x85, 0xA0, 0x1680, 0x2028, 0x2029, 0x202F, 0x205F, 0x3000]
    || (0x2000 ≤ c.val && c.val ≤ 0x200A)

/-- `strings.TrimSpace`. -/
def trimSpace (s : String) : String :=
  String.ofList (((s.toList.dropWhile isSpace).reverse.dropWhile isSpace).reverse)

/-- A trimmed string has nothing left to trim. -/
theorem trimSpace_trimSpace (s : String) : trimSpace (trimSpace s) = trimSpace s := by
  unfold trimSpace
  rw [String.toList_ofList]
  generalize hl : s.toList.dropWhile isSpace = l
  have hfix : l.dropWhile isSpace = l := by
    rw [← hl, List.dropWhile_idempotent]
  have htrim : (l.reverse.dropWhile isSpace).reverse.dropWhile isSpace =
      (l.reverse.dropWhile isSpace).reverse := by
    have hpre : (l.reverse.dropWhile isSpace).reverse <+: l := List.rdropWhile_prefix isSpace l
    rw [List.dropWhile_eq_self_iff] at hfix ⊢
    intro hpos
    rw [hpre.getElem hpos]
    exact hfix _
  rw [htrim, List.reverse_reverse, List.dropWhile_idempotent]

/-- `strings.TrimRight`. -/
def trimRight (s : List Char) (cutset : List Char) : List Char :=
  (s.reverse.dropWhile (· ∈ cutset)).reverse

/-- `\s` of a Go regular expression. -/
def isRegexpSpace (c : Char) : Bool := c ∈ ['\t', '\n', '\x0c', '\r', ' ']

/-- The maximal runs of characters that are no whitespace; `current` is the run read so far. -/
def words : List Char → List Char → List (List Char)
  | [], current => [current]
  | c :: cs, current => if isRegexpSpace c then current :: words cs [] else words cs (current ++ [c])

/-- The submatches of `(?:^|\s)@(\S+)`: an at sign at the start of a word, and the rest of it. -/
def mentionTokens (text : String) : List (List Char) :=
  (words text.toList []).filterMap fun word =>
    match word with
    | '@' :: c :: cs => some (c :: cs)
    | _ => none

/-- `sliceSubtract`: the elements of the first list that the second one lacks. -/
def sliceSubtract {α : Type} [DecidableEq α] (a b : List α) : List α := a.filter (· ∉ b)

theorem mem_sliceSubtract {α : Type} [DecidableEq α] {a b : List α} {x : α} :
    x ∈ sliceSubtract a b ↔ x ∈ a ∧ x ∉ b := by
  simp [sliceSubtract]

/-- The number that decimal digits denote. -/
def parseDigits (cs : List Char) : Option Int :=
  if cs ≠ [] ∧ cs.all Char.isDigit = true then some (Nat.ofDigitChars 10 cs 0) else none

/-- A number in decimal, with an optional sign. -/
def parseSigned : List Char → Option Int
  | '-' :: cs => (parseDigits cs).map (- ·)
  | '+' :: cs => parseDigits cs
  | cs => parseDigits cs

/-- `strconv.ParseInt` to the base 10 and 64 bits. -/
def parseInt64 (s : String) : Option Int :=
  (parseSigned s.toList).filter fun n => -2 ^ 63 ≤ n && n < 2 ^ 63

/-- `conv.ParseInt32`. -/
def parseInt32 (s : String) : Option Int :=
  (parseSigned s.toList).filter fun n => -2 ^ 31 ≤ n && n < 2 ^ 31

theorem isDigit_of_toDigits {n : Nat} {c : Char} (hc : c ∈ Nat.toDigits 10 n) : c.isDigit = true :=
  Nat.isDigit_of_mem_toDigits (by decide) (by decide) hc

theorem parseDigits_toDigits (n : Nat) : parseDigits (Nat.toDigits 10 n) = some (n : Int) := by
  have hne : Nat.toDigits 10 n ≠ [] := Nat.toDigits_ne_nil
  have hall : (Nat.toDigits 10 n).all Char.isDigit = true :=
    List.all_eq_true.mpr fun c hc => isDigit_of_toDigits hc
  rw [parseDigits, if_pos ⟨hne, hall⟩, Nat.ofDigitChars_ten_toDigits]

/-- What `toString` prints is read back. -/
theorem parseSigned_toString (n : Int) : parseSigned (toString n).toList = some n := by
  cases n with
  | ofNat n =>
      have htext : (toString (Int.ofNat n)).toList = Nat.toDigits 10 n := Nat.toList_repr
      rw [htext]
      rw [parseSigned.eq_def]
      split
      · rename_i cs hcs
        exact absurd (isDigit_of_toDigits (hcs ▸ List.mem_cons_self)) (by decide)
      · rename_i cs hcs
        exact absurd (isDigit_of_toDigits (hcs ▸ List.mem_cons_self)) (by decide)
      · exact parseDigits_toDigits n
  | negSucc n =>
      have htext : (toString (Int.negSucc n)).toList = '-' :: Nat.toDigits 10 (n + 1) := by
        change ("-" ++ Nat.repr (n + 1)).toList = _
        rw [String.toList_append, Nat.toList_repr]
        rfl
      rw [htext, parseSigned, parseDigits_toDigits]
      rfl

theorem parseInt64_toString {n : Int} (hlow : -2 ^ 63 ≤ n) (hhigh : n < 2 ^ 63) :
    parseInt64 (toString n) = some n := by
  rw [parseInt64, parseSigned_toString, Option.filter_some, if_pos]
  rw [decide_eq_true hlow, decide_eq_true hhigh]
  rfl

example : mentionTokens "ask @bob, or mail a@b.org @ noon" = ["bob,".toList] := by decide

end OcfIms
