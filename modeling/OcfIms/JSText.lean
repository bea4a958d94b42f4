import Mathlib
import OcfIms.PersistedCache

/-!
# Texts of the client

Texts are sequences of UTF-16 code units: how they are trimmed, and how whole numbers are printed and
read.
-/

namespace OcfIms

/-- White space of a code unit; no half of a surrogate pair is white space. -/
def isSpaceUnit (u : UInt16) : Bool := isJSSpace (Char.ofNat u.toNat)

/-- `trim`. -/
def trimText (s : JSString) : JSString :=
  ((s.dropWhile isSpaceUnit).reverse.dropWhile isSpaceUnit).reverse

/-- `s || t`, of texts. -/
def orText (s t : JSString) : JSString := if s = [] then t else s

/-- `includes`. -/
def includes (text token : JSString) : Bool := text.tails.any fun s => token.isPrefixOf s

theorem includes_iff {text token : JSString} : includes text token = true ↔ token <:+: text := by
  rw [includes, List.any_eq_true, List.infix_iff_prefix_suffix]
  simp only [List.mem_tails, List.isPrefixOf_iff_prefix]
  exact exists_congr fun s => and_comm

/-- `\d`. -/
def isDigitUnit (u : UInt16) : Bool := 48 ≤ u.toNat && u.toNat ≤ 57

def digitUnit (d : Nat) : UInt16 := UInt16.ofNat (48 + d)

/-- What digits denote, after those that denote `n`. -/
def digitsFrom (n : Nat) (s : JSString) : Nat := s.foldl (fun n u => n * 10 + (u.toNat - 48)) n

/-- `Number`, of a text of digits. -/
def numberOfDigits (s : JSString) : Nat := digitsFrom 0 s

/-- `String`, of a whole number. -/
def numberText (n : Int) : JSString := utf16 (toString n)

section Digits

theorem toNat_digitUnit {d : Nat} (h : d < 10) : (digitUnit d).toNat = 48 + d := by
  rw [digitUnit, UInt16.toNat_ofNat', Nat.mod_eq_of_lt (by omega)]

theorem isDigitUnit_digitUnit {d : Nat} (h : d < 10) : isDigitUnit (digitUnit d) = true := by
  simp only [isDigitUnit, toNat_digitUnit h, Bool.and_eq_true, decide_eq_true_eq]
  omega

/-- A digit is the digit of a number below ten. -/
theorem exists_digitUnit {u : UInt16} (h : isDigitUnit u = true) : ∃ d, d < 10 ∧ u = digitUnit d := by
  simp only [isDigitUnit, Bool.and_eq_true, decide_eq_true_eq] at h
  refine ⟨u.toNat - 48, by omega, ?_⟩
  rw [digitUnit, ← UInt16.ofNat_toNat (x := u)]
  congr 1
  rw [UInt16.ofNat_toNat]
  omega

theorem unit_digitChar {d : Nat} (h : d < 10) : UInt16.ofNat d.digitChar.toNat = digitUnit d := by
  interval_cases d <;> rfl

theorem numberText_ofNat (n : Nat) :
    numberText n = (Nat.toDigits 10 n).map fun c => UInt16.ofNat c.toNat := by
  have htext : (toString (n : Int)).toList = Nat.toDigits 10 n := Nat.toList_repr
  rw [numberText, utf16, htext]

theorem numberText_ne_nil (n : Nat) : numberText n ≠ [] := by
  rw [numberText_ofNat]
  exact fun hnil => Nat.toDigits_ne_nil (List.map_eq_nil_iff.mp hnil)

theorem numberText_digit {d : Nat} (h : d < 10) : numberText d = [digitUnit d] := by
  rw [numberText_ofNat, Nat.toDigits_of_lt_base h, List.map_singleton, unit_digitChar h]

/-- One more digit. -/
theorem numberText_snoc {n d : Nat} (hn : 0 < n) (hd : d < 10) :
    numberText (n * 10 + d : Nat) = numberText n ++ [digitUnit d] := by
  rw [numberText_ofNat, numberText_ofNat, Nat.toDigits_eq_if (by decide), if_neg (by omega)]
  have hdiv : (n * 10 + d) / 10 = n := by omega
  have hmod : (n * 10 + d) % 10 = d := by omega
  rw [hdiv, hmod, List.map_append, List.map_singleton, unit_digitChar hd]

theorem digitsFrom_snoc (n : Nat) (s : JSString) {d : Nat} (hd : d < 10) :
    digitsFrom n (s ++ [digitUnit d]) = digitsFrom n s * 10 + d := by
  rw [digitsFrom, List.foldl_append, List.foldl_cons, List.foldl_nil, toNat_digitUnit hd, digitsFrom]
  omega

/-- **What is printed is read back.** -/
theorem numberOfDigits_numberText (n : Nat) : numberOfDigits (numberText n) = n := by
  induction n using Nat.strong_induction_on with
  | _ n ih =>
      by_cases h : n < 10
      · rw [numberText_digit h, numberOfDigits, ← List.nil_append [digitUnit n],
          digitsFrom_snoc 0 [] h]
        simp [digitsFrom]
      · have hn : n = n / 10 * 10 + n % 10 := by omega
        rw [hn, numberText_snoc (by omega) (by omega), numberOfDigits,
          digitsFrom_snoc 0 _ (by omega)]
        have hread := ih (n / 10) (by omega)
        rw [numberOfDigits] at hread
        rw [hread]

theorem digits_numberText (n : Nat) : ∀ u ∈ numberText n, isDigitUnit u = true := by
  intro u hu
  rw [numberText_ofNat] at hu
  obtain ⟨c, hc, rfl⟩ := List.mem_map.mp hu
  obtain ⟨hlow, hhigh⟩ := toNat_bounds_of_isDigit (isDigit_of_toDigits hc)
  simp only [isDigitUnit, UInt16.toNat_ofNat', Nat.mod_eq_of_lt (show c.toNat < 2 ^ 16 by omega),
    Bool.and_eq_true, decide_eq_true_eq]
  exact ⟨hlow, hhigh⟩

/-- A positive number is printed with no zero in front. -/
theorem head_numberText {n : Nat} (hn : 0 < n) : (numberText n).head? ≠ some 48 := by
  induction n using Nat.strong_induction_on with
  | _ n ih =>
      by_cases h : n < 10
      · rw [numberText_digit h, List.head?_cons]
        intro hzero
        have hunit := congrArg UInt16.toNat (Option.some.inj hzero)
        rw [toNat_digitUnit h] at hunit
        have h48 : (48 : UInt16).toNat = 48 := rfl
        omega
      · have hsplit : n = n / 10 * 10 + n % 10 := by omega
        rw [hsplit, numberText_snoc (by omega) (by omega)]
        rw [List.head?_append_of_ne_nil _ (numberText_ne_nil (n / 10))]
        exact ih (n / 10) (by omega) (by omega)

end Digits

end OcfIms
