import Mathlib
import OcfIms.LibNumeral
import OcfIms.TokenRoles

/-!
# What an access token says of its bearer

An access token carries the bearer's number as its subject and their positions as a set of bits, which
is written as one number in base 62. Both are read back by whoever is shown the token.
-/

namespace OcfIms.TokenFormat

open NumeralLib

/-! ## Positions -/

def compactIntBase : Alphabet where
  chars := "0123456789abcdefghijklmnopqrstuvwxyzABCDEFGHIJKLMNOPQRSTUVWXYZ".toList
  nodup := by decide
  two_le := by decide

/-- `big.Int.SetString`: a sign, if there is one, and digits up to the end. -/
def setString : List Char → Option Int
  | '-' :: digits => (compactIntBase.value digits).map fun n => -(n : Int)
  | '+' :: digits => (compactIntBase.value digits).map fun n => (n : Int)
  | digits => (compactIntBase.value digits).map fun n => (n : Int)

def unmarshalBigInt (s : String) : Int := if s = "" then 0 else (setString s.toList).getD 0

/-- `bitSetToInts`, which panics where the number is negative. -/
def bitSetToInts (bigint : Int) : Option (List Nat) :=
  if bigint < 0 then none
  else some ((List.range bigint.toNat.size).filter fun i => bigint.toNat.testBit i)

def personPositions (c : TokenClaims) : Option (List Nat) :=
  bitSetToInts (unmarshalBigInt c.positions)

/-- `intsToBitSet`. -/
def intsToBitSet (ints : List Nat) : Nat := ints.foldl (fun b i => b ||| 1 <<< i) 0

theorem testBit_intsToBitSet (ints : List Nat) (i : Nat) :
    (intsToBitSet ints).testBit i = decide (i ∈ ints) := by
  have hfold : ∀ b : Nat, (ints.foldl (fun b i => b ||| 1 <<< i) b).testBit i =
      (b.testBit i || decide (i ∈ ints)) := by
    induction ints with
    | nil => intro b; simp
    | cons j ints ih =>
        intro b
        have hbit : (1 <<< j).testBit i = decide (i = j) := by
          rw [Nat.one_shiftLeft, Nat.testBit_two_pow, decide_eq_decide]
          exact eq_comm
        rw [List.foldl_cons, ih, Nat.testBit_or, hbit, Bool.or_assoc, ← Bool.decide_or]
        exact congrArg _ (decide_eq_decide.mpr List.mem_cons.symm)
  rw [intsToBitSet, hfold, Nat.zero_testBit, Bool.false_or]

theorem compactInts_eq (ints : List Nat) :
    (compactInts ints).toList = compactIntBase.text (intsToBitSet ints) := by
  rw [compactInts, Alphabet.text, intsToBitSet]
  split
  · rfl
  · rw [String.toList_ofList]
    rfl

/-- A numeral has no sign. -/
theorem value_sign {c : Char} (hc : c = '-' ∨ c = '+') (rest : List Char) :
    compactIntBase.value (c :: rest) = none := by
  have hpush : compactIntBase.push 0 c = none := by
    rcases hc with rfl | rfl <;> decide
  rw [Alphabet.value, if_neg (List.cons_ne_nil _ _), List.foldlM_cons, hpush]
  rfl

theorem setString_of_value {s : List Char} {n : Nat} (h : compactIntBase.value s = some n) :
    setString s = some (n : Int) := by
  rw [setString.eq_def]
  split
  · rw [value_sign (.inl rfl)] at h
    cases h
  · rw [value_sign (.inr rfl)] at h
    cases h
  · rw [h]
    rfl

theorem unmarshalBigInt_of_value {s : String} {n : Nat}
    (h : compactIntBase.value s.toList = some n) : unmarshalBigInt s = n := by
  have hne : s ≠ "" := by
    rintro rfl
    cases h
  rw [unmarshalBigInt, if_neg hne, setString_of_value h, Option.getD_some]

theorem unmarshalBigInt_compactInts (ints : List Nat) :
    unmarshalBigInt (compactInts ints) = intsToBitSet ints := by
  refine unmarshalBigInt_of_value ?_
  rw [compactInts_eq, Alphabet.value_text]

/-- The positions of a set of bits, in increasing order. -/
theorem bitSetToInts_ofNat (n : Nat) :
    ∃ ps, bitSetToInts n = some ps ∧ ps.Pairwise (· < ·) ∧ ∀ i, i ∈ ps ↔ n.testBit i = true := by
  refine ⟨_, if_neg (not_lt.mpr (Int.natCast_nonneg n)), List.pairwise_lt_range.filter _, fun i => ?_⟩
  rw [List.mem_filter, List.mem_range, Int.toNat_natCast]
  refine and_iff_right_of_imp fun hbit => ?_
  by_contra hsize
  rw [Nat.testBit_lt_two_pow (Nat.size_le.mp (not_lt.mp hsize))] at hbit
  cases hbit

/-- A set of bits is the set of bits of its positions. -/
theorem intsToBitSet_eq {ps : List Nat} {n : Nat} (h : ∀ i, i ∈ ps ↔ n.testBit i = true) :
    intsToBitSet ps = n := by
  refine Nat.eq_of_testBit_eq fun i => ?_
  rw [testBit_intsToBitSet, Bool.eq_iff_iff, decide_eq_true_iff]
  exact h i

/-! ## The token -/

theorem personID_accessClaims (user : DirectoryUser) (issuedAt expiration : Int) :
    (accessClaims user issuedAt expiration).personID =
      if -2 ^ 31 ≤ user.id ∧ user.id < 2 ^ 31 then user.id else -1 := by
  have hsubject : (accessClaims user issuedAt expiration).subject = toString user.id := rfl
  rw [TokenClaims.personID, hsubject, parseInt64, parseSigned_toString]
  have hfilter : ∀ k : Nat, (some user.id).filter (fun n => -2 ^ k ≤ n && n < 2 ^ k) =
      if -2 ^ k ≤ user.id ∧ user.id < 2 ^ k then some user.id else none := by
    intro k
    rw [Option.filter_some]
    refine ite_congr (propext ?_) (fun _ => rfl) fun _ => rfl
    rw [Bool.and_eq_true, decide_eq_true_iff, decide_eq_true_iff]
  rw [hfilter 63]
  by_cases hrange : -2 ^ 31 ≤ user.id ∧ user.id < 2 ^ 31
  · have hwide : -2 ^ 63 ≤ user.id ∧ user.id < 2 ^ 63 := by omega
    rw [if_pos hwide, hfilter 31, if_pos hrange, if_pos hrange, Option.getD_some]
  · rw [if_neg hrange]
    split
    · rw [hfilter 31, if_neg hrange, Option.getD_none]
    · rfl

/-- **A token tells what it was made of.** The number of its bearer, where that is one of the
registry's, and their positions, each once and in order; and a numeral that is read as positions is,
without its leading zeros, what those positions are written as. -/
theorem accessToken_roundTrip :
    (∀ (user : DirectoryUser) (issuedAt expiration : Int),
      (accessClaims user issuedAt expiration).personID =
          (if -2 ^ 31 ≤ user.id ∧ user.id < 2 ^ 31 then user.id else -1) ∧
        ∃ ps, personPositions (accessClaims user issuedAt expiration) = some ps ∧
          ps.Pairwise (· < ·) ∧ ∀ i, i ∈ ps ↔ i ∈ user.positionIDs) ∧
      ∀ (c : TokenClaims) (n : Nat), compactIntBase.value c.positions.toList = some n →
        ∃ ps, personPositions c = some ps ∧ (compactInts ps).toList =
          if n = 0 then ['0'] else c.positions.toList.dropWhile (· = '0') := by
  constructor
  · intro user issuedAt expiration
    refine ⟨personID_accessClaims user issuedAt expiration, ?_⟩
    obtain ⟨ps, hps, hsorted, hmem⟩ := bitSetToInts_ofNat (intsToBitSet user.positionIDs)
    have hpositions : (accessClaims user issuedAt expiration).positions =
        compactInts user.positionIDs := rfl
    refine ⟨ps, ?_, hsorted, fun i => ?_⟩
    · rw [personPositions, hpositions, unmarshalBigInt_compactInts, hps]
    · rw [hmem, testBit_intsToBitSet, decide_eq_true_iff]
  · intro c n hvalue
    obtain ⟨ps, hps, -, hmem⟩ := bitSetToInts_ofNat n
    refine ⟨ps, ?_, ?_⟩
    · rw [personPositions, unmarshalBigInt_of_value hvalue, hps]
    · rw [compactInts_eq, intsToBitSet_eq hmem]
      split
      · rename_i hn
        rw [hn]
        rfl
      · rename_i hn
        exact Alphabet.text_of_value hvalue hn

/-- A reporter's token, and one whose positions have been written with zeros before them. -/
theorem accessToken_roundTrip_two :
    let jo : DirectoryUser :=
      { id := 7, handle := "Jo", email := "jo@fair.org", password := "", positionIDs := [3, 1, 3] }
    let padded : TokenClaims := { accessClaims jo 0 60000000000 with positions := "00a" }
    (accessClaims jo 0 60000000000).personID = 7 ∧
      (∃ ps, personPositions (accessClaims jo 0 60000000000) = some ps ∧ ps.Pairwise (· < ·) ∧
        ∀ i, i ∈ ps ↔ i ∈ [3, 1, 3]) ∧
      ∃ ps, personPositions padded = some ps ∧ (compactInts ps).toList = ['a'] := by
  intro jo padded
  obtain ⟨hwritten, hread⟩ := accessToken_roundTrip
  obtain ⟨hbearer, hpositions⟩ := hwritten jo 0 60000000000
  obtain ⟨ps, hps, htext⟩ := hread padded 10 (by decide)
  exact ⟨hbearer, hpositions, ps, hps, htext.trans (by decide)⟩

end OcfIms.TokenFormat
