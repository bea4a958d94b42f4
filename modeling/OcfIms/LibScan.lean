import Mathlib

/-!
# Scanning a text by a format

The pieces of a scanner that reads a line by a format of literal characters and decimal numbers: a
literal has to stand as it is, a number may have white space before it, and a number that does not
fit its width is refused. Each piece is characterized by the texts it takes, so that a format's
scanner is characterized by putting its pieces together.
-/

namespace ScanLib

inductive ScanError
  | unexpectedEOF
  | mismatch
  | unexpectedNewline
  | expectedInteger
  | overflow (token : String)
  deriving DecidableEq, Repr

/-- The white space that a scanner skips; a line break is among it. -/
def isSpace (c : Char) : Bool :=
  let n := c.toNat
  (0x9 ≤ n && n ≤ 0xd) || n = 0x20 || n = 0x85 || n = 0xa0 || n = 0x1680 ||
    (0x2000 ≤ n && n ≤ 0x200a) || n = 0x2028 || n = 0x2029 || n = 0x202f || n = 0x205f ||
    n = 0x3000

/-- Literal characters of the format. -/
def literal : List Char → List Char → Except ScanError (List Char)
  | [], text => .ok text
  | _ :: _, [] => .error .unexpectedEOF
  | c :: cs, d :: text => if c = d then literal cs text else .error .mismatch

/-- White space before a number; a line ends there. -/
def skipSpace : List Char → Except ScanError (List Char)
  | [] => .ok []
  | c :: text =>
    if c = '\n' then .error .unexpectedNewline
    else if isSpace c then skipSpace text
    else .ok (c :: text)

/-- The digits of a number, at least one. -/
def digits : List Char → Except ScanError (List Char × List Char)
  | [] => .error .unexpectedEOF
  | c :: text =>
    if c.isDigit then .ok ((c :: text).takeWhile Char.isDigit, (c :: text).dropWhile Char.isDigit)
    else .error .expectedInteger

/-- A number of `bits` bits without a sign. -/
def unsigned (bits : Nat) (text : List Char) : Except ScanError (Nat × List Char) := do
  let text ← skipSpace text
  let (token, rest) ← digits text
  let n := Nat.ofDigitChars 10 token 0
  if n < 2 ^ bits then .ok (n, rest) else .error (.overflow (String.ofList token))

/-- The sign that a number may have. -/
def sign : List Char → Option Char × List Char
  | '+' :: text => (some '+', text)
  | '-' :: text => (some '-', text)
  | text => (none, text)

/-- What a sign makes of the value of the digits after it. -/
def withSign : Option Char → Int → Int
  | some '-', n => -n
  | _, n => n

/-- A number of `bits` bits with a sign, in two's complement. -/
def signed (bits : Nat) (text : List Char) : Except ScanError (Int × List Char) := do
  let text ← skipSpace text
  let (s, text) := sign text
  let (token, rest) ← digits text
  let n := withSign s (Nat.ofDigitChars 10 token 0)
  if -2 ^ (bits - 1) ≤ n ∧ n < 2 ^ (bits - 1) then .ok (n, rest)
  else .error (.overflow (String.ofList (s.toList ++ token)))

/-! ## What the pieces take -/

theorem bind_eq_ok_iff {ε α β : Type} {x : Except ε α} {f : α → Except ε β} {b : β} :
    (x >>= f) = .ok b ↔ ∃ a, x = .ok a ∧ f a = .ok b := by
  cases x <;> simp [bind, Except.bind]

variable {text rest : List Char}

theorem literal_eq_ok_iff : ∀ {cs text rest : List Char},
    literal cs text = .ok rest ↔ text = cs ++ rest
  | [], text, rest => by simp [literal]
  | c :: cs, [], rest => by simp [literal]
  | c :: cs, d :: text, rest => by
      rw [literal]
      split
      · rename_i hcd
        rw [literal_eq_ok_iff]
        simp [hcd]
      · rename_i hcd
        simp [Ne.symm hcd]

/-- White space without a line feed. -/
def Blank (text : List Char) : Prop := ∀ c ∈ text, isSpace c = true ∧ c ≠ '\n'

/-- A text that does not start with white space. -/
def Dense (text : List Char) : Prop := ∀ c ∈ text.head?, isSpace c = false

theorem skipSpace_eq_ok_iff : ∀ {text rest : List Char},
    skipSpace text = .ok rest ↔ Dense rest ∧ ∃ blank, Blank blank ∧ text = blank ++ rest
  | [], rest => by
      simp only [skipSpace, Except.ok.injEq]
      constructor
      · rintro rfl
        exact ⟨by simp [Dense], [], by simp [Blank], rfl⟩
      · rintro ⟨-, blank, -, h⟩
        exact (List.append_eq_nil_iff.mp h.symm).2.symm
  | c :: text, rest => by
      rw [skipSpace]
      by_cases hnl : c = '\n'
      · rw [if_pos hnl]
        subst hnl
        simp only [reduceCtorEq, false_iff]
        rintro ⟨hdense, blank, hblank, h⟩
        cases blank with
        | nil =>
            rw [List.nil_append] at h
            exact absurd (hdense '\n' (by simp [← h])) (by decide)
        | cons d blank =>
            cases h
            exact (hblank '\n' (List.mem_cons_self ..)).2 rfl
      rw [if_neg hnl]
      by_cases hsp : isSpace c = true
      · rw [if_pos hsp, skipSpace_eq_ok_iff]
        refine and_congr_right fun hdense => ?_
        constructor
        · rintro ⟨blank, hblank, rfl⟩
          refine ⟨c :: blank, ?_, rfl⟩
          intro d hd
          rcases List.mem_cons.mp hd with rfl | hd
          · exact ⟨hsp, hnl⟩
          · exact hblank d hd
        · rintro ⟨blank, hblank, h⟩
          cases blank with
          | nil =>
              rw [List.nil_append] at h
              exact absurd (hdense c (by simp [← h])) (by simp [hsp])
          | cons d blank =>
              cases h
              exact ⟨blank, fun d hd => hblank d (List.mem_cons_of_mem _ hd), rfl⟩
      · rw [if_neg hsp]
        simp only [Except.ok.injEq]
        constructor
        · rintro rfl
          exact ⟨by simpa [Dense] using hsp, [], by simp [Blank], rfl⟩
        · rintro ⟨-, blank, hblank, h⟩
          cases blank with
          | nil => exact h
          | cons d blank =>
              cases h
              exact absurd (hblank c (List.mem_cons_self ..)).1 hsp

/-- A text that does not start with a digit. -/
def EndsNumber (text : List Char) : Prop := ∀ c ∈ text.head?, c.isDigit = false

/-- A text of digits, at least one. -/
def Digits (text : List Char) : Prop := text ≠ [] ∧ ∀ c ∈ text, c.isDigit = true

theorem takeWhile_digits {token : List Char} (htoken : ∀ c ∈ token, c.isDigit = true)
    (hrest : EndsNumber rest) : (token ++ rest).takeWhile Char.isDigit = token ∧
      (token ++ rest).dropWhile Char.isDigit = rest := by
  have hstop : rest.takeWhile Char.isDigit = [] ∧ rest.dropWhile Char.isDigit = rest := by
    cases rest with
    | nil => exact ⟨rfl, rfl⟩
    | cons c rest =>
        have hc : c.isDigit = false := hrest c rfl
        simp [hc]
  rw [List.takeWhile_append_of_pos htoken, List.dropWhile_append_of_pos htoken, hstop.1, hstop.2,
    List.append_nil]
  exact ⟨rfl, rfl⟩

theorem digits_eq_ok_iff {token : List Char} :
    digits text = .ok (token, rest) ↔ Digits token ∧ EndsNumber rest ∧ text = token ++ rest := by
  constructor
  · intro h
    cases text with
    | nil => cases h
    | cons c text =>
        rw [digits] at h
        split at h
        · rename_i hc
          cases h
          refine ⟨⟨?_, fun d hd => ?_⟩, fun d hd => ?_, List.takeWhile_append_dropWhile.symm⟩
          · simp [hc]
          · exact List.mem_takeWhile_imp hd
          · have hhead := List.head?_dropWhile_not Char.isDigit (c :: text)
            rw [Option.mem_def.mp hd] at hhead
            simpa using hhead
        · cases h
  · rintro ⟨⟨hne, htoken⟩, hrest, rfl⟩
    obtain ⟨htake, hdrop⟩ := takeWhile_digits htoken hrest
    cases token with
    | nil => exact absurd rfl hne
    | cons c token =>
        have hc : c.isDigit = true := htoken c (List.mem_cons_self ..)
        rw [List.cons_append] at htake hdrop ⊢
        rw [digits, if_pos hc, htake, hdrop]

/-- A digit is no white space. -/
theorem isSpace_of_isDigit {c : Char} (h : c.isDigit = true) : isSpace c = false := by
  have hbounds : 48 ≤ c.toNat ∧ c.toNat ≤ 57 := by
    simpa [Char.isDigit, UInt32.le_iff_toNat_le] using h
  simp only [isSpace, Bool.or_eq_false_iff, Bool.and_eq_false_iff, decide_eq_false_iff_not]
  omega

/-- A text that a number of `bits` bits without a sign may be written as. -/
def Numeral (bits : Nat) (text : List Char) (n : Nat) : Prop :=
  ∃ blank token, Blank blank ∧ Digits token ∧ text = blank ++ token ∧
    Nat.ofDigitChars 10 token 0 = n ∧ n < 2 ^ bits

theorem Digits.dense {token : List Char} (h : Digits token) (rest : List Char) :
    Dense (token ++ rest) := by
  obtain ⟨hne, hdigits⟩ := h
  cases token with
  | nil => exact absurd rfl hne
  | cons c token =>
      intro d hd
      cases hd
      exact isSpace_of_isDigit (hdigits c (List.mem_cons_self ..))

theorem unsigned_eq_ok_iff {bits n : Nat} : unsigned bits text = .ok (n, rest) ↔
    EndsNumber rest ∧ ∃ number, Numeral bits number n ∧ text = number ++ rest := by
  unfold unsigned
  simp only [bind_eq_ok_iff]
  constructor
  · rintro ⟨dense, hskip, ⟨token, rest'⟩, hdigits, h⟩
    obtain ⟨-, blank, hblank, rfl⟩ := skipSpace_eq_ok_iff.mp hskip
    obtain ⟨htoken, hrest, rfl⟩ := digits_eq_ok_iff.mp hdigits
    split at h
    · rename_i hlt
      cases h
      exact ⟨hrest, blank ++ token, ⟨blank, token, hblank, htoken, rfl, rfl, hlt⟩,
        (List.append_assoc ..).symm⟩
    · cases h
  · rintro ⟨hrest, _, ⟨blank, token, hblank, htoken, rfl, rfl, hlt⟩, rfl⟩
    refine ⟨token ++ rest, ?_, (token, rest), ?_, ?_⟩
    · rw [List.append_assoc]
      exact skipSpace_eq_ok_iff.mpr ⟨htoken.dense rest, blank, hblank, rfl⟩
    · exact digits_eq_ok_iff.mpr ⟨htoken, hrest, rfl⟩
    · simp only
      rw [if_pos hlt]

/-- The sign of a number, with what it makes of the digits' value. -/
inductive Signed : List Char → Int → Int → Prop
  | none (n : Int) : Signed [] n n
  | plus (n : Int) : Signed ['+'] n n
  | minus (n : Int) : Signed ['-'] n (-n)

/-- A text that a number of `bits` bits with a sign may be written as. -/
def SignedNumeral (bits : Nat) (text : List Char) (n : Int) : Prop :=
  ∃ blank s token, ∃ m : Int, Blank blank ∧ Digits token ∧ text = blank ++ s ++ token ∧
    m = (Nat.ofDigitChars 10 token 0 : Nat) ∧ Signed s m n ∧
      -2 ^ (bits - 1) ≤ n ∧ n < 2 ^ (bits - 1)

theorem sign_eq (text : List Char) : ∃ s, text = s ++ (sign text).2 ∧
    ∀ m : Int, Signed s m (withSign (sign text).1 m) := by
  unfold sign
  split
  · exact ⟨['+'], rfl, fun m => .plus m⟩
  · exact ⟨['-'], rfl, fun m => .minus m⟩
  · exact ⟨[], rfl, fun m => .none m⟩

theorem sign_digits {token : List Char} (h : Digits token) (rest : List Char) :
    sign (token ++ rest) = (none, token ++ rest) := by
  obtain ⟨hne, hdigits⟩ := h
  cases token with
  | nil => exact absurd rfl hne
  | cons c token =>
      have hc : c.isDigit = true := hdigits c (List.mem_cons_self ..)
      rw [List.cons_append, sign.eq_def]
      split
      · rename_i heq
        cases heq
        cases hc
      · rename_i heq
        cases heq
        cases hc
      · rfl

theorem signed_eq_ok_iff {bits : Nat} {n : Int} : signed bits text = .ok (n, rest) ↔
    EndsNumber rest ∧ ∃ number, SignedNumeral bits number n ∧ text = number ++ rest := by
  unfold signed
  simp only [bind_eq_ok_iff]
  constructor
  · rintro ⟨dense, hskip, ⟨token, rest'⟩, hdigits, h⟩
    obtain ⟨-, blank, hblank, rfl⟩ := skipSpace_eq_ok_iff.mp hskip
    obtain ⟨htoken, hrest, htext⟩ := digits_eq_ok_iff.mp hdigits
    obtain ⟨s, hs, hsigned⟩ := sign_eq dense
    rw [htext] at hs
    split at h
    · rename_i hfits
      cases h
      refine ⟨hrest, blank ++ s ++ token, ⟨blank, s, token, _, hblank, htoken, rfl, rfl,
        hsigned _, hfits⟩, ?_⟩
      rw [hs]
      simp
    · cases h
  · rintro ⟨hrest, _, ⟨blank, s, token, m, hblank, htoken, rfl, hm, hsigned, hfits⟩, rfl⟩
    have hdense : Dense (s ++ token ++ rest) := by
      cases hsigned with
      | none => exact htoken.dense rest
      | plus => exact fun c hc => by cases hc; decide
      | minus => exact fun c hc => by cases hc; decide
    have hsign : ∃ s', sign (s ++ token ++ rest) = (s', token ++ rest) ∧
        withSign s' m = n := by
      cases hsigned with
      | none => exact ⟨none, sign_digits htoken rest, rfl⟩
      | plus => exact ⟨some '+', rfl, rfl⟩
      | minus => exact ⟨some '-', rfl, rfl⟩
    obtain ⟨s', hsign, hvalue⟩ := hsign
    refine ⟨s ++ token ++ rest, ?_, (token, rest), ?_, ?_⟩
    · refine skipSpace_eq_ok_iff.mpr ⟨hdense, blank, hblank, ?_⟩
      simp only [List.append_assoc]
    · rw [hsign]
      exact digits_eq_ok_iff.mpr ⟨htoken, hrest, rfl⟩
    · simp only [hsign, ← hm, hvalue]
      rw [if_pos hfits]

/-! ## What printing writes -/

theorem digits_toDigits (n : Nat) : Digits (Nat.toDigits 10 n) :=
  ⟨Nat.toDigits_ne_nil, fun _ hc => Nat.isDigit_of_mem_toDigits (by decide) (by decide) hc⟩

theorem numeral_toDigits {bits n : Nat} (h : n < 2 ^ bits) : Numeral bits (Nat.toDigits 10 n) n :=
  ⟨[], _, by simp [Blank], digits_toDigits n, rfl, Nat.ofDigitChars_ten_toDigits, h⟩

theorem signedNumeral_toDigits {bits n : Nat} (h : n < 2 ^ (bits - 1)) :
    SignedNumeral bits (Nat.toDigits 10 n) n := by
  refine ⟨[], [], _, n, by simp [Blank], digits_toDigits n, rfl, ?_, .none _, ?_, ?_⟩
  · rw [Nat.ofDigitChars_ten_toDigits]
  · have hpos : (0 : Int) < 2 ^ (bits - 1) := Int.pow_pos (by decide)
    omega
  · have hlt : ((n : Nat) : Int) < ((2 ^ (bits - 1) : Nat) : Int) := Int.ofNat_lt.mpr h
    simpa using hlt

end ScanLib
