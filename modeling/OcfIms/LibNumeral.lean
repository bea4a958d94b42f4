import Mathlib

/-!
# Numerals over an alphabet

A positional numeral system is a list of distinct characters, which are the digits in order. A number
is written with its most significant digit first and without leading zeros; what is read back may
have them.
-/

namespace NumeralLib

/-- The digits of a numeral system. -/
structure Alphabet where
  chars : List Char
  nodup : chars.Nodup
  two_le : 2 ≤ chars.length

namespace Alphabet

variable (a : Alphabet)

def base : Nat := a.chars.length

def digit (d : Nat) : Char := a.chars.getD d '0'

/-- The digits of a number, the least significant first, as they are written. -/
def write (ds : List Nat) : List Char := ds.reverse.map a.digit

def text (n : Nat) : List Char := if n = 0 then [a.digit 0] else a.write (Nat.digits a.base n)

/-- Read one more digit. -/
def push (n : Nat) (c : Char) : Option Nat := (a.chars.idxOf? c).map fun d => n * a.base + d

/-- The number that a text is a numeral of. -/
def value (s : List Char) : Option Nat := if s = [] then none else s.foldlM a.push 0

variable {a}

theorem one_lt_base : 1 < a.base := a.two_le

theorem idxOf?_digit {d : Nat} (hd : d < a.base) : a.chars.idxOf? (a.digit d) = some d := by
  refine List.idxOf?_eq_some_iff.mpr ⟨hd, (List.getD_eq_getElem _ _ hd).symm, fun j hj heq => ?_⟩
  rw [digit, List.getD_eq_getElem _ _ hd] at heq
  exact hj.ne (a.nodup.getElem_inj_iff.mp heq)

theorem digit_of_idxOf? {c : Char} {d : Nat} (h : a.chars.idxOf? c = some d) :
    d < a.base ∧ a.digit d = c := by
  obtain ⟨hd, hc, -⟩ := List.idxOf?_eq_some_iff.mp h
  exact ⟨hd, (List.getD_eq_getElem _ _ hd).trans hc⟩

theorem push_digit {d : Nat} (hd : d < a.base) (n : Nat) :
    a.push n (a.digit d) = some (n * a.base + d) := by
  rw [push, idxOf?_digit hd, Option.map_some]

theorem write_cons (d : Nat) (ds : List Nat) : a.write (d :: ds) = a.write ds ++ [a.digit d] := by
  rw [write, List.reverse_cons, List.map_append, write]
  rfl

theorem write_concat (d : Nat) (ds : List Nat) : a.write (ds ++ [d]) = a.digit d :: a.write ds := by
  rw [write, List.reverse_concat, List.map_cons, write]

/-- What has been read goes on as the more significant digits. -/
theorem foldlM_write {ds : List Nat} (hds : ∀ d ∈ ds, d < a.base) (n : Nat) :
    (a.write ds).foldlM a.push n = some (n * a.base ^ ds.length + Nat.ofDigits a.base ds) := by
  induction ds with
  | nil => simp [write]
  | cons d ds ih =>
      rw [write_cons, List.foldlM_append, ih fun d' hd' => hds d' (List.mem_cons_of_mem d hd')]
      simp only [Option.bind_eq_bind, Option.bind_some, List.foldlM_cons, List.foldlM_nil,
        push_digit (hds d List.mem_cons_self), Nat.ofDigits_cons, List.length_cons, pow_succ]
      refine congrArg some ?_
      ring

theorem value_write {ds : List Nat} (hne : ds ≠ []) (hds : ∀ d ∈ ds, d < a.base) :
    a.value (a.write ds) = some (Nat.ofDigits a.base ds) := by
  have hwrite : a.write ds ≠ [] := by simpa [write] using hne
  rw [value, if_neg hwrite, foldlM_write hds, Nat.zero_mul, Nat.zero_add]

/-- What is written is read back. -/
theorem value_text (n : Nat) : a.value (a.text n) = some n := by
  rw [text]
  split
  · rename_i hn
    have hzero : ∀ d ∈ [0], d < a.base := by simpa using Nat.zero_lt_of_lt one_lt_base
    rw [hn]
    exact value_write (List.cons_ne_nil _ _) hzero
  · rename_i hn
    rw [value_write (Nat.digits_ne_nil_iff_ne_zero.mpr hn)
      fun d hd => Nat.digits_lt_base one_lt_base hd, Nat.ofDigits_digits]

/-- Every numeral is written of digits. -/
theorem exists_write {s : List Char} {m n : Nat} (h : s.foldlM a.push m = some n) :
    ∃ ds, (∀ d ∈ ds, d < a.base) ∧ s = a.write ds := by
  induction s generalizing m with
  | nil => exact ⟨[], fun d hd => (nomatch hd), rfl⟩
  | cons c s ih =>
      rw [List.foldlM_cons, Option.bind_eq_bind, Option.bind_eq_some_iff] at h
      obtain ⟨m', hpush, hrest⟩ := h
      obtain ⟨d, hidx, -⟩ := Option.map_eq_some_iff.mp hpush
      obtain ⟨hd, rfl⟩ := digit_of_idxOf? hidx
      obtain ⟨ds, hds, rfl⟩ := ih hrest
      refine ⟨ds ++ [d], fun d' hd' => ?_, ?_⟩
      · rcases List.mem_append.mp hd' with hd' | hd'
        · exact hds d' hd'
        · rw [List.mem_singleton.mp hd']
          exact hd
      · rw [write_concat]

/-- Leading zeros aside, a numeral is what its number is written as. -/
theorem write_digits {ds : List Nat} (hds : ∀ d ∈ ds, d < a.base) :
    a.write (Nat.digits a.base (Nat.ofDigits a.base ds)) =
      (a.write ds).dropWhile (· = a.digit 0) := by
  induction ds using List.reverseRecOn with
  | nil => simp [write]
  | append_singleton ds d ih =>
      have hd : d < a.base := hds d (List.mem_append_right _ (List.mem_singleton_self d))
      rw [write_concat]
      by_cases hzero : d = 0
      · subst hzero
        have hdrop : (a.digit 0 :: a.write ds).dropWhile (· = a.digit 0) =
            (a.write ds).dropWhile (· = a.digit 0) :=
          List.dropWhile_cons_of_pos (decide_eq_true rfl)
        rw [Nat.ofDigits_append_zero, hdrop, ih fun d hd => hds d (List.mem_append_left _ hd)]
      · have hdigit : a.digit d ≠ a.digit 0 := fun heq => hzero
          (Option.some.inj ((idxOf?_digit hd).symm.trans
            (heq ▸ idxOf?_digit (Nat.zero_lt_of_lt one_lt_base))))
        rw [List.dropWhile_cons_of_neg (by simpa using hdigit), ← write_concat,
          Nat.digits_ofDigits _ one_lt_base _ hds fun _ => by simpa using hzero]

/-- What is read is written again without its leading zeros. -/
theorem text_of_value {s : List Char} {n : Nat} (h : a.value s = some n) (hn : n ≠ 0) :
    a.text n = s.dropWhile (· = a.digit 0) := by
  rw [value] at h
  split at h
  · cases h
  · obtain ⟨ds, hds, rfl⟩ := exists_write h
    rw [foldlM_write hds, Nat.zero_mul, Nat.zero_add, Option.some.injEq] at h
    subst h
    rw [text, if_neg hn, write_digits hds]

end Alphabet

end NumeralLib
