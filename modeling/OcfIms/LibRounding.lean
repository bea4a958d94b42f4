import Mathlib

/-!
# Rounding to a number of bits

A fraction is rounded to the nearest number that has at most `p` bits before its trailing zeros, and
to the even one of two that are as near. A short number keeps all its bits, so nothing is ever rounded
to less than a unit. Rounding keeps the order.
-/

namespace RoundingLib

/-- The whole number nearest to a fraction, the even one of two. -/
def nearest (num d : Nat) : Nat :=
  if 2 * (num % d) < d ∨ 2 * (num % d) = d ∧ num / d % 2 = 0 then num / d
  else num / d + 1

/-- How many bits the whole part of a fraction has to give up. -/
def excess (p num d : Nat) : Nat := (num / d).log2 + 1 - p

def roundNat (p num d : Nat) : Nat :=
  nearest num (d * 2 ^ excess p num d) * 2 ^ excess p num d

/-- Below zero as above it. -/
def round (p : Nat) (num : Int) (d : Nat) : Int :=
  if 0 ≤ num then roundNat p num.toNat d else -roundNat p (-num).toNat d

section Nearest

variable {m num num' d : Nat}

theorem nearest_le : nearest num d ≤ num / d + 1 := by
  unfold nearest
  split <;> omega

theorem le_nearest : num / d ≤ nearest num d := by
  unfold nearest
  split <;> omega

theorem nearest_mono (h : num ≤ num') : nearest num d ≤ nearest num' d := by
  rcases Nat.lt_or_eq_of_le (Nat.div_le_div_right (c := d) h) with hlt | heq
  · exact nearest_le.trans (hlt.trans_le le_nearest)
  · have hrest : num % d ≤ num' % d := by
      have hnum := Nat.div_add_mod num d
      have hnum' := Nat.div_add_mod num' d
      rw [heq] at hnum
      omega
    unfold nearest
    rw [heq]
    split <;> split <;> omega

theorem nearest_mul (hd : 0 < d) : nearest (m * d) d = m := by
  rw [nearest, Nat.mul_mod_left, Nat.mul_div_cancel m hd, if_pos (.inl (by omega))]

end Nearest

section Round

variable {p d : Nat}

theorem log2_mono {n n' : Nat} (h : n ≤ n') : n.log2 ≤ n'.log2 := by
  by_cases hn : n = 0
  · rw [hn, Nat.log2_zero]
    exact Nat.zero_le _
  · exact (Nat.le_log2 (by omega)).mpr ((Nat.log2_self_le hn).trans h)

theorem excess_mono {num num' : Nat} (h : num ≤ num') : excess p num d ≤ excess p num' d := by
  have hlog := log2_mono (Nat.div_le_div_right (c := d) h)
  unfold excess
  omega

theorem roundNat_le (hd : 0 < d) (num : Nat) :
    roundNat p num d ≤ 2 ^ (p + excess p num d) := by
  have hlt : num / d < 2 ^ (p + excess p num d) :=
    Nat.lt_log2_self.trans_le (Nat.pow_le_pow_right (by decide) (by unfold excess; omega))
  have hnum : num ≤ 2 ^ p * (d * 2 ^ excess p num d) := by
    rw [Nat.mul_left_comm, ← Nat.pow_add, Nat.mul_comm]
    exact (Nat.lt_mul_of_div_lt hlt hd).le
  have hnearest := nearest_mono (d := d * 2 ^ excess p num d) hnum
  rw [nearest_mul (by positivity)] at hnearest
  rw [roundNat, Nat.pow_add]
  exact Nat.mul_le_mul_right _ hnearest

theorem le_roundNat (hp : 0 < p) (hd : 0 < d) {num : Nat} (h : 0 < excess p num d) :
    2 ^ (p - 1 + excess p num d) ≤ roundNat p num d := by
  have hlog : p - 1 + excess p num d = (num / d).log2 := by
    unfold excess at h ⊢
    omega
  have hpos : num / d ≠ 0 := by
    rintro hzero
    rw [excess, hzero, Nat.log2_zero] at h
    omega
  have hnum : 2 ^ (p - 1) * (d * 2 ^ excess p num d) ≤ num := by
    rw [Nat.mul_left_comm, ← Nat.pow_add, hlog]
    exact (Nat.mul_le_mul_left d (Nat.log2_self_le hpos)).trans (Nat.mul_div_le num d)
  have hnearest := nearest_mono (d := d * 2 ^ excess p num d) hnum
  rw [nearest_mul (by positivity)] at hnearest
  rw [roundNat, Nat.pow_add]
  exact Nat.mul_le_mul_right _ hnearest

theorem roundNat_mono (hp : 0 < p) (hd : 0 < d) {num num' : Nat} (h : num ≤ num') :
    roundNat p num d ≤ roundNat p num' d := by
  rcases Nat.lt_or_eq_of_le (excess_mono (p := p) (d := d) h) with hlt | heq
  · refine (roundNat_le hd num).trans (le_trans ?_ (le_roundNat hp hd (by omega)))
    exact Nat.pow_le_pow_right (by decide) (by omega)
  · rw [roundNat, roundNat, heq]
    exact Nat.mul_le_mul_right _ (nearest_mono h)

/-- A number of at most `p` bits before its trailing zeros stays as it is. -/
theorem roundNat_of_short (hp : 0 < p) {k num : Nat} (hlt : num < 2 ^ (p + k))
    (hdvd : 2 ^ k ∣ num) : roundNat p num 1 = num := by
  have hexcess : excess p num 1 ≤ k := by
    rw [excess, Nat.div_one]
    by_cases hnum : num = 0
    · rw [hnum, Nat.log2_zero]
      omega
    · have hlog := (Nat.log2_lt hnum).mpr hlt
      omega
  obtain ⟨m, hm⟩ := (Nat.pow_dvd_pow 2 hexcess).trans hdvd
  have hnum : m * 2 ^ excess p num 1 = num := (Nat.mul_comm _ _).trans hm.symm
  have hkept : nearest (m * 2 ^ excess p num 1) (2 ^ excess p num 1) = m :=
    nearest_mul (by positivity)
  rw [hnum] at hkept
  rw [roundNat, Nat.one_mul, hkept, hnum]

theorem round_of_short (hp : 0 < p) {k : Nat} {num : Int} (hlt : num.natAbs < 2 ^ (p + k))
    (hdvd : (2 ^ k : Int) ∣ num) : round p num 1 = num := by
  have hdvd : 2 ^ k ∣ num.natAbs := by
    have h := Int.natAbs_dvd_natAbs.mpr hdvd
    rwa [Int.natAbs_pow] at h
  have habs := roundNat_of_short hp hlt hdvd
  unfold round
  split
  · rw [show num.toNat = num.natAbs by omega, habs]
    omega
  · rw [show (-num).toNat = num.natAbs by omega, habs]
    omega

/-- Rounding keeps the order. -/
theorem round_mono (hp : 0 < p) (hd : 0 < d) {num num' : Int} (h : num ≤ num') :
    round p num d ≤ round p num' d := by
  unfold round
  split <;> split
  · exact_mod_cast roundNat_mono hp hd (Int.toNat_le_toNat h)
  · omega
  · have hsum := Int.natCast_nonneg (roundNat p num'.toNat d)
    omega
  · have hback := roundNat_mono hp hd (Int.toNat_le_toNat (Int.neg_le_neg h))
    omega

end Round

end RoundingLib
