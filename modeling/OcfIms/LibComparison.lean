import Mathlib

/-!
# Sorting by comparisons

A comparison of two elements is a number: negative, zero or positive as the first comes before the
second, ties with it or comes after it. Comparisons that are total preorders are built from keys, are
turned around, and break each other's ties. A sort by one that ties no two different elements of a
list gives the same list for every arrangement of it.
-/

namespace ComparisonLib

variable {α β : Type}

/-- The comparison is a total preorder. -/
structure Comparison (cmp : α → α → Int) : Prop where
  flip : ∀ a b, 0 ≤ cmp a b ↔ cmp b a ≤ 0
  trans : ∀ a b c, cmp a b ≤ 0 → cmp b c ≤ 0 → cmp a c ≤ 0

/-- Ties of the first are broken by the second. -/
def orElse (first second : α → α → Int) (a b : α) : Int :=
  if first a b ≠ 0 then first a b else second a b

/-- A stable sort by a comparison. -/
def sortBy (cmp : α → α → Int) (l : List α) : List α := l.mergeSort fun a b => cmp a b ≤ 0

section Comparisons

variable {cmp first second : α → α → Int}

theorem Comparison.total (h : Comparison cmp) (a b : α) : cmp a b ≤ 0 ∨ cmp b a ≤ 0 := by
  by_cases hab : cmp a b ≤ 0
  · exact .inl hab
  · exact .inr ((h.flip a b).mp (by omega))

/-- Elements that tie are at or before each other. -/
theorem Comparison.eq_zero_iff (h : Comparison cmp) {a b : α} :
    cmp a b = 0 ↔ cmp a b ≤ 0 ∧ cmp b a ≤ 0 := by
  rw [← h.flip a b]
  omega

theorem Comparison.flip_eq_zero (h : Comparison cmp) {a b : α} : cmp a b = 0 ↔ cmp b a = 0 := by
  rw [h.eq_zero_iff, h.eq_zero_iff, and_comm]

/-- Difference of a key. -/
theorem comparison_sub (key : α → Int) : Comparison fun a b => key a - key b where
  flip := fun a b => by omega
  trans := fun a b c hab hbc => by omega

/-- By a key that is compared itself. -/
theorem Comparison.comap {cmp : β → β → Int} (h : Comparison cmp) (key : α → β) :
    Comparison fun a b => cmp (key a) (key b) where
  flip := fun a b => h.flip (key a) (key b)
  trans := fun a b c => h.trans (key a) (key b) (key c)

theorem Comparison.neg (h : Comparison cmp) : Comparison fun a b => -cmp a b where
  flip := fun a b => by
    have hba := h.flip b a
    omega
  trans := fun a b c hab hbc => by
    have hba := (h.flip a b).mp (by omega)
    have hcb := (h.flip b c).mp (by omega)
    have hac := (h.flip a c).mpr (h.trans c b a hcb hba)
    omega

theorem Comparison.orElse (hfirst : Comparison first) (hsecond : Comparison second) :
    Comparison (orElse first second) where
  flip := fun a b => by
    have hflip := hfirst.flip a b
    have hzero : first a b = 0 ↔ first b a = 0 := hfirst.flip_eq_zero
    simp only [ComparisonLib.orElse]
    by_cases hab : first a b = 0
    · rw [if_neg (not_not.mpr hab), if_neg (not_not.mpr (hzero.mp hab))]
      exact hsecond.flip a b
    · rw [if_pos hab, if_pos (mt hzero.mpr hab)]
      exact hflip
  trans := fun a b c hab hbc => by
    simp only [ComparisonLib.orElse] at hab hbc ⊢
    have hle : ∀ x y, (if first x y ≠ 0 then first x y else second x y) ≤ 0 → first x y ≤ 0 := by
      intro x y h
      split at h <;> omega
    have hac := hfirst.trans a b c (hle a b hab) (hle b c hbc)
    by_cases hzero : first a c = 0
    · -- The ends tie, so both steps do.
      have hca := (hfirst.eq_zero_iff.mp hzero).2
      have hba := hfirst.trans b c a (hle b c hbc) hca
      have hcb := hfirst.trans c a b hca (hle a b hab)
      have habzero := hfirst.eq_zero_iff.mpr ⟨hle a b hab, hba⟩
      have hbczero := hfirst.eq_zero_iff.mpr ⟨hle b c hbc, hcb⟩
      rw [if_neg (not_not.mpr habzero)] at hab
      rw [if_neg (not_not.mpr hbczero)] at hbc
      rw [if_neg (not_not.mpr hzero)]
      exact hsecond.trans a b c hab hbc
    · rw [if_pos hzero]
      exact hac

theorem sortBy_perm (cmp : α → α → Int) (l : List α) : (sortBy cmp l).Perm l :=
  List.mergeSort_perm l _

theorem pairwise_sortBy (h : Comparison cmp) (l : List α) :
    (sortBy cmp l).Pairwise fun a b => cmp a b ≤ 0 := by
  refine (List.pairwise_mergeSort (fun a b c hab hbc => ?_) (fun a b => ?_) l).imp
    fun hab => of_decide_eq_true hab
  · exact decide_eq_true (h.trans a b c (of_decide_eq_true hab) (of_decide_eq_true hbc))
  · rw [Bool.or_eq_true, decide_eq_true_eq, decide_eq_true_eq]
    exact h.total a b

/-- **A sort that does not depend on the arrangement.** -/
theorem sortBy_eq_of_perm (h : Comparison cmp) {l l' : List α} (hperm : l.Perm l')
    (htie : ∀ a ∈ l, ∀ b ∈ l, cmp a b = 0 → a = b) : sortBy cmp l = sortBy cmp l' := by
  have hsorted := (sortBy_perm cmp l).trans (hperm.trans (sortBy_perm cmp l').symm)
  refine hsorted.eq_of_pairwise (fun a b ha hb hab hba => ?_) (pairwise_sortBy h l)
    (pairwise_sortBy h l')
  have ha' := (sortBy_perm cmp l).mem_iff.mp ha
  have hb' := hperm.mem_iff.mpr ((sortBy_perm cmp l').mem_iff.mp hb)
  exact htie a ha' b hb' (h.eq_zero_iff.mpr ⟨hab, hba⟩)

/-- `a` is the first of the least elements of the list. -/
def FirstLeast (cmp : α → α → Int) (l : List α) (a : α) : Prop :=
  ∃ before after, l = before ++ a :: after ∧ (∀ b ∈ before, cmp a b < 0) ∧
    ∀ b ∈ after, cmp a b ≤ 0

/-- What a stable sort puts first. -/
theorem head?_sortBy (h : Comparison cmp) {l : List α} {a : α} (ha : FirstLeast cmp l a) :
    (sortBy cmp l).head? = some a := by
  obtain ⟨before, after, rfl, hbefore, hafter⟩ := ha
  have htrans : ∀ a b c : α, decide (cmp a b ≤ 0) = true → decide (cmp b c ≤ 0) = true →
      decide (cmp a c ≤ 0) = true := fun a b c hab hbc =>
    decide_eq_true (h.trans a b c (of_decide_eq_true hab) (of_decide_eq_true hbc))
  have htotal : ∀ a b : α, (decide (cmp a b ≤ 0) || decide (cmp b a ≤ 0)) = true := fun a b => by
    rw [Bool.or_eq_true, decide_eq_true_eq, decide_eq_true_eq]
    exact h.total a b
  induction before with
  | nil =>
      obtain ⟨l₁, l₂, hsort, hrest, hlater⟩ := List.mergeSort_cons htrans htotal a after
      have hnone : l₁ = [] := by
        refine List.eq_nil_iff_forall_not_mem.mpr fun b hb => ?_
        have hmem : b ∈ after := by
          have : b ∈ after.mergeSort fun a b => decide (cmp a b ≤ 0) := by
            rw [hrest]
            exact List.mem_append_left _ hb
          exact List.mem_mergeSort.mp this
        have hle := decide_eq_true (hafter b hmem)
        simpa [hle] using hlater b hb
      rw [sortBy, List.nil_append, hsort, hnone]
      rfl
  | cons b before ih =>
      obtain ⟨l₁, l₂, hsort, hrest, -⟩ := List.mergeSort_cons htrans htotal b (before ++ a :: after)
      have hhead := ih fun x hx => hbefore x (List.mem_cons_of_mem b hx)
      rw [sortBy, hrest] at hhead
      rw [sortBy, List.cons_append, hsort]
      cases l₁ with
      | cons x l₁ => exact hhead
      | nil =>
          -- The first of the rest would not come before `b`.
          exfalso
          have hsorted := pairwise_sortBy h (b :: (before ++ a :: after))
          rw [sortBy, hsort, List.nil_append] at hsorted
          have hle : cmp b a ≤ 0 := by
            refine (List.pairwise_cons.mp hsorted).1 a ?_
            exact List.mem_of_mem_head? hhead
          have hlt := hbefore b List.mem_cons_self
          have hge := (h.flip a b).mpr hle
          omega

end Comparisons

end ComparisonLib
