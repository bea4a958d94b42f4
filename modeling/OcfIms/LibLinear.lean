import Mathlib

/-!
# Linearization

Calls that take several steps each on one object, overlapping in any way. If each call acts as if all
of it had happened at one moment between its first step and its last, then the calls act as if they
had been made one after the other, in the order of these moments, and a call that had finished before
another started comes before it. A call whose work is overwritten at once may be given the moment of
the call that overwrites it.
-/

namespace LinearLib

variable {ι δ : Type*}

/-- The one call had finished when the other started: all its steps come first. -/
def Precedes (as : List ι) (i j : ι) : Prop :=
  ∀ p q : Nat, as[p]? = some i → as[q]? = some j → p < q

/-- The call has started at the moment `t`, and has a step at it or after it. -/
structure Spans (as : List ι) (i : ι) (t : Nat) : Prop where
  started : ∃ p : Nat, as[p]? = some i ∧ p ≤ t
  ongoing : ∃ q : Nat, as[q]? = some i ∧ t ≤ q

variable {effect : ι → δ → δ} {d₀ d : δ} {as : List ι} {order : List (ι × Nat)} {i j : ι} {t : Nat}

theorem getElem?_append_of_some {a : ι} {p : Nat} (h : as[p]? = some i) :
    (as ++ [a])[p]? = some i := by
  obtain ⟨hp, -⟩ := List.getElem?_eq_some_iff.mp h
  rw [List.getElem?_append_left hp]
  exact h

theorem getElem?_last (as : List ι) (a : ι) : (as ++ [a])[as.length]? = some a := by
  rw [List.getElem?_append_right (Nat.le_refl _), Nat.sub_self]
  rfl

theorem Spans.snoc (h : Spans as i t) (a : ι) : Spans (as ++ [a]) i t := by
  obtain ⟨⟨p, hp, hpt⟩, q, hq, htq⟩ := h
  exact ⟨⟨p, getElem?_append_of_some hp, hpt⟩, q, getElem?_append_of_some hq, htq⟩

/-- The moment of the last step. -/
theorem spans_last (as : List ι) (i : ι) : Spans (as ++ [i]) i as.length :=
  ⟨⟨as.length, getElem?_last as i, Nat.le_refl _⟩, as.length, getElem?_last as i, Nat.le_refl _⟩

/-- Any moment between an earlier step and the last one. -/
theorem spans_earlier (hstarted : ∃ p : Nat, as[p]? = some i ∧ p ≤ t) (ht : t ≤ as.length) :
    Spans (as ++ [i]) i t := by
  obtain ⟨p, hp, hpt⟩ := hstarted
  exact ⟨⟨p, getElem?_append_of_some hp, hpt⟩, as.length, getElem?_last as i, ht⟩

theorem Spans.lt_length (h : Spans as i t) : t < as.length := by
  obtain ⟨-, q, hq, htq⟩ := h
  obtain ⟨hlt, -⟩ := List.getElem?_eq_some_iff.mp hq
  exact Nat.lt_of_le_of_lt htq hlt

/-- A call that precedes another has no later moment. -/
theorem Precedes.lt {t' : Nat} (h : Precedes as i j) (hi : Spans as i t) (hj : Spans as j t') :
    t < t' := by
  obtain ⟨-, q, hq, htq⟩ := hi
  obtain ⟨⟨p, hp, hpt⟩, -⟩ := hj
  exact Nat.lt_of_le_of_lt htq (Nat.lt_of_lt_of_le (h q p hq hp) hpt)

/-- Calls in the order of their moments, and what they come to. -/
structure Linearized (effect : ι → δ → δ) (d₀ : δ) (as : List ι) (order : List (ι × Nat)) (d : δ) :
    Prop where
  spans : ∀ c ∈ order, Spans as c.1 c.2
  sorted : order.Pairwise fun c c' => c.2 ≤ c'.2
  once : (order.map Prod.fst).Nodup
  outcome : order.foldl (fun d c => effect c.1 d) d₀ = d

theorem linearized_nil (effect : ι → δ → δ) (d₀ : δ) : Linearized effect d₀ [] [] d₀ :=
  ⟨fun _ h => (nomatch h), List.Pairwise.nil, List.nodup_nil, rfl⟩

/-- A step that changes nothing. -/
theorem Linearized.snoc (h : Linearized effect d₀ as order d) (a : ι) :
    Linearized effect d₀ (as ++ [a]) order d :=
  ⟨fun c hc => (h.spans c hc).snoc a, h.sorted, h.once, h.outcome⟩

theorem Linearized.time_le (h : Linearized effect d₀ as order d) {c : ι × Nat} (hc : c ∈ order) :
    c.2 ≤ as.length :=
  Nat.le_of_lt (h.spans c hc).lt_length

/-- A call that acts in its last step so far. -/
theorem Linearized.act (h : Linearized effect d₀ as order d) (hi : i ∉ order.map Prod.fst) :
    Linearized effect d₀ (as ++ [i]) (order ++ [(i, as.length)]) (effect i d) := by
  refine ⟨fun c hc => ?_, ?_, ?_, ?_⟩
  · rcases List.mem_append.mp hc with hc | hc
    · exact (h.spans c hc).snoc i
    · rw [List.mem_singleton.mp hc]
      exact spans_last as i
  · refine List.pairwise_append.mpr ⟨h.sorted, List.pairwise_singleton _ _, fun c hc c' hc' => ?_⟩
    rw [List.mem_singleton.mp hc']
    exact h.time_le hc
  · rw [List.map_append, List.map_singleton]
    exact List.Nodup.append h.once (List.nodup_singleton i) (List.disjoint_singleton.mpr hi)
  · rw [List.foldl_append, h.outcome]
    rfl

/-- A call that ends without acting, where one that overwrites whatever it finds has acted since the
call started: it acts just before that one. -/
theorem Linearized.overwritten (h : Linearized effect d₀ as order d)
    (hi : i ∉ order.map Prod.fst) (hj : (j, t) ∈ order) (hover : ∀ d d', effect j d = effect j d')
    (hstarted : ∃ p : Nat, as[p]? = some i ∧ p ≤ t) :
    ∃ order', Linearized effect d₀ (as ++ [i]) order' d ∧
      ∀ c, c ∈ order' ↔ c = (i, t) ∨ c ∈ order := by
  obtain ⟨before, after, rfl⟩ := List.append_of_mem hj
  obtain ⟨hbefore, hrest, hcross⟩ := List.pairwise_append.mp h.sorted
  have hmem : ∀ c, c ∈ before ++ (i, t) :: (j, t) :: after ↔
      c = (i, t) ∨ c ∈ before ++ (j, t) :: after := by
    intro c
    simp only [List.mem_append, List.mem_cons]
    exact or_left_comm
  refine ⟨before ++ (i, t) :: (j, t) :: after, ⟨fun c hc => ?_, ?_, ?_, ?_⟩, hmem⟩
  · rcases (hmem c).mp hc with rfl | hc
    · have ht : t ≤ as.length := h.time_le hj
      exact spans_earlier hstarted ht
    · exact (h.spans c hc).snoc i
  · refine List.pairwise_append.mpr ⟨hbefore, List.pairwise_cons.mpr ⟨fun c hc => ?_, hrest⟩,
      fun c hc c' hc' => ?_⟩
    · rcases List.mem_cons.mp hc with rfl | hc
      · exact Nat.le_refl t
      · exact (List.pairwise_cons.mp hrest).1 c hc
    · rcases List.mem_cons.mp hc' with rfl | hc'
      · exact hcross c hc (j, t) List.mem_cons_self
      · exact hcross c hc c' hc'
  · have hperm : (before ++ (i, t) :: (j, t) :: after).Perm
        ((i, t) :: (before ++ (j, t) :: after)) := List.perm_middle
    exact (hperm.map Prod.fst).nodup_iff.mpr (List.nodup_cons.mpr ⟨hi, h.once⟩)
  · rw [← h.outcome, List.foldl_append, List.foldl_append]
    exact congrArg (after.foldl _) (hover _ _)

/-- The calls of the list, one after the other, come to `d`; each call is made once, and none before
one that had finished when it started. -/
structure Sequential (effect : ι → δ → δ) (d₀ : δ) (as : List ι) (order : List ι) (d : δ) : Prop where
  once : order.Nodup
  respects : order.Pairwise fun i j => ¬ Precedes as j i
  outcome : order.foldl (fun d i => effect i d) d₀ = d

theorem Linearized.sequential (h : Linearized effect d₀ as order d) :
    Sequential effect d₀ as (order.map Prod.fst) d := by
  refine ⟨h.once, List.pairwise_map.mpr ?_, ?_⟩
  · refine h.sorted.imp_of_mem fun {c c'} hc hc' hle hprec => ?_
    exact absurd (hprec.lt (h.spans c' hc') (h.spans c hc)) (Nat.not_lt.mpr hle)
  · rw [List.foldl_map]
    exact h.outcome

end LinearLib
