import Mathlib

/-!
# Runs of a transition system

A system is given by a partial step function: `step s a` is the state after the action `a`, or
nothing where `a` is not possible in `s`. A run is the list of the actions taken from a start state,
in order, and the state they led to. What holds after every run is proved by induction on the run:
of the start, and from one state to the next. The invariant may mention the actions taken so far, so
that it can relate a state to its history.
-/

namespace RunLib

variable {σ α : Type*}

/-- `Run step s₀ as s`: the actions `as`, taken one after the other from `s₀`, lead to `s`. -/
inductive Run (step : σ → α → Option σ) (s₀ : σ) : List α → σ → Prop
  | start : Run step s₀ [] s₀
  | next {as : List α} {s s' : σ} {a : α} (h : Run step s₀ as s) (hs : step s a = some s') :
      Run step s₀ (as ++ [a]) s'

variable {step : σ → α → Option σ} {s₀ s s' s'' : σ} {as bs : List α}

/-- **The invariant rule.** What holds at the start and is kept by every step holds after every
run. -/
theorem Run.invariant {I : List α → σ → Prop} (h : Run step s₀ as s) (h₀ : I [] s₀)
    (hstep : ∀ as s a s', I as s → step s a = some s' → I (as ++ [a]) s') : I as s := by
  induction h with
  | start => exact h₀
  | next _ hs ih => exact hstep _ _ _ _ ih hs

/-- One run after another. -/
theorem Run.trans (h : Run step s as s') (h' : Run step s' bs s'') :
    Run step s (as ++ bs) s'' := by
  induction h' with
  | start => rwa [List.append_nil]
  | next _ hs ih =>
      rw [← List.append_assoc]
      exact ih.next hs

/-- Take the actions of a list, if all of them are possible. -/
def exec (step : σ → α → Option σ) (s : σ) (as : List α) : Option σ := as.foldlM step s

theorem run_of_exec : ∀ {as : List α} {s s' : σ}, exec step s as = some s' → Run step s as s'
  | [], s, s', h => by
      obtain rfl : s = s' := Option.some.inj h
      exact .start
  | a :: as, s, s', h => by
      obtain ⟨t, ht, h⟩ := Option.bind_eq_some_iff.mp h
      have hfirst : Run step s [a] t := Run.start.next ht
      exact hfirst.trans (run_of_exec h)

theorem Run.exec_eq (h : Run step s₀ as s) : exec step s₀ as = some s := by
  induction h with
  | start => rfl
  | next _ hs ih =>
      change List.foldlM step s₀ _ = _
      rw [List.foldlM_append]
      change (exec step s₀ _ >>= _) = _
      rw [ih]
      exact (bind_pure _).trans hs

/-- The actions determine the state they lead to. -/
theorem Run.unique (h : Run step s₀ as s) (h' : Run step s₀ as s') : s = s' :=
  Option.some.inj (h.exec_eq.symm.trans h'.exec_eq)

/-! ## Runs whose steps meet a condition -/

/-- A run every step of which meets a condition on the state before it and the action. -/
inductive RunMeeting (step : σ → α → Option σ) (C : σ → α → Prop) (s₀ : σ) : List α → σ → Prop
  | start : RunMeeting step C s₀ [] s₀
  | next {as : List α} {s s' : σ} {a : α} (h : RunMeeting step C s₀ as s) (hC : C s a)
      (hs : step s a = some s') : RunMeeting step C s₀ (as ++ [a]) s'

theorem RunMeeting.run {C : σ → α → Prop} (h : RunMeeting step C s₀ as s) : Run step s₀ as s := by
  induction h with
  | start => exact .start
  | next _ _ hs ih => exact ih.next hs

theorem RunMeeting.snoc_iff {C : σ → α → Prop} {a : α} (hr : Run step s₀ as s)
    (hs : step s a = some s') :
    RunMeeting step C s₀ (as ++ [a]) s' ↔ RunMeeting step C s₀ as s ∧ C s a := by
  constructor
  · intro h
    generalize hl : as ++ [a] = l at h
    cases h with
    | start => exact absurd hl (List.append_ne_nil_of_right_ne_nil as (List.cons_ne_nil a []))
    | next h hC _ =>
        obtain ⟨rfl, hlast⟩ := List.append_inj' hl rfl
        obtain rfl := List.singleton_inj.mp hlast
        obtain rfl := h.run.unique hr
        exact ⟨h, hC⟩
  · exact fun h => h.1.next h.2 hs

/-- The invariant rule, where each step meets the condition. -/
theorem RunMeeting.invariant {C : σ → α → Prop} {I : List α → σ → Prop}
    (h : RunMeeting step C s₀ as s) (h₀ : I [] s₀)
    (hstep : ∀ as s a s', I as s → C s a → step s a = some s' → I (as ++ [a]) s') : I as s := by
  induction h with
  | start => exact h₀
  | next _ hC hs ih => exact hstep _ _ _ _ ih hC hs

/-- The part of such a run before one of its steps is such a run, and the step meets the condition. -/
theorem RunMeeting.before {C : σ → α → Prop} {after : List α} {a : α}
    (h : RunMeeting step C s₀ (as ++ a :: after) s) (hr : Run step s₀ as s') :
    RunMeeting step C s₀ as s' ∧ C s' a := by
  generalize hl : as ++ a :: after = l at h
  induction h generalizing after with
  | start => exact absurd hl (List.append_ne_nil_of_right_ne_nil as (List.cons_ne_nil a after))
  | next h hC _ ih =>
      rcases List.eq_nil_or_concat after with rfl | ⟨after', c, rfl⟩
      · obtain ⟨rfl, hlast⟩ := List.append_inj' hl rfl
        obtain rfl := List.singleton_inj.mp hlast
        obtain rfl := h.run.unique hr
        exact ⟨h, hC⟩
      · rw [List.concat_eq_append, ← List.cons_append, ← List.append_assoc] at hl
        exact ih (List.append_inj' hl rfl).1

/-- Under an invariant of such a run, its steps meet what the condition implies. -/
theorem RunMeeting.implies {C C' : σ → α → Prop} {I : σ → Prop} (h : RunMeeting step C s₀ as s)
    (h₀ : I s₀) (hstep : ∀ s a s', I s → C s a → step s a = some s' → C' s a ∧ I s') :
    RunMeeting step C' s₀ as s ∧ I s := by
  induction h with
  | start => exact ⟨.start, h₀⟩
  | next _ hC hs ih =>
      obtain ⟨hC', hI⟩ := hstep _ _ _ ih.2 hC hs
      exact ⟨ih.1.next hC' hs, hI⟩

/-- A run of one system is seen as a run of another that can take the same actions. -/
theorem RunMeeting.map {τ : Type*} {step' : τ → α → Option τ} {C : σ → α → Prop}
    {C' : τ → α → Prop} {f : σ → τ} (h : RunMeeting step C s₀ as s)
    (hstep : ∀ s a s', step s a = some s' → step' (f s) a = some (f s'))
    (hC : ∀ s a, C s a → C' (f s) a) : RunMeeting step' C' (f s₀) as (f s) := by
  induction h with
  | start => exact .start
  | next _ ha hs ih => exact ih.next (hC _ _ ha) (hstep _ _ _ hs)

/-- Conditions that agree wherever a run that meets them has been are met by the same runs. -/
theorem Run.meeting_congr {C C' : σ → α → Prop} {I : σ → Prop} (h : Run step s₀ as s) (h₀ : I s₀)
    (hstep : ∀ s a s', I s → C s a → step s a = some s' → I s')
    (hC : ∀ s a s', I s → step s a = some s' → (C s a ↔ C' s a)) :
    RunMeeting step C s₀ as s ↔ RunMeeting step C' s₀ as s := by
  have hboth : (RunMeeting step C s₀ as s ↔ RunMeeting step C' s₀ as s) ∧
      (RunMeeting step C s₀ as s → I s) := by
    induction h with
    | start => exact ⟨⟨fun _ => .start, fun _ => .start⟩, fun _ => h₀⟩
    | next hr hs ih =>
        rw [RunMeeting.snoc_iff hr hs, RunMeeting.snoc_iff hr hs, ← ih.1]
        exact ⟨and_congr_right fun h => hC _ _ _ (ih.2 h) hs,
          fun h => hstep _ _ _ (ih.2 h.1) h.2 hs⟩
  exact hboth.1

/-- Take the actions of a list, if all of them are possible where they meet the condition. -/
theorem runMeeting_of_exec {C : σ → α → Prop} [∀ s a, Decidable (C s a)]
    (h : exec (fun s a => if C s a then step s a else none) s as = some s') :
    RunMeeting step C s as s' := by
  have hrun := run_of_exec h
  clear h
  induction hrun with
  | start => exact .start
  | next _ hs ih =>
      split at hs
      · exact ih.next ‹_› hs
      · cases hs

/-! ## The steps of one process

In a system whose actions say which process takes the step, what one process does is told by the
states before and after its own steps. -/

section Steps

variable {δ : Type*} {obs : σ → δ} {R : σ → σ → Prop} {a b : α}

theorem snoc_eq_append_cons {before after : List α} (h : as ++ [a] = before ++ b :: after) :
    (after = [] ∧ before = as ∧ b = a) ∨
      ∃ after', after = after' ++ [a] ∧ as = before ++ b :: after' := by
  rcases List.eq_nil_or_concat after with rfl | ⟨after', c, rfl⟩
  · obtain ⟨rfl, hb⟩ := List.append_inj' h rfl
    exact .inl ⟨rfl, rfl, (List.singleton_inj.mp hb).symm⟩
  · rw [List.concat_eq_append, ← List.cons_append, ← List.append_assoc] at h
    obtain ⟨has, hc⟩ := List.append_inj' h rfl
    rw [List.concat_eq_append, List.singleton_inj.mp hc]
    exact .inr ⟨after', rfl, has⟩

/-- No step of the process in the run changes what is observed. -/
def Still (step : σ → α → Option σ) (obs : σ → δ) (s₀ : σ) (as : List α) (b : α) : Prop :=
  ∀ before after t t', as = before ++ b :: after → Run step s₀ before t → step t b = some t' →
    obs t' = obs t

/-- One step of the process in the run satisfies `R`, and no other changes what is observed. -/
def Once (step : σ → α → Option σ) (obs : σ → δ) (R : σ → σ → Prop) (s₀ : σ) (as : List α) (b : α) :
    Prop :=
  ∃ before after t t', as = before ++ b :: after ∧ Run step s₀ before t ∧ step t b = some t' ∧
    R t t' ∧ ∀ before' after' u u', as = before' ++ b :: after' → Run step s₀ before' u →
      step u b = some u' → before' ≠ before → obs u' = obs u

theorem still_nil (step : σ → α → Option σ) (obs : σ → δ) (s₀ : σ) (b : α) :
    Still step obs s₀ [] b :=
  fun before after _ _ h => absurd h.symm (List.append_ne_nil_of_right_ne_nil before
    (List.cons_ne_nil b after))

theorem Still.snoc (h : Still step obs s₀ as b) (hr : Run step s₀ as s) (hs : step s a = some s')
    (hobs : b = a → obs s' = obs s) : Still step obs s₀ (as ++ [a]) b := by
  intro before after t t' heq ht ht'
  rcases snoc_eq_append_cons heq with ⟨-, rfl, rfl⟩ | ⟨after', -, has⟩
  · obtain rfl := ht.unique hr
    obtain rfl := Option.some.inj (hs.symm.trans ht')
    exact hobs rfl
  · exact h before after' t t' has ht ht'

/-- The step that counts. -/
theorem Still.once (h : Still step obs s₀ as b) (hr : Run step s₀ as s)
    (hs : step s b = some s') (hR : R s s') : Once step obs R s₀ (as ++ [b]) b := by
  refine ⟨as, [], s, s', rfl, hr, hs, hR, fun before after t t' heq ht ht' hne => ?_⟩
  rcases snoc_eq_append_cons heq with ⟨-, hbefore, -⟩ | ⟨after', -, has⟩
  · exact absurd hbefore hne
  · exact h before after' t t' has ht ht'

theorem Once.snoc (h : Once step obs R s₀ as b) (hr : Run step s₀ as s) (hs : step s a = some s')
    (hobs : b = a → obs s' = obs s) : Once step obs R s₀ (as ++ [a]) b := by
  obtain ⟨before, after, t, t', rfl, ht, ht', hR, hother⟩ := h
  refine ⟨before, after ++ [a], t, t', by simp, ht, ht', hR,
    fun before' after' u u' heq hu hu' hne => ?_⟩
  rcases snoc_eq_append_cons heq with ⟨-, rfl, rfl⟩ | ⟨after'', -, has⟩
  · obtain rfl := hu.unique hr
    obtain rfl := Option.some.inj (hs.symm.trans hu')
    exact hobs rfl
  · exact hother before' after'' u u' has hu hu' hne

end Steps

end RunLib
