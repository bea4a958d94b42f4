import Mathlib
import OcfIms.LibLinear
import OcfIms.LibRun

/-!
# Edits of a map that is stored as a whole

A map is kept in one place. An edit of one key reads the whole map, and later writes it back with the
key changed; emptying the map is one step. Nothing keeps the edits apart, so one that writes takes
back what has happened to the other keys since it read.

Where nothing has, the edits act as if they had been made one after the other, in the order in which
they wrote. And if no edit that puts a value is under way when the map is emptied, but one that started
later, then no value outlives an emptying that its edit came before.
-/

namespace CellLib

open RunLib LinearLib

variable {ι K V : Type*}

/-- Put a value under a key or take it away, or empty the map. -/
inductive Edit (K V : Type*)
  | put (key : K) (value : Option V)
  | wipe

/-- The edit puts the value under the key. -/
def Edit.Puts (e : Edit K V) (key : K) (v : V) : Prop := e = .put key (some v)

/-- How far an edit is; from its read on it holds the map as it was then. -/
inductive Phase (K V : Type*)
  | idle
  | started
  | read (seen : K → Option V)
  | done

/-- The edit has started, and is still to write. -/
def Phase.InFlight : Phase K V → Prop
  | .started => True
  | .read _ => True
  | _ => False

/-- The map, the edits, and the order in which they started. -/
structure Cell (ι K V : Type*) where
  map : K → Option V
  phase : ι → Phase K V
  begun : List ι

def fresh (map : K → Option V) : Cell ι K V := ⟨map, fun _ => .idle, []⟩

/-- The one edit started before the other. -/
def Cell.StartedBefore (s : Cell ι K V) (i j : ι) : Prop := List.Sublist [i, j] s.begun

section Model

variable [DecidableEq ι] [DecidableEq K]

/-- What an edit does where nothing comes between its steps. -/
def Edit.effect : Edit K V → (K → Option V) → K → Option V
  | .put key value, m => Function.update m key value
  | .wipe, _ => fun _ => none

def step (edit : ι → Edit K V) (s : Cell ι K V) (i : ι) : Option (Cell ι K V) :=
  match s.phase i, edit i with
  | .idle, _ =>
    some { s with phase := Function.update s.phase i .started, begun := s.begun ++ [i] }
  | .started, .put _ _ => some { s with phase := Function.update s.phase i (.read s.map) }
  | .read seen, .put key value =>
    some { s with
      map := Function.update seen key value
      phase := Function.update s.phase i .done }
  | .started, .wipe =>
    some { s with map := fun _ => none, phase := Function.update s.phase i .done }
  | _, _ => none

/-- An edit writes where no other key has changed since it read, and the map is emptied where no edit
that puts a value and had started before is still to write. -/
def Apart (edit : ι → Edit K V) (s : Cell ι K V) (i : ι) : Prop :=
  match s.phase i, edit i with
  | .read seen, .put key _ => ∀ k, k ≠ key → seen k = s.map k
  | .started, .wipe =>
    ∀ j key v, (edit j).Puts key v → s.StartedBefore j i → ¬ (s.phase j).InFlight
  | _, _ => True

/-- The edits that are done, in the order in which they wrote, and what keeps them in order. -/
structure Serial (edit : ι → Edit K V) (m₀ : K → Option V) (as : List ι) (order : List (ι × Nat))
    (s : Cell ι K V) : Prop where
  linear : Linearized (fun i => (edit i).effect) m₀ as order s.map
  done : ∀ i, i ∈ order.map Prod.fst ↔ s.phase i = .done
  begun : ∀ i, i ∈ s.begun ↔ s.phase i ≠ .idle
  nodup : s.begun.Nodup
  swept : ∀ c, edit c = .wipe → s.phase c = .done → ∀ j key v, (edit j).Puts key v →
    (s.phase j).InFlight → ¬ s.StartedBefore j c
  ordered : order.Pairwise fun c i => edit c.1 = .wipe → ∀ key v, (edit i.1).Puts key v →
    ¬ s.StartedBefore i.1 c.1

end Model

section Rules

variable {edit : ι → Edit K V} {m₀ : K → Option V} {as : List ι} {order : List (ι × Nat)}
  {s s' : Cell ι K V} {i j c : ι}

/-- A later start changes nothing among those that have started. -/
theorem sublist_of_ne {l : List ι} (h : List.Sublist [j, c] (l ++ [i])) (hc : c ≠ i) :
    List.Sublist [j, c] l := by
  obtain ⟨l₁, l₂, heq, h₁, h₂⟩ := List.sublist_append_iff.mp h
  rcases List.sublist_singleton.mp h₂ with rfl | rfl
  · rwa [heq, List.append_nil]
  · have hlast : [j] ++ [c] = l₁ ++ [i] := heq
    exact absurd (List.singleton_inj.mp (List.append_inj' hlast rfl).2) hc

variable [DecidableEq ι] [DecidableEq K]

omit [DecidableEq ι] in
theorem serial_fresh (edit : ι → Edit K V) (m₀ : K → Option V) :
    Serial edit m₀ [] [] (fresh m₀) where
  linear := linearized_nil _ m₀
  done := fun _ => ⟨fun h => (nomatch h), fun h => (nomatch h)⟩
  begun := fun _ => ⟨fun h => (nomatch h), fun h => absurd rfl h⟩
  nodup := List.nodup_nil
  swept := fun _ _ h => (nomatch h)
  ordered := List.Pairwise.nil

/-- An edit starts. -/
theorem Serial.start (h : Serial edit m₀ as order s) (hi : s.phase i = .idle) :
    Serial edit m₀ (as ++ [i]) order
      { s with phase := Function.update s.phase i .started, begun := s.begun ++ [i] } := by
  have hfresh : i ∉ s.begun := fun hmem => (h.begun i).mp hmem hi
  have hdone : ∀ c, Function.update s.phase i .started c = .done ↔ s.phase c = .done := by
    intro c
    by_cases hc : c = i
    · rw [hc, Function.update_self, hi]
      exact ⟨nofun, nofun⟩
    · rw [Function.update_of_ne hc]
  have hold : ∀ j c, s.phase c = .done → List.Sublist [j, c] (s.begun ++ [i]) →
      s.StartedBefore j c := by
    intro j c hc hsub
    refine sublist_of_ne hsub ?_
    rintro rfl
    rw [hi] at hc
    cases hc
  refine ⟨h.linear.snoc i, fun c => (h.done c).trans (hdone c).symm, fun c => ?_, ?_, ?_, ?_⟩
  · change c ∈ s.begun ++ [i] ↔ Function.update s.phase i .started c ≠ .idle
    rw [List.mem_append, List.mem_singleton, h.begun]
    by_cases hc : c = i
    · rw [hc, Function.update_self]
      exact ⟨fun _ => nofun, fun _ => .inr rfl⟩
    · rw [Function.update_of_ne hc]
      exact ⟨fun h => h.resolve_right hc, .inl⟩
  · exact List.Nodup.append h.nodup (List.nodup_singleton i) (List.disjoint_singleton.mpr hfresh)
  · intro c hwipe hc j key v hputs hflight hsub
    have hc' := (hdone c).mp hc
    have hbefore := hold j c hc' hsub
    by_cases hj : j = i
    · rw [hj] at hbefore
      exact hfresh (hbefore.subset List.mem_cons_self)
    · have hflight' : (s.phase j).InFlight := by
        simpa only [Function.update_of_ne hj] using hflight
      exact h.swept c hwipe hc' j key v hputs hflight' hbefore
  · refine h.ordered.imp_of_mem fun {c i'} hc _ hord hwipe key v hputs hsub => ?_
    have hc' := (h.done c.1).mp (List.mem_map_of_mem hc)
    exact hord hwipe key v hputs (hold i'.1 c.1 hc' hsub)

/-- An edit that has started goes on without writing. -/
theorem Serial.read (h : Serial edit m₀ as order s) (hi : s.phase i = .started) :
    Serial edit m₀ (as ++ [i]) order
      { s with phase := Function.update s.phase i (.read s.map) } := by
  have hphase : ∀ c, (Function.update s.phase i (.read s.map) c = .done ↔ s.phase c = .done) ∧
      (Function.update s.phase i (.read s.map) c ≠ .idle ↔ s.phase c ≠ .idle) ∧
      ((Function.update s.phase i (.read s.map) c).InFlight ↔ (s.phase c).InFlight) := by
    intro c
    by_cases hc : c = i
    · rw [hc, Function.update_self, hi]
      exact ⟨⟨nofun, nofun⟩, ⟨fun _ => nofun, fun _ => nofun⟩, Iff.rfl⟩
    · rw [Function.update_of_ne hc]
      exact ⟨Iff.rfl, Iff.rfl, Iff.rfl⟩
  exact ⟨h.linear.snoc i, fun c => (h.done c).trans (hphase c).1.symm,
    fun c => (h.begun c).trans (hphase c).2.1.symm, h.nodup,
    fun c hwipe hc j key v hputs hflight =>
      h.swept c hwipe ((hphase c).1.mp hc) j key v hputs ((hphase j).2.2.mp hflight),
    h.ordered⟩

/-- An edit acts, and is done. -/
theorem Serial.act (h : Serial edit m₀ as order s) (hi : (s.phase i).InFlight)
    (hput : ∀ c, edit c = .wipe → s.phase c = .done → ∀ key v, (edit i).Puts key v →
      ¬ s.StartedBefore i c)
    (hwipe : edit i = .wipe → ∀ j key v, (edit j).Puts key v → s.StartedBefore j i →
      ¬ (s.phase j).InFlight) :
    Serial edit m₀ (as ++ [i]) (order ++ [(i, as.length)])
      { s with
        map := (edit i).effect s.map
        phase := Function.update s.phase i .done } := by
  have hne : s.phase i ≠ .done := by
    intro hdone
    rw [hdone] at hi
    exact hi
  have hnew : i ∉ order.map Prod.fst := fun hmem => hne ((h.done i).mp hmem)
  refine ⟨h.linear.act hnew, fun c => ?_, fun c => ?_, h.nodup, ?_, ?_⟩
  · rw [List.map_append, List.map_singleton, List.mem_append, List.mem_singleton, h.done]
    by_cases hc : c = i
    · simp [hc]
    · simp [hc]
  · by_cases hc : c = i
    · rw [hc, h.begun]
      simp only [Function.update_self, ne_eq, reduceCtorEq, not_false_eq_true, iff_true]
      intro hidle
      rw [hidle] at hi
      exact hi
    · rw [h.begun]
      simp only [Function.update_of_ne hc]
  · intro c hwipe' hc j key v hputs hflight hbefore
    have hj : j ≠ i := by
      rintro rfl
      simp only [Function.update_self] at hflight
      exact hflight
    simp only [Function.update_of_ne hj] at hflight
    by_cases hci : c = i
    · subst hci
      exact hwipe hwipe' j key v hputs hbefore hflight
    · simp only [Function.update_of_ne hci] at hc
      exact h.swept c hwipe' hc j key v hputs hflight hbefore
  · refine List.pairwise_append.mpr ⟨h.ordered, List.pairwise_singleton _ _, fun c hc i' hi' => ?_⟩
    rw [List.mem_singleton.mp hi']
    intro hwipe' key v hputs
    exact hput c.1 hwipe' ((h.done c.1).mp (List.mem_map_of_mem hc)) key v hputs

/-- A step of edits that are kept apart. -/
theorem Serial.step (h : Serial edit m₀ as order s) (hapart : Apart edit s i)
    (hs : step edit s i = some s') : ∃ order', Serial edit m₀ (as ++ [i]) order' s' := by
  rw [CellLib.step] at hs
  rw [Apart] at hapart
  split at hs
  · cases hs
    exact ⟨order, h.start ‹s.phase i = .idle›⟩
  · cases hs
    exact ⟨order, h.read ‹s.phase i = .started›⟩
  · rename_i seen key value hi hedit
    cases hs
    rw [hi, hedit] at hapart
    have hmap : Function.update seen key value = (edit i).effect s.map := by
      rw [hedit]
      funext k
      by_cases hk : k = key
      · rw [hk, Edit.effect, Function.update_self, Function.update_self]
      · rw [Edit.effect, Function.update_of_ne hk, Function.update_of_ne hk]
        exact hapart k hk
    rw [hmap]
    have hflight : (s.phase i).InFlight := by
      rw [hi]
      trivial
    refine ⟨_, h.act hflight (fun c hwipe hc key v hputs => ?_) fun hwipe => ?_⟩
    · exact h.swept c hwipe hc i key v hputs hflight
    · rw [hedit] at hwipe
      cases hwipe
  · rename_i hi hedit
    cases hs
    rw [hi, hedit] at hapart
    have hflight : (s.phase i).InFlight := by
      rw [hi]
      trivial
    have hmap : (fun _ => none) = (edit i).effect s.map := by
      rw [hedit]
      rfl
    rw [hmap]
    refine ⟨_, h.act hflight (fun c hwipe hc key v hputs => ?_) fun _ => hapart⟩
    exact h.swept c hwipe hc i key v hputs hflight
  · cases hs

/-- Edits that are kept apart act as if they had been made one after the other. -/
theorem serial_of_run (h : RunMeeting (step edit) (Apart edit) (fresh m₀) as s) :
    ∃ order, Serial edit m₀ as order s :=
  h.invariant (I := fun as s => ∃ order, Serial edit m₀ as order s)
    ⟨[], serial_fresh edit m₀⟩ fun _ _ _ _ ⟨_, hserial⟩ hapart hs => hserial.step hapart hs

omit [DecidableEq ι] in
/-- A value comes from the last edit of its key, and the map has not been emptied since. -/
theorem last_put {l : List ι} {key : K} {v : V}
    (h : l.foldl (fun m i => (edit i).effect m) m₀ key = some v) :
    (∃ before i after, l = before ++ i :: after ∧ (edit i).Puts key v ∧
        ∀ c ∈ after, edit c ≠ .wipe) ∨
      m₀ key = some v ∧ ∀ c ∈ l, edit c ≠ .wipe := by
  induction l using List.reverseRecOn with
  | nil => exact .inr ⟨h, nofun⟩
  | append_singleton l i ih =>
      rw [List.foldl_append, List.foldl_cons, List.foldl_nil] at h
      cases hedit : edit i with
      | wipe =>
          rw [hedit] at h
          cases h
      | put k value =>
          rw [hedit, Edit.effect] at h
          by_cases hk : key = k
          · rw [hk, Function.update_self] at h
            refine .inl ⟨l, i, [], rfl, ?_, nofun⟩
            rw [Edit.Puts, hedit, hk, h]
          · rw [Function.update_of_ne hk] at h
            have hnew : edit i ≠ .wipe := by
              rw [hedit]
              exact nofun
            rcases ih h with ⟨before, j, after, rfl, hputs, hafter⟩ | ⟨hfirst, hall⟩
            · refine .inl ⟨before, j, after ++ [i], by simp, hputs, fun c hc => ?_⟩
              rcases List.mem_append.mp hc with hc | hc
              · exact hafter c hc
              · rwa [List.mem_singleton.mp hc]
            · refine .inr ⟨hfirst, fun c hc => ?_⟩
              rcases List.mem_append.mp hc with hc | hc
              · exact hall c hc
              · rwa [List.mem_singleton.mp hc]

omit [DecidableEq ι] in
/-- A value that is there is one from the start, if the map has not been emptied, or one of an edit
that started before none of the edits that emptied it. -/
theorem Serial.outlives (h : Serial edit m₀ as order s) {key : K} {v : V}
    (hv : s.map key = some v) :
    (∃ i, s.phase i = .done ∧ (edit i).Puts key v ∧
        ∀ c, s.phase c = .done → edit c = .wipe → ¬ s.StartedBefore i c) ∨
      m₀ key = some v ∧ ∀ c, s.phase c = .done → edit c ≠ .wipe := by
  have houtcome : (order.map Prod.fst).foldl (fun m i => (edit i).effect m) m₀ key = some v := by
    rw [List.foldl_map, h.linear.outcome]
    exact hv
  have hordered : (order.map Prod.fst).Pairwise fun c i => edit c = .wipe → ∀ key v,
      (edit i).Puts key v → ¬ s.StartedBefore i c := List.pairwise_map.mpr h.ordered
  rcases last_put houtcome with ⟨before, i, after, hl, hputs, hafter⟩ | ⟨hfirst, hall⟩
  · refine .inl ⟨i, (h.done i).mp (hl ▸ List.mem_append_right _ List.mem_cons_self), hputs,
      fun c hc hwipe => ?_⟩
    have hmem : c ∈ before ++ i :: after := hl ▸ (h.done c).mpr hc
    rw [hl] at hordered
    rcases List.mem_append.mp hmem with hc | hc
    · exact (List.pairwise_append.mp hordered).2.2 c hc i List.mem_cons_self hwipe key v hputs
    · rcases List.mem_cons.mp hc with rfl | hc
      · rw [Edit.Puts, hwipe] at hputs
        cases hputs
      · exact absurd hwipe (hafter c hc)
  · exact .inr ⟨hfirst, fun c hc => hall c ((h.done c).mpr hc)⟩

end Rules

end CellLib
