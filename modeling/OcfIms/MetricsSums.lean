import Mathlib
import OcfIms.Metrics

/-!
# The dashboard adds up

The figures of the dashboard are counts by one key or another. A count by a key is a partition where
every row has its key among those that are shown; so each of these lists adds up to the number of the
rows, whatever their order.
-/

namespace OcfIms

/-! ## Counting by a key -/

section Counting

variable {κ : Type} [DecidableEq κ]

/-- Counts by different keys, among which is that of every element, add up. -/
theorem sum_count (ks l : List κ) (hks : ks.Nodup) (h : ∀ a ∈ l, a ∈ ks) :
    (ks.map fun k => (l.count k : Int)).sum = l.length := by
  induction l with
  | nil => simp
  | cons a l ih =>
      have hone : (ks.map fun k => if a = k then (1 : Int) else 0).sum = 1 := by
        have hmem : a ∈ ks := h a List.mem_cons_self
        rw [List.sum_map_eq_nsmul_single a _ fun k hk _ => if_neg (Ne.symm hk),
          List.count_eq_one_of_mem hks hmem, if_pos rfl, one_nsmul]
      have hsplit : (ks.map fun k => ((a :: l).count k : Int)) =
          ks.map fun k => (l.count k : Int) + if a = k then 1 else 0 := by
        refine List.map_congr_left fun k _ => ?_
        rw [List.count_cons]
        by_cases hk : a = k <;> simp [hk]
      rw [hsplit, List.sum_map_add, hone, ih fun b hb => h b (List.mem_cons_of_mem a hb)]
      simp

namespace Counts

/-- A map that counts the keys of a list. -/
def tallied (keys : List κ) : Counts κ := keys.foldl Counts.bump []

theorem mem_bump_iff {m : Counts κ} {a k : κ} {n : Int} :
    (k, n) ∈ m.bump a ↔ k = a ∧ n = m.get a + 1 ∨ (k, n) ∈ m ∧ k ≠ a := by
  rw [bump, List.mem_cons, List.mem_filter, Prod.mk.injEq]
  simp

theorem nodup_bump {m : Counts κ} (h : (m.map Prod.fst).Nodup) (a : κ) :
    ((m.bump a).map Prod.fst).Nodup := by
  rw [bump, List.map_cons, List.nodup_cons]
  refine ⟨fun hmem => ?_, h.sublist (List.filter_sublist.map Prod.fst)⟩
  obtain ⟨r, hr, hra⟩ := List.mem_map.mp hmem
  have hne := (List.mem_filter.mp hr).2
  exact absurd hra (by simpa using hne)

theorem nodup_tallied (keys : List κ) : ((tallied keys).map Prod.fst).Nodup := by
  induction keys using List.reverseRecOn with
  | nil => exact List.nodup_nil
  | append_singleton keys a ih =>
      rw [tallied, List.foldl_append, List.foldl_cons, List.foldl_nil]
      exact nodup_bump ih a

/-- The value under a key that is there. -/
theorem get_of_mem {m : Counts κ} (h : (m.map Prod.fst).Nodup) {k : κ} {n : Int}
    (hmem : (k, n) ∈ m) : m.get k = n := by
  rw [get]
  induction m with
  | nil => cases hmem
  | cons r m ih =>
      rw [List.map_cons, List.nodup_cons] at h
      rcases List.mem_cons.mp hmem with rfl | hmem
      · rw [List.lookup_cons_self]
        rfl
      · have hk : k ≠ r.1 := by
          rintro rfl
          exact h.1 (List.mem_map.mpr ⟨_, hmem, rfl⟩)
        have hbeq : (k == r.1) = false := beq_false_of_ne hk
        rw [List.lookup_cons, hbeq]
        exact ih h.2 hmem

theorem get_of_notMem {m : Counts κ} {k : κ} (h : k ∉ m.map Prod.fst) : m.get k = 0 := by
  have hnone : m.lookup k = none := by
    rw [List.lookup_eq_none_iff]
    intro r hr
    rw [bne_iff_ne]
    rintro rfl
    exact h (List.mem_map_of_mem hr)
  rw [get, hnone]
  rfl

theorem mem_tallied_iff {keys : List κ} {k : κ} {n : Int} :
    (k, n) ∈ tallied keys ↔ k ∈ keys ∧ n = keys.count k := by
  induction keys using List.reverseRecOn generalizing k n with
  | nil => simp [tallied]
  | append_singleton keys a ih =>
      have hget : (tallied keys).get a = keys.count a := by
        by_cases ha : a ∈ keys
        · exact get_of_mem (nodup_tallied keys) (ih.mpr ⟨ha, rfl⟩)
        · rw [List.count_eq_zero_of_not_mem ha]
          refine get_of_notMem fun hmem => ?_
          obtain ⟨⟨_, _⟩, hr, rfl⟩ := List.mem_map.mp hmem
          exact ha (ih.mp hr).1
      have hbump : tallied (keys ++ [a]) = (tallied keys).bump a := by
        rw [tallied, List.foldl_append]
        rfl
      rw [hbump, mem_bump_iff, ih, hget, List.mem_append, List.mem_singleton, List.count_append,
        List.count_singleton]
      by_cases hk : k = a
      · subst hk
        simp
      · simp [hk, Ne.symm hk]

theorem get_tallied (keys : List κ) (k : κ) : (tallied keys).get k = keys.count k := by
  by_cases hk : k ∈ keys
  · exact get_of_mem (nodup_tallied keys) (mem_tallied_iff.mpr ⟨hk, rfl⟩)
  · rw [List.count_eq_zero_of_not_mem hk]
    refine get_of_notMem fun hmem => ?_
    obtain ⟨⟨_, _⟩, hr, rfl⟩ := List.mem_map.mp hmem
    exact hk (mem_tallied_iff.mp hr).1

/-- The counts are those of the keys, in whatever order. -/
theorem tallied_perm (keys : List κ) :
    (tallied keys).Perm (keys.dedup.map fun k => (k, (keys.count k : Int))) := by
  refine (List.perm_ext_iff_of_nodup (nodup_tallied keys).of_map ?_).mpr fun ⟨k, n⟩ => ?_
  · exact (List.nodup_dedup keys).map fun k k' h => (Prod.mk.inj h).1
  · rw [mem_tallied_iff, List.mem_map]
    constructor
    · rintro ⟨hk, rfl⟩
      exact ⟨k, List.mem_dedup.mpr hk, rfl⟩
    · rintro ⟨k', hk', h⟩
      cases h
      exact ⟨List.mem_dedup.mp hk', rfl⟩

end Counts

theorem sum_groupCounts (keys : List κ) :
    ((DB.groupCounts keys).map (·.count)).sum = keys.length := by
  rw [DB.groupCounts, List.map_map]
  exact sum_count keys.dedup keys (List.nodup_dedup keys) fun _ => List.mem_dedup.mpr

end Counting

/-! ## What the loop counts -/

/-- An incident in the list of the follow-ups. -/
def followUpRef (inc : MetricsIncidentsRow) : MetricIncidentRef :=
  ⟨inc.number, if inc.isPrivate then "" else inc.summary.getD ""⟩

theorem foldl_tallyIncident (localDay : Int → String) (incidents : List MetricsIncidentsRow) :
    incidents.foldl (tallyIncident localDay) {} =
      { closed := incidents.countP fun inc => inc.state = .stateClosed
        stateCounts := Counts.tallied (incidents.map (·.state))
        priorityCounts := Counts.tallied (incidents.map fun inc => priorityKey inc.priority)
        dayCounts := Counts.tallied (incidents.map fun inc => localDay inc.created)
        closedCount := incidents.countP fun inc => inc.closed.isSome
        closeSum := (incidents.map fun inc => (inc.closed.map (· - inc.created)).getD 0).sum
        followUps := (incidents.filter needsFollowUp).map followUpRef } := by
  induction incidents using List.reverseRecOn with
  | nil => rfl
  | append_singleton incidents inc ih =>
      rw [List.foldl_append, ih]
      simp only [List.foldl_cons, List.foldl_nil, tallyIncident, List.countP_append,
        List.countP_singleton, List.map_append, List.map_cons, List.map_nil, Counts.tallied,
        List.foldl_append, List.filter_append, List.sum_append, List.sum_cons, List.sum_nil,
        MetricsTally.mk.injEq, true_and, Int.add_zero]
      refine ⟨?_, ?_, ?_⟩
      · by_cases hstate : inc.state = .stateClosed <;> simp [hstate]
      · by_cases hclosed : inc.closed.isSome = true <;> simp [hclosed]
      · by_cases hneeds : needsFollowUp inc = true
        · rw [if_pos hneeds, List.filter_cons_of_pos hneeds]
          rfl
        · rw [if_neg hneeds, List.filter_cons_of_neg hneeds]
          exact (List.append_nil _).symm

/-! ## The rows of an event -/

/-- The rows of an event's incidents. -/
def DB.incidentsOf (db : DB) (e : Int) : List ((Int × Int) × Incident) :=
  db.incident.rows.filter fun r => r.1.1 = e

/-- The rows of an event's roster. -/
def DB.rosterOf (db : DB) (e : Int) : List ((Int × Int) × PersonEvent) :=
  db.personEvent.rows.filter fun r => r.1.2 = e

theorem filterMap_ite {α β : Type} (p : α → Prop) [DecidablePred p] (f : α → β) (l : List α) :
    (l.filterMap fun a => if p a then some (f a) else none) =
      (l.filter fun a => p a).map f := by
  induction l with
  | nil => rfl
  | cons a l ih =>
      by_cases ha : p a
      · simp [ha, ih]
      · simp [ha, ih]

theorem metricsIncidents_perm (db : DB) (e : Int) :
    (db.metricsIncidents e).Perm
      ((db.incidentsOf e).map fun r => db.metricsIncidentsRow r.1.2 r.2) := by
  refine (List.perm_insertionSort _ _).trans ?_
  exact List.Perm.of_eq (filterMap_ite (fun r => r.1.1 = e)
    (fun r => db.metricsIncidentsRow r.1.2 r.2) db.incident.rows)

theorem nodup_incidentsOf (db : DB) (e : Int) :
    ((db.incidentsOf e).map fun r => r.1.2).Nodup := by
  have hkeys : ((db.incidentsOf e).map Prod.fst).Nodup :=
    db.incident.nodup.sublist (List.filter_sublist.map Prod.fst)
  have hmap : ((db.incidentsOf e).map fun r => r.1.2) =
      ((db.incidentsOf e).map Prod.fst).map Prod.snd := (List.map_map ..).symm
  rw [hmap]
  refine List.Nodup.map_on (fun k hk k' hk' h => ?_) hkeys
  obtain ⟨r, hr, rfl⟩ := List.mem_map.mp hk
  obtain ⟨r', hr', rfl⟩ := List.mem_map.mp hk'
  have he : r.1.1 = e := by simpa using (List.mem_filter.mp hr).2
  have he' : r'.1.1 = e := by simpa using (List.mem_filter.mp hr').2
  exact Prod.ext (he.trans he'.symm) h

theorem mem_incidentsOf_iff {db : DB} {e n : Int} {i : Incident} :
    ((e, n), i) ∈ db.incidentsOf e ↔ db.incident.find? (e, n) = some i := by
  rw [DB.incidentsOf, List.mem_filter, ← TxnLib.Table.find?_eq_some_iff]
  simp

/-- Incidents that are counted under one key are different incidents of the event. -/
theorem count_typedIncidents_le {κ : Type} [DecidableEq κ] (db : DB) (e : Int)
    (f : Int → String → κ) (k : κ) :
    ((db.typedIncidents e f).dedup.map Prod.fst).count k ≤ (db.incidentsOf e).length := by
  let found := ((db.typedIncidents e f).dedup.filter fun p => p.1 = k).map Prod.snd
  have hcount : ((db.typedIncidents e f).dedup.map Prod.fst).count k = found.length := by
    rw [List.count_eq_countP, List.countP_map, List.length_map, ← List.countP_eq_length_filter]
    exact List.countP_congr fun p _ => by simp
  have hnodup : found.Nodup := by
    refine List.Nodup.map_on (fun p hp p' hp' h => ?_) ((List.nodup_dedup _).filter _)
    have hk : p.1 = k := by simpa using (List.mem_filter.mp hp).2
    have hk' : p'.1 = k := by simpa using (List.mem_filter.mp hp').2
    exact Prod.ext (hk.trans hk'.symm) h
  have hsubset : found ⊆ (db.incidentsOf e).map fun r => r.1.2 := by
    intro n hn
    obtain ⟨p, hp, rfl⟩ := List.mem_map.mp hn
    have htyped := List.mem_dedup.mp (List.mem_filter.mp hp).1
    obtain ⟨r, -, hr⟩ := List.mem_filterMap.mp htyped
    split at hr
    · rename_i hthere
      obtain ⟨i, hi⟩ := TxnLib.Table.contains_iff.mp hthere.2
      obtain ⟨name, -, rfl⟩ := Option.map_eq_some_iff.mp hr
      exact List.mem_map.mpr ⟨_, mem_incidentsOf_iff.mpr hi, rfl⟩
    · cases hr
  have hle : found.length ≤ ((db.incidentsOf e).map fun r => r.1.2).length :=
    (List.subperm_of_subset hnodup hsubset).length_le
  exact hcount.trans_le (hle.trans_eq (List.length_map _))

/-! ## The figures, whatever the order of the rows -/

def categoryCount (row : GroupCount (Option IncidentTypeGroup)) : MetricCount :=
  ⟨(categoryKeyLabel row.key).1, (categoryKeyLabel row.key).2, row.count⟩

def typeCount (row : GroupCount TypeKey) : MetricCount :=
  ⟨toString row.key.id, row.key.name, row.count⟩

def areaCount (row : GroupCount AreaKey) : MetricCount :=
  if row.key.slug = none then ⟨"", "Unassigned", row.count⟩
  else ⟨row.key.slug.getD "", row.key.name.getD "", row.count⟩

/-- The order of the days. -/
def dayBefore (a b : MetricDay) : Prop := ¬ b.date < a.date

instance : DecidableRel dayBefore := fun _ _ => inferInstanceAs (Decidable (¬ _))

instance : Std.Total dayBefore where
  total := fun a b => by
    simp only [dayBefore, not_lt]
    exact le_total a.date b.date

instance : IsTrans MetricDay dayBefore where
  trans := fun a b c hab hbc => by
    simp only [dayBefore, not_lt] at *
    exact hab.trans hbc

/-- The list of the days, of the days of the incidents. -/
def dayCounts (days : List String) : List MetricDay :=
  ((Counts.tallied days).map fun d => (⟨d.1, d.2⟩ : MetricDay)).insertionSort dayBefore

theorem dayCounts_perm (days : List String) :
    (dayCounts days).Perm (days.dedup.map fun d => (⟨d, days.count d⟩ : MetricDay)) := by
  refine (List.perm_insertionSort dayBefore _).trans ?_
  have htallied := (Counts.tallied_perm days).map fun d => (⟨d.1, d.2⟩ : MetricDay)
  rwa [List.map_map] at htallied

/-- **By day**: the dates ascend, and none comes twice. -/
theorem pairwise_dayCounts (days : List String) :
    (dayCounts days).Pairwise fun a b => a.date < b.date := by
  have hdates : ((dayCounts days).map (·.date)).Nodup := by
    refine ((dayCounts_perm days).map (·.date)).nodup_iff.mpr ?_
    rw [List.map_map]
    exact (List.nodup_dedup days).map fun _ _ h => h
  have hsorted : (dayCounts days).Pairwise dayBefore := List.pairwise_insertionSort dayBefore _
  refine (hsorted.and (List.pairwise_map.mp hdates)).imp fun {a b} h => ?_
  exact lt_of_le_of_ne (not_lt.mp h.1) h.2

/-- The list of the days does not depend on the order of the incidents. -/
theorem dayCounts_eq_of_perm {days days' : List String} (h : days.Perm days') :
    dayCounts days = dayCounts days' := by
  have hrows : (days.dedup.map fun d => (⟨d, days.count d⟩ : MetricDay)).Perm
      (days'.dedup.map fun d => (⟨d, days'.count d⟩ : MetricDay)) := by
    have hcount : (fun d => (⟨d, days.count d⟩ : MetricDay)) = fun d => ⟨d, days'.count d⟩ := by
      funext d
      rw [h.count_eq]
    rw [hcount]
    exact h.dedup.map _
  refine List.Perm.eq_of_pairwise (fun a b _ _ hab hba => ?_) (pairwise_dayCounts days)
    (pairwise_dayCounts days') (((dayCounts_perm days).trans hrows).trans (dayCounts_perm days').symm)
  exact absurd hba (lt_asymm hab)

section Figures

variable (localDay : Int → String) (event : EventRow) {rows incidents : List MetricsIncidentsRow}
  (byCategory : List (GroupCount (Option IncidentTypeGroup))) (byType : List (GroupCount TypeKey))
  (byArea : List (GroupCount AreaKey)) {roster : List ParticipationType}
  {byRole : List (GroupCount ParticipationType)}

/-- The figures, of the incidents and the roster. -/
structure Figures (localDay : Int → String) (rows : List MetricsIncidentsRow)
    (roster : List ParticipationType) (m : MetricsJSON) : Prop where
  total : m.total = rows.length
  closed : m.closed = rows.countP fun inc => inc.state = .stateClosed
  «open» : m.open = m.total - m.closed
  closedCount : m.closedCount = rows.countP fun inc => inc.closed.isSome
  byState : m.byState = allIncidentStateValues.map fun st =>
    ⟨stateKey st, stateLabel st, (rows.map (·.state)).count st⟩
  byPriority : m.byPriority = [("high", "High"), ("normal", "Normal"), ("low", "Low")].map fun p =>
    ⟨p.1, p.2, (rows.map fun inc => priorityKey inc.priority).count p.1⟩
  byDay : m.byDay = dayCounts (rows.map fun inc => localDay inc.created)
  byRole : m.byRole = participationLadder.map fun rung =>
    ⟨rung.2.1, rung.2.2, roster.count rung.1⟩
  openFollowUps : m.openFollowUps.Perm ((rows.filter needsFollowUp).map followUpRef)

theorem get_roleCounts (h : byRole.Perm (DB.groupCounts roster)) (rung : ParticipationType) :
    Counts.get (byRole.map fun row => (row.key, row.count)) rung = roster.count rung := by
  have hperm : (byRole.map fun row => (row.key, row.count)).Perm
      (roster.dedup.map fun key => (key, (roster.count key : Int))) := by
    refine (h.map _).trans (List.Perm.of_eq ?_)
    rw [DB.groupCounts, List.map_map]
    rfl
  have hkeys : ((byRole.map fun row => (row.key, row.count)).map Prod.fst).Perm roster.dedup := by
    refine (hperm.map Prod.fst).trans (List.Perm.of_eq ?_)
    rw [List.map_map]
    exact List.map_id _
  have hnodup := hkeys.nodup_iff.mpr (List.nodup_dedup roster)
  by_cases hrung : rung ∈ roster
  · refine Counts.get_of_mem hnodup (hperm.mem_iff.mpr ?_)
    exact List.mem_map.mpr ⟨rung, List.mem_dedup.mpr hrung, rfl⟩
  · rw [List.count_eq_zero_of_not_mem hrung]
    exact Counts.get_of_notMem fun hmem => hrung (List.mem_dedup.mp (hkeys.mem_iff.mp hmem))

theorem figures_buildMetrics (hincidents : incidents.Perm rows)
    (hrole : byRole.Perm (DB.groupCounts roster)) :
    Figures localDay rows roster
      (buildMetrics localDay event incidents byCategory byType byArea byRole) := by
  have hloop := foldl_tallyIncident localDay incidents
  refine ⟨?_, ?_, ?_, ?_, ?_, ?_, ?_, ?_, ?_⟩
  · simp only [buildMetrics, hincidents.length_eq]
  · simp only [buildMetrics, hloop, hincidents.countP_eq]
  · simp only [buildMetrics]
  · simp only [buildMetrics, hloop, hincidents.countP_eq]
  · simp only [buildMetrics, hloop, Counts.get_tallied, (hincidents.map _).count_eq]
  · simp only [buildMetrics, hloop, Counts.get_tallied, (hincidents.map _).count_eq]
  · simp only [buildMetrics, hloop]
    exact dayCounts_eq_of_perm (hincidents.map _)
  · simp only [buildMetrics]
    exact List.map_congr_left fun rung _ => congrArg (MetricCount.mk rung.2.1 rung.2.2)
      (get_roleCounts hrole rung.1)
  · simp only [buildMetrics, hloop]
    exact (hincidents.filter _).map _

end Figures

/-! ## The law of the dashboard -/

/-- What the figures add up to, for an event of the database. -/
structure AddsUp (db : DB) (e : Int) (m : MetricsJSON) : Prop where
  total : m.total = m.open + m.closed
  incidents : m.total = (db.incidentsOf e).length
  closed : m.closed = (db.incidentsOf e).countP fun r => r.2.closed.isSome
  byState : (m.byState.map (·.count)).sum = m.total
  byPriority : (m.byPriority.map (·.count)).sum = m.total
  byDay : (m.byDay.map (·.count)).sum = m.total
  byArea : (m.byArea.map (·.count)).sum = m.total
  days : m.byDay.Pairwise fun a b => a.date < b.date
  byCategory : ∀ row ∈ m.byCategory, row.count ≤ m.total
  byType : ∀ row ∈ m.byType, row.count ≤ m.total
  byRole : (m.byRole.map (·.count)).sum = (db.rosterOf e).length
  once : (m.openFollowUps.map (·.number)).Nodup
  openFollowUps : ∀ n, n ∈ m.openFollowUps.map (·.number) ↔
    ∃ i, db.incident.find? (e, n) = some i ∧ i.state ≠ .stateClosed ∧
      i.outcomeID.bind db.outcome.find? = some outcomeFollowUpRequired

/-- Nothing differs between the figures but the order of the follow-ups. -/
structure SameFigures (m m' : MetricsJSON) : Prop where
  total : m'.total = m.total
  «open» : m'.open = m.open
  closed : m'.closed = m.closed
  closedCount : m'.closedCount = m.closedCount
  byState : m'.byState = m.byState
  byPriority : m'.byPriority = m.byPriority
  byDay : m'.byDay = m.byDay
  byRole : m'.byRole = m.byRole
  openFollowUps : m'.openFollowUps.Perm m.openFollowUps

theorem Figures.same {localDay : Int → String} {rows : List MetricsIncidentsRow}
    {roster : List ParticipationType} {m m' : MetricsJSON} (h : Figures localDay rows roster m)
    (h' : Figures localDay rows roster m') : SameFigures m m' where
  total := h'.total.trans h.total.symm
  «open» := by rw [h'.open, h.open, h'.total, h.total, h'.closed, h.closed]
  closed := h'.closed.trans h.closed.symm
  closedCount := h'.closedCount.trans h.closedCount.symm
  byState := h'.byState.trans h.byState.symm
  byPriority := h'.byPriority.trans h.byPriority.symm
  byDay := h'.byDay.trans h.byDay.symm
  byRole := h'.byRole.trans h.byRole.symm
  openFollowUps := h'.openFollowUps.trans h.openFollowUps.symm

theorem priorityKey_mem (priority : Int) : priorityKey priority ∈ ["high", "normal", "low"] := by
  rw [priorityKey]
  split
  · simp
  · split <;> simp

/-- The figures of the rows of an event are partitions of its incidents and its roster. -/
theorem Figures.sums {localDay : Int → String} {rows : List MetricsIncidentsRow}
    {roster : List ParticipationType} {m : MetricsJSON} (h : Figures localDay rows roster m) :
    (m.byState.map (·.count)).sum = m.total ∧ (m.byPriority.map (·.count)).sum = m.total ∧
      (m.byDay.map (·.count)).sum = m.total ∧ (m.byRole.map (·.count)).sum = roster.length := by
  rw [h.total, h.byState, h.byPriority, h.byDay, h.byRole]
  refine ⟨?_, ?_, ?_, ?_⟩
  · have hsum := sum_count allIncidentStateValues (rows.map (·.state)) (by decide)
      fun st _ => by cases st <;> decide
    rw [List.length_map] at hsum
    rw [List.map_map]
    exact hsum
  · have hsum := sum_count ["high", "normal", "low"]
      (rows.map fun inc => priorityKey inc.priority) (by decide) fun key hkey => by
        obtain ⟨inc, -, rfl⟩ := List.mem_map.mp hkey
        exact priorityKey_mem inc.priority
    rw [List.length_map] at hsum
    exact hsum
  · have hperm := (dayCounts_perm (rows.map fun inc => localDay inc.created)).map (·.count)
    rw [hperm.sum_eq, List.map_map]
    have hsum := sum_count _ (rows.map fun inc => localDay inc.created) (List.nodup_dedup _)
      fun day hday => List.mem_dedup.mpr hday
    rw [List.length_map] at hsum
    exact hsum
  · have hsum := sum_count (participationLadder.map (·.1)) roster (by decide)
      fun rung _ => by cases rung <;> decide
    rw [List.map_map] at hsum ⊢
    exact hsum

theorem sum_areaCount (byArea : List (GroupCount AreaKey)) :
    ((byArea.map areaCount).map (·.count)).sum = (byArea.map (·.count)).sum := by
  rw [List.map_map]
  refine congrArg List.sum (List.map_congr_left fun row _ => ?_)
  simp only [Function.comp, areaCount]
  split <;> rfl

section Database

variable {c : MetricsColumns} {db : DB} {localDay : Int → String} {event : EventRow}
  {incidents : List MetricsIncidentsRow}
  {byCategory : List (GroupCount (Option IncidentTypeGroup))} {byType : List (GroupCount TypeKey)}
  {byArea : List (GroupCount AreaKey)} {byRole : List (GroupCount ParticipationType)}

theorem length_metricsIncidents (db : DB) (e : Int) :
    (db.metricsIncidents e).length = (db.incidentsOf e).length := by
  rw [(metricsIncidents_perm db e).length_eq, List.length_map]

theorem sum_metricsByArea (c : MetricsColumns) (db : DB) (e : Int) :
    ((db.metricsByArea c e).map (·.count)).sum = (db.incidentsOf e).length := by
  rw [DB.metricsByArea, ((List.perm_insertionSort _ _).map _).sum_eq, sum_groupCounts]
  refine congrArg Nat.cast ((congrArg List.length (filterMap_ite _ _ _)).trans ?_)
  exact List.length_map _

theorem metricsByRole_eq (db : DB) (e : Int) :
    db.metricsByRole e =
      DB.groupCounts ((db.rosterOf e).map fun r => r.2.participationType) := by
  rw [DB.metricsByRole, filterMap_ite (fun r : (Int × Int) × PersonEvent => r.1.2 = e)
    fun r => r.2.participationType]
  rfl

/-- A count of incidents by type or category counts each of them once at most. -/
theorem count_groupCounts_le {κ : Type} [DecidableEq κ] (db : DB) (e : Int) (f : Int → String → κ)
    {row : GroupCount κ}
    (h : row ∈ DB.groupCounts ((db.typedIncidents e f).dedup.map Prod.fst)) :
    row.count ≤ (db.incidentsOf e).length := by
  obtain ⟨key, -, rfl⟩ := List.mem_map.mp h
  exact Int.ofNat_le.mpr (count_typedIncidents_le db e f key)

theorem openFollowUps_iff {n : Int} :
    n ∈ (((db.metricsIncidents event.id).filter needsFollowUp).map followUpRef).map (·.number) ↔
      ∃ i, db.incident.find? (event.id, n) = some i ∧ i.state ≠ .stateClosed ∧
        i.outcomeID.bind db.outcome.find? = some outcomeFollowUpRequired := by
  have hneeds : ∀ (k : Int) (i : Incident), needsFollowUp (db.metricsIncidentsRow k i) = true ↔
      i.state ≠ .stateClosed ∧
        i.outcomeID.bind db.outcome.find? = some outcomeFollowUpRequired := by
    intro k i
    simp only [needsFollowUp, DB.metricsIncidentsRow, Bool.and_eq_true, beq_iff_eq, bne_iff_ne]
    exact and_comm
  simp only [List.mem_map, List.mem_filter, (metricsIncidents_perm db event.id).mem_iff]
  constructor
  · rintro ⟨_, ⟨inc, ⟨⟨⟨⟨e, k⟩, i⟩, hi, rfl⟩, hinc⟩, rfl⟩, rfl⟩
    have he : e = event.id := by simpa using (List.mem_filter.mp hi).2
    subst he
    exact ⟨i, mem_incidentsOf_iff.mp hi, (hneeds k i).mp hinc⟩
  · rintro ⟨i, hi, h⟩
    exact ⟨_, ⟨_, ⟨⟨_, mem_incidentsOf_iff.mpr hi, rfl⟩, (hneeds n i).mpr h⟩, rfl⟩, rfl⟩

/-- **The dashboard adds up**, where exactly the closed incidents have a close time, and its figures
do not depend on the order of the incidents and of the roster; the other counts come in the order of
their rows. -/
theorem dashboard_adds_up
    (hclosed : ∀ n i, db.incident.find? (event.id, n) = some i →
      (i.closed.isSome = true ↔ i.state = .stateClosed))
    (hincidents : incidents.Perm (db.metricsIncidents event.id))
    (hcategory : byCategory.Perm (db.metricsByCategory c event.id))
    (htype : byType.Perm (db.metricsByType c event.id))
    (harea : byArea.Perm (db.metricsByArea c event.id))
    (hrole : byRole.Perm (db.metricsByRole event.id)) :
    let dashboard := buildMetrics localDay event (db.metricsIncidents event.id)
      (db.metricsByCategory c event.id) (db.metricsByType c event.id)
      (db.metricsByArea c event.id) (db.metricsByRole event.id)
    let m := buildMetrics localDay event incidents byCategory byType byArea byRole
    AddsUp db event.id m ∧ SameFigures dashboard m ∧ m.byCategory = byCategory.map categoryCount ∧
      m.byType = byType.map typeCount ∧ m.byArea = byArea.map areaCount := by
  intro dashboard m
  rw [metricsByRole_eq] at hrole
  have hfigures : Figures localDay (db.metricsIncidents event.id) _ m :=
    figures_buildMetrics localDay event byCategory byType byArea hincidents hrole
  have hdashboard : Figures localDay (db.metricsIncidents event.id) _ dashboard :=
    figures_buildMetrics localDay event _ _ _ (List.Perm.refl _)
      (List.Perm.of_eq (metricsByRole_eq db event.id))
  have htotal : m.total = (db.incidentsOf event.id).length := by
    rw [hfigures.total, length_metricsIncidents]
  obtain ⟨hstate, hpriority, hday, hladder⟩ := hfigures.sums
  refine ⟨?_, hdashboard.same hfigures, rfl, rfl, rfl⟩
  refine ⟨?_, htotal, ?_, hstate, hpriority, hday, ?_, ?_, ?_, ?_, ?_, ?_, ?_⟩
  · rw [hfigures.open]
    omega
  · rw [hfigures.closed, (metricsIncidents_perm db event.id).countP_eq, List.countP_map]
    refine congrArg Nat.cast (List.countP_congr fun r hr => ?_)
    obtain ⟨⟨e, n⟩, i⟩ := r
    have he : e = event.id := by simpa using (List.mem_filter.mp hr).2
    subst he
    simpa [DB.metricsIncidentsRow] using (hclosed n i (mem_incidentsOf_iff.mp hr)).symm
  · refine (sum_areaCount byArea).trans ?_
    rw [(harea.map _).sum_eq, sum_metricsByArea, htotal]
  · rw [hfigures.byDay]
    exact pairwise_dayCounts _
  · intro row hrow
    obtain ⟨group, hgroup, rfl⟩ := List.mem_map.mp (show row ∈ byCategory.map categoryCount from hrow)
    rw [htotal]
    exact count_groupCounts_le db event.id (fun t _ => c.group t) (hcategory.mem_iff.mp hgroup)
  · intro row hrow
    obtain ⟨group, hgroup, rfl⟩ := List.mem_map.mp (show row ∈ byType.map typeCount from hrow)
    rw [htotal]
    exact count_groupCounts_le db event.id TypeKey.mk
      ((List.mem_insertionSort _).mp (htype.mem_iff.mp hgroup))
  · rw [hladder, List.length_map]
  · refine ((hfigures.openFollowUps.map (·.number)).nodup_iff).mpr ?_
    rw [List.map_map]
    have hnumbers : ((db.metricsIncidents event.id).map (·.number)).Nodup := by
      refine (((metricsIncidents_perm db event.id).map (·.number)).nodup_iff).mpr ?_
      rw [List.map_map]
      exact nodup_incidentsOf db event.id
    exact hnumbers.sublist (List.filter_sublist.map _)
  · intro n
    rw [(hfigures.openFollowUps.map (·.number)).mem_iff]
    exact openFollowUps_iff

end Database

/-- An open incident of two types that asks for a follow-up, and a closed one. -/
def busyDB : DB where
  incident := ⟨[((1, 1), ⟨0, 5, .stateOpen, some 1, 0, none, none, none, none, none, false, none⟩),
    ((1, 2), ⟨10, 3, .stateClosed, none, 10, some 20, none, none, none, none, false, none⟩)],
    by decide⟩
  outcome := ⟨[(1, outcomeFollowUpRequired)], by decide⟩
  incidentType := ⟨[(1, "Fire"), (2, "Medical")], by decide⟩
  incidentIncidentType := ⟨[((1, 1, 1), ()), ((1, 1, 2), ())], by decide⟩

def busyColumns : MetricsColumns := ⟨id, fun _ => none⟩

def busyEvent : EventRow := ⟨1, { name := "faire" }⟩

theorem dashboard_adds_up_busy :
    AddsUp busyDB 1 (buildMetrics (fun _ => "2026-01-01") busyEvent
      (busyDB.metricsIncidents 1).reverse (busyDB.metricsByCategory busyColumns 1)
      (busyDB.metricsByType busyColumns 1).reverse (busyDB.metricsByArea busyColumns 1)
      (busyDB.metricsByRole 1)) := by
  have hclosed : ∀ n i, busyDB.incident.find? (busyEvent.id, n) = some i →
      (i.closed.isSome = true ↔ i.state = .stateClosed) := by
    intro n i hi
    have hmem : ((1, n), i) ∈ busyDB.incident.rows := TxnLib.Table.find?_eq_some_iff.mp hi
    simp only [busyDB, List.mem_cons, Prod.mk.injEq, List.not_mem_nil, or_false] at hmem
    rcases hmem with ⟨-, rfl⟩ | ⟨-, rfl⟩ <;> decide
  exact (dashboard_adds_up hclosed (List.reverse_perm _) (List.Perm.refl _)
    (List.reverse_perm _) (List.Perm.refl _) (List.Perm.refl _)).1

/-- The types come in the order of their rows, so another order of the rows is another dashboard. -/
theorem types_follow_rows :
    let dashboard := buildMetrics (fun _ => "2026-01-01") busyEvent (busyDB.metricsIncidents 1)
      (busyDB.metricsByCategory busyColumns 1) (busyDB.metricsByType busyColumns 1)
      (busyDB.metricsByArea busyColumns 1) (busyDB.metricsByRole 1)
    (∀ r ∈ busyDB.incident.rows, r.2.closed.isSome = true ↔ r.2.state = .stateClosed) ∧
    ∃ byType : List (GroupCount TypeKey), byType.Perm (busyDB.metricsByType busyColumns 1) ∧
      (buildMetrics (fun _ => "2026-01-01") busyEvent (busyDB.metricsIncidents 1)
        (busyDB.metricsByCategory busyColumns 1) byType (busyDB.metricsByArea busyColumns 1)
        (busyDB.metricsByRole 1)).byType ≠ dashboard.byType := by
  refine ⟨by decide, (busyDB.metricsByType busyColumns 1).reverse, List.reverse_perm _, ?_⟩
  decide

end OcfIms
