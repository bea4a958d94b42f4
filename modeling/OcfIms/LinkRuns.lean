import Mathlib
import OcfIms.LinkTimeline

/-!
# Runs that keep the timelines true

The runs of the four methods that link reports, and those in which the timelines of an event tell
the truth throughout. There are two ways to go wrong. A report moved straight from one incident to
another: neither editor tells the first incident. And a link changed together with a summary or an
entry: the timelines record the change, and the row write undoes it.
-/

namespace OcfIms

open TxnLib

variable {v : LinkView} {e e' n : Int}

/-! ## What stays true -/

theorem said_reconcileLines (lines : List JournalLine) (add sub : List Int) (r : Int) :
    said (lines ++ reconcileLines add sub) r =
      if r ∈ sub then false else if r ∈ add then true else said lines r := by
  have hlog : ∀ (lines : List JournalLine) (l : List Int) (line : JournalLine) (b : Bool),
      line.mentions r = (if r ∈ l then some b else none) →
      said (lines ++ logUnless l line) r = if r ∈ l then b else said lines r := by
    intro lines l line b hline
    unfold logUnless
    cases l with
    | nil => simp
    | cons r' l =>
        rw [List.isEmpty_cons, if_neg Bool.false_ne_true, said_append_single, hline]
        split <;> rfl
  rw [reconcileLines, ← List.append_assoc, hlog _ sub _ false rfl, hlog _ add _ true rfl]

/-- An update of an incident keeps the timelines true, unless it takes a report straight from
another incident. -/
theorem LinkView.Truthful.update (hv : v.Truthful e') {reports : Option (List Int)}
    {add sub : List Int} (hr : Relinks v e n reports add sub)
    (hfree : e' = e → ∀ r ∈ add, v.link e r = none) : (updatedView v e n add sub).Truthful e' := by
  have hlink : ∀ r, (updatedView v e n add sub).link e' r =
      if e' = e ∧ r ∈ sub then none else if e' = e ∧ r ∈ add then some n else v.link e' r :=
    fun _ => LinkView.link_updatedView
  have htold : ∀ r, told ((updatedView v e n add sub).reportLines e' r) =
      if e' = e ∧ r ∈ sub then none
      else if e' = e ∧ r ∈ add then some n else told (v.reportLines e' r) := by
    intro r
    show told ((v.reconcile e n add sub).reportLines e' r) = _
    rw [LinkView.reconcile, LinkView.told_relinkAll rfl, LinkView.told_relinkAll rfl]
  have hlines : ∀ i, (updatedView v e n add sub).incidentLines e' i =
      if e' = e ∧ i = n then v.incidentLines e' i ++ reconcileLines add sub
      else v.incidentLines e' i := by
    intro i
    show (if e' = e ∧ i = n then (v.reconcile e n add sub).incidentLines e' i ++ _
      else (v.reconcile e n add sub).incidentLines e' i) = _
    rw [LinkView.reconcile, LinkView.incidentLines_relinkAll, LinkView.incidentLines_relinkAll]
  refine ⟨fun i r => ?_, fun r => by rw [htold, hlink, hv.report]⟩
  rw [hlink, hlines]
  by_cases he : e' = e
  · subst he
    simp only [true_and]
    have hold := hv.incident i r
    by_cases hi : i = n
    · subst hi
      rw [if_pos rfl, said_reconcileLines]
      by_cases hsub : r ∈ sub
      · simp [hsub]
      · by_cases hadd : r ∈ add
        · simp [hsub, hadd]
        · simpa [hsub, hadd] using hold
    · rw [if_neg hi, ← hold]
      by_cases hsub : r ∈ sub
      · have hlinked := hr.linked r hsub
        rw [if_pos hsub, hlinked]
        simp [Ne.symm hi]
      · by_cases hadd : r ∈ add
        · rw [if_neg hsub, if_pos hadd, hfree rfl r hadd]
          simp [Ne.symm hi]
        · rw [if_neg hsub, if_neg hadd]
  · simp only [he, false_and, if_false]
    exact hv.incident i r

/-- A change of one report's link keeps the timelines true, unless it goes straight from one
incident to another. -/
theorem LinkView.Truthful.change (hv : v.Truthful e') {r : Int} {previous target : Option Int}
    (hprev : v.link e r = previous) (hne : target ≠ previous)
    (hdirect : e' = e → previous = none ∨ target = none) :
    (v.change e r previous target).Truthful e' := by
  by_cases he : e' = e
  · subst he
    have hsaid : ∀ i, said (v.incidentLines e' i) r = true ↔ previous = some i := by
      intro i
      rw [← hv.incident, hprev]
    cases target with
    | some i =>
        have hnone : previous = none := (hdirect rfl).resolve_right fun h => nomatch h
        refine ⟨fun i' r' => ?_, fun r' => ?_⟩
        · show (if e' = e' ∧ r' = r then some i else v.link e' r') = some i' ↔
            said (if e' = e' ∧ i' = i then v.incidentLines e' i' ++ [.reportAdded r]
              else v.incidentLines e' i') r' = true
          simp only [true_and]
          have hold := hv.incident i' r'
          by_cases hi : i' = i
          · subst hi
            rw [if_pos rfl, said_append_single]
            by_cases hr : r' = r
            · subst hr
              simp [JournalLine.mentions]
            · rw [if_neg hr, hold]
              simp [JournalLine.mentions, Ne.symm hr]
          · rw [if_neg hi]
            by_cases hr : r' = r
            · subst hr
              rw [if_pos rfl, hsaid, hnone]
              simp [Ne.symm hi]
            · rw [if_neg hr, hold]
        · show told ((v.relink e' r (some i) (.attachedToIncident i)).reportLines e' r') = _
          rw [LinkView.told_relink rfl, hv.report]
          rfl
    | none =>
        cases previous with
        | none => exact absurd rfl hne
        | some j =>
            refine ⟨fun i' r' => ?_, fun r' => ?_⟩
            · show (if e' = e' ∧ r' = r then none else v.link e' r') = some i' ↔
                said (if e' = e' ∧ i' = j then v.incidentLines e' i' ++ [.reportRemoved r]
                  else v.incidentLines e' i') r' = true
              simp only [true_and]
              have hold := hv.incident i' r'
              by_cases hi : i' = j
              · subst hi
                rw [if_pos rfl, said_append_single]
                by_cases hr : r' = r
                · subst hr
                  simp [JournalLine.mentions]
                · rw [if_neg hr, hold]
                  simp [JournalLine.mentions, Ne.symm hr]
              · rw [if_neg hi]
                by_cases hr : r' = r
                · subst hr
                  rw [if_pos rfl, hsaid]
                  simp [Ne.symm hi]
                · rw [if_neg hr, hold]
            · show told ((v.relink e' r none (.detachedFromIncident j)).reportLines e' r') = _
              rw [LinkView.told_relink rfl, hv.report]
              rfl
  · have hview : (v.change e r previous target).link e' = v.link e' ∧
        (v.change e r previous target).incidentLines e' = v.incidentLines e' ∧
        (v.change e r previous target).reportLines e' = v.reportLines e' := by
      cases target <;> cases previous <;>
        simp [LinkView.change, LinkView.relink, LinkView.setLink, LinkView.tellIncident,
          LinkView.tellReport, he]
    exact ⟨fun i r' => by rw [hview.1, hview.2.1]; exact hv.incident i r',
      fun r' => by rw [hview.1, hview.2.2]; exact hv.report r'⟩

/-- Writing the link a report has changes nothing. -/
theorem LinkView.setLink_self {r : Int} : v.setLink e r (v.link e r) = v := by
  unfold LinkView.setLink
  congr 1
  funext e' r'
  split
  · next h => rw [h.1, h.2]
  · rfl

/-- An update of a report keeps the timelines true, unless it changes a link straight from one
incident to another or together with an edit. -/
theorem LinkView.Truthful.edited (hv : v.Truthful e') {r : Int} {desired : Option Int} {edited : Bool}
    (halone : e' = e → ∀ value, desired = some value → targetIncident value ≠ v.link e r →
      (v.link e r = none ∨ targetIncident value = none) ∧ edited = false) :
    (editedView (reconciledView v e r (v.link e r) desired) e r (v.link e r) edited).Truthful e' := by
  have hsame : (editedView v e r (v.link e r) edited).Truthful e' := by
    unfold editedView
    cases edited with
    | false => exact hv
    | true =>
        rw [if_pos rfl, LinkView.setLink_self]
        exact hv
  cases desired with
  | none => exact hsame
  | some value =>
      unfold reconciledView
      dsimp only
      by_cases htarget : targetIncident value = v.link e r
      · rw [if_pos htarget]
        exact hsame
      · rw [if_neg htarget]
        have hchange : (v.change e r (v.link e r) (targetIncident value)).Truthful e' :=
          hv.change rfl htarget fun he => (halone he value rfl htarget).1
        by_cases he : e' = e
        · rw [(halone he value rfl htarget).2]
          exact hchange
        · unfold editedView
          cases edited with
          | false => exact hchange
          | true =>
              rw [if_pos rfl]
              refine ⟨fun i r' => ?_, fun r' => ?_⟩
              · rw [LinkView.link_setLink, if_neg fun h => he h.1]
                exact hchange.incident i r'
              · rw [LinkView.link_setLink, if_neg fun h => he h.1]
                exact hchange.report r'

/-! ## Runs -/

namespace RecordRequest

/-- Some caller's request, made of the first database, succeeds and leaves the second. -/
def Succeeds (m : RecordRequest) (db db' : DB) : Prop :=
  ∃ (env : ImsEnv) (s : Service) (caller : Option IMSClaims) (w w' : ImsWorld), w.db = db ∧
    (m.call s caller).run imsDB env w = (.ok (), w') ∧ w'.db = db'

/-- In the event, the request moves no report straight from one incident to another, and changes no
link together with an edit of the report. -/
def MovesNone (e : Int) (db : DB) : RecordRequest → Prop
  | .createReport _ => True
  | .updateReport req => req.eventId = e → ∀ value, req.incident = some value →
      targetIncident value ≠ db.linkOf e req.reportNumber →
      (db.linkOf e req.reportNumber = none ∨ targetIncident value = none) ∧ req.carriesEdit = false
  | .createIncident req => req.eventId = e → ∀ reports, req.incident.bind (·.reports) = some reports →
      ∀ r ∈ reports, db.linkOf e r = none
  | .updateIncident req => req.eventId = e → ∀ reports, req.update.bind (·.reports) = some reports →
      ∀ r ∈ reports, db.linkOf e r = none ∨ db.linkOf e r = some req.incidentNumber

end RecordRequest

/-- The event's timelines tell the truth: a report is linked to an incident exactly if the
incident's last line about it says so, and the report's own last line names its link. -/
def TimelinesTrue (e : Int) (db : DB) : Prop :=
  (∀ i r, db.linkOf e r = some i ↔ said (db.incidentSystemLines e i) r = true) ∧
    ∀ r, told (db.reportSystemLines e r) = db.linkOf e r

theorem timelinesTrue_iff {db : DB} : TimelinesTrue e db ↔ db.linkView.Truthful e := by
  constructor
  · rintro ⟨hincident, hreport⟩
    refine ⟨fun i r => ?_, fun r => ?_⟩
    · rw [DB.linkView, said_filter_isLink]
      exact hincident i r
    · rw [DB.linkView, told_filter_isLink]
      exact hreport r
  · rintro ⟨hincident, hreport⟩
    refine ⟨fun i r => ?_, fun r => ?_⟩
    · rw [← said_filter_isLink]
      exact hincident i r
    · rw [← told_filter_isLink]
      exact hreport r

theorem LinkView.Truthful.updated {db' : DB} (hv : v.Truthful e') {reports : Option (List Int)}
    (h : Updated v e n reports db')
    (hfree : e' = e → ∀ desired, reports = some desired → ∀ r ∈ desired,
      v.link e r = none ∨ v.link e r = some n) :
    db'.EntriesStored ∧ db'.linkView.Truthful e' := by
  obtain ⟨add, sub, hr, hstored, hview⟩ := h
  refine ⟨hstored, ?_⟩
  rw [hview]
  refine hv.update hr fun he r hadd => ?_
  obtain ⟨desired, hdesired, hmem⟩ := hr.requested r hadd
  exact (hfree he desired hdesired r hmem).resolve_right (hr.unlinked r hadd)

/-- One call keeps the timelines true. -/
theorem RecordRequest.Succeeds.truthful {m : RecordRequest} {db db' : DB} (h : m.Succeeds db db')
    (hmoves : m.MovesNone e db) (hstored : db.EntriesStored) (hv : db.linkView.Truthful e) :
    db'.EntriesStored ∧ db'.linkView.Truthful e := by
  obtain ⟨env, s, caller, w, w', rfl, hrun, rfl⟩ := h
  have hstart : w.At .pool (Linked w.db.linkView) := by
    intro db hdb
    rw [← Option.some.inj hdb]
    exact ⟨hstored, rfl⟩
  cases m with
  | createReport req =>
      obtain ⟨r, w₁, hcreate, hret⟩ := Call.run_bind_eq_ok.mp hrun
      cases hret
      obtain ⟨hnone, hstored', hview⟩ :=
        (triple_createReport s caller req).of_run_ok hstart hcreate w'.db rfl
      refine ⟨hstored', ?_⟩
      rw [hview]
      cases (reportWriteToJSON req.report).incident.bind targetIncident with
      | none =>
          show (LinkView.setLink _ _ _ none).Truthful e
          rw [← hnone, LinkView.setLink_self]
          exact hv
      | some i => exact hv.change hnone (Option.some_ne_none i) fun _ => Or.inl rfl
  | updateReport req =>
      obtain ⟨hstored', hview⟩ := (triple_updateReport_at s caller req).of_run_ok hstart hrun w'.db rfl
      refine ⟨hstored', ?_⟩
      rw [hview]
      refine hv.edited fun he => ?_
      subst he
      exact hmoves rfl
  | createIncident req =>
      obtain ⟨i, w₁, hcreate, hret⟩ := Call.run_bind_eq_ok.mp hrun
      cases hret
      refine hv.updated ((triple_createIncident s caller req).of_run_ok hstart hcreate w'.db rfl)
        fun he desired hdesired r hr => Or.inl ?_
      subst he
      exact hmoves rfl desired hdesired r hr
  | updateIncident req =>
      refine hv.updated ((triple_updateIncidentRPC s caller req).of_run_ok hstart hrun w'.db rfl)
        fun he desired hdesired r hr => ?_
      subst he
      exact hmoves rfl desired hdesired r hr

/-- The event has no incidents and no reports yet, and the link tables refer to stored entries. -/
structure EmptyEvent (e : Int) (db : DB) : Prop where
  stored : db.EntriesStored
  report : ∀ r, db.report.contains (e, r) = false
  incidentEntries : ∀ i, db.incidentEntriesOf e i = []
  reportEntries : ∀ r, db.reportEntriesOf e r = []

theorem EmptyEvent.truthful {db : DB} (h : EmptyEvent e db) : db.linkView.Truthful e := by
  have hlink : ∀ r, db.linkOf e r = none := by
    intro r
    rw [DB.linkOf, Table.contains_eq_false_iff.mp (h.report r)]
    rfl
  refine ⟨fun i r => ?_, fun r => ?_⟩
  · show db.linkOf e r = some i ↔ said ((db.incidentSystemLines e i).filter _) r = true
    rw [hlink, DB.incidentSystemLines, h.incidentEntries]
    simp [said]
  · show told ((db.reportSystemLines e r).filter _) = db.linkOf e r
    rw [hlink, DB.reportSystemLines, h.reportEntries]
    rfl

/-- A call that succeeds and moves no report. -/
def LinkStep (e : Int) (db db' : DB) : Prop :=
  ∃ m : RecordRequest, m.Succeeds db db' ∧ m.MovesNone e db

/-- In every run from an empty event whose calls move no report straight from one incident to
another, and change no link together with an edit, the timelines tell the truth in every state
reached. -/
theorem timelinesTrue_of_run {db db' : DB} (hempty : EmptyEvent e db)
    (hrun : Relation.ReflTransGen (LinkStep e) db db') : TimelinesTrue e db' := by
  have hkept : db'.EntriesStored ∧ db'.linkView.Truthful e := by
    induction hrun with
    | refl => exact ⟨hempty.stored, hempty.truthful⟩
    | tail _ hstep ih =>
        obtain ⟨m, hsucceeds, hmoves⟩ := hstep
        exact hsucceeds.truthful hmoves ih.1 ih.2
  exact timelinesTrue_iff.mpr hkept.2

/-- What the writer's call leaves, `nextId` being the first identifier handed out. -/
def RecordRequest.after (m : RecordRequest) (nextId : Int) (db : DB) : DB :=
  ((m.call {} (some ⟨7, "hub", false⟩)).run imsDB stillEnv { db, nextId }).2.db

theorem RecordRequest.succeeds_after {m : RecordRequest} {nextId : Int} {db : DB}
    (h : ((m.call {} (some ⟨7, "hub", false⟩)).run imsDB stillEnv { db, nextId }).1 = .ok ()) :
    m.Succeeds db (m.after nextId db) :=
  ⟨stillEnv, {}, some ⟨7, "hub", false⟩, { db, nextId }, _, rfl, Prod.ext h rfl, rfl⟩

/-- An event without records, and a writer. -/
def openedEventDB : DB :=
  { event := Table.empty.insert 1 { name := "fair" }
    person := Table.empty.insert 7 { handle := some "hub" }
    personEvent := Table.empty.insert (7, 1) { participationType := .writer } }

theorem emptyEvent_openedEventDB : EmptyEvent 1 openedEventDB :=
  ⟨⟨fun _ h => (Bool.false_ne_true h).elim, fun _ h => (Bool.false_ne_true h).elim⟩,
    fun _ => rfl, fun _ => rfl, fun _ => rfl⟩

/-- Two incidents, the first with a report. -/
def attachedReportDB : DB :=
  (RecordRequest.createReport ⟨1, some { incident := some 1 }⟩).after 300
    ((RecordRequest.createIncident ⟨1, none⟩).after 200
      ((RecordRequest.createIncident ⟨1, none⟩).after 100 openedEventDB))

theorem timelinesTrue_of_run_attached : TimelinesTrue 1 attachedReportDB := by
  refine timelinesTrue_of_run emptyEvent_openedEventDB ?_
  refine Relation.ReflTransGen.tail (Relation.ReflTransGen.tail (Relation.ReflTransGen.single
    ⟨.createIncident ⟨1, none⟩, RecordRequest.succeeds_after (by decide), ?_⟩)
    ⟨.createIncident ⟨1, none⟩, RecordRequest.succeeds_after (by decide), ?_⟩)
    ⟨.createReport ⟨1, some { incident := some 1 }⟩,
      RecordRequest.succeeds_after (by decide), trivial⟩
  · exact fun _ _ h => nomatch h
  · exact fun _ _ h => nomatch h

/-- Moving the report to the second incident leaves the first one claiming it. -/
theorem updateReport_leaves_line_behind :
    ¬ ∀ (e : Int) (db db' : DB), EmptyEvent e db →
      Relation.ReflTransGen (fun db db' => ∃ m : RecordRequest, m.Succeeds db db') db db' →
        TimelinesTrue e db' := by
  intro h
  have htrue := h 1 openedEventDB
    ((RecordRequest.updateReport ⟨1, 1, some { incident := some 2 }⟩).after 400 attachedReportDB)
    emptyEvent_openedEventDB ?_
  · exact absurd ((htrue.1 1 1).mpr (by decide)) (by decide)
  refine Relation.ReflTransGen.tail (Relation.ReflTransGen.tail (Relation.ReflTransGen.tail
    (Relation.ReflTransGen.single
    ⟨.createIncident ⟨1, none⟩, RecordRequest.succeeds_after (by decide)⟩)
    ⟨.createIncident ⟨1, none⟩, RecordRequest.succeeds_after (by decide)⟩)
    ⟨.createReport ⟨1, some { incident := some 1 }⟩,
      RecordRequest.succeeds_after (by decide)⟩)
    ⟨.updateReport ⟨1, 1, some { incident := some 2 }⟩,
      RecordRequest.succeeds_after (by decide)⟩

end OcfIms
