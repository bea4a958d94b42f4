import OcfIms.ListReconcile

/-!
# When an update is accepted

With nothing failing from outside, `updateIncident` returns exactly if its scalars pass their own
checks and its lists can be reconciled; then the incident is as the update wants it. The checks on
the scalars do not look at the lists, so a list costs the update its success only by what
`ListsOk` says: it names a record that is not there, or a type or an incident to be attached twice.
-/

namespace OcfIms

open TxnLib

/-! ## The scalars -/

section Scalars

/-- Privacy is changed by an admin or the creator. -/
def PrivacyOk (inc : IncidentJSON) (stored : Incident) (author : Int) (admin : Bool) : Prop :=
  inc.isPrivate.isSome = true → admin = true ∨ stored.createdBy = some author

/-- A new outcome exists. -/
def OutcomeOk (db : DB) (inc : IncidentJSON) (stored : Incident) : Prop :=
  ∀ id, inc.outcomeID = some id → id ≠ 0 → stored.outcomeID ≠ some id →
    db.outcome.contains id = true

/-- A new area is one of the event's. -/
def AreaOk (db : DB) (inc : IncidentJSON) (stored : Incident) : Prop :=
  ∀ slug, inc.location.areaSlug = some slug → trimSpace slug ≠ "" →
    stored.locationAreaSlug ≠ some (trimSpace slug) →
    db.area.contains (inc.eventID, trimSpace slug) = true

/-- The booth, cut to its column, is text. -/
def BoothOk (inc : IncidentJSON) : Prop :=
  inc.location.booth.isSome = true →
    ∃ booth : Option String, stringToSql inc.location.booth 32 = booth.map .text

structure ScalarsOk (db : DB) (inc : IncidentJSON) (stored : Incident) (author : Int)
    (admin : Bool) : Prop where
  privacy : PrivacyOk inc stored author admin
  outcome : OutcomeOk db inc stored
  area : AreaOk db inc stored
  booth : BoothOk inc

variable {env : ImsEnv} {db : DB} {inc : IncidentJSON} {stored : Incident} {author : Int}
  {admin : Bool} {R : DB → Int → Prop}

theorem settles_select {α η : Type} {q : Read α} {err : SqlErr → η} (hq : env.Quiet) :
    Call.Settles imsDB env (Call.InTxn db R) (select .pool q err) (∃ a, q.eval db = .ok a)
      fun a w => q.eval db = .ok a ∧ Call.InTxn db R w :=
  Call.Settles.mapErr (Call.settles_read_inTxn hq)

theorem settles_editPrivacy {ed : Edit} :
    Call.Settles imsDB env (Call.InTxn db R) (editPrivacy inc stored author admin ed)
      (PrivacyOk inc stored author admin) fun _ => Call.InTxn db R := by
  unfold editPrivacy PrivacyOk
  cases inc.isPrivate with
  | none =>
      exact Call.Settles.of_holds (fun h => absurd h Bool.false_ne_true)
        (Call.settles_pure fun _ h => h)
  | some p =>
      refine Call.settles_ite (fun hc => Call.settles_throw fun h => ?_) fun hc => ?_
      · have hallowed := h rfl
        simp only [Bool.and_eq_true, Bool.not_eq_true', beq_eq_false_iff_ne] at hc
        rcases hallowed with hadmin | hcreator
        · rw [hadmin] at hc
          exact Bool.false_ne_true hc.1.symm
        · exact hc.2 hcreator
      · refine Call.Settles.of_holds (fun _ => ?_) (Call.settles_ite
          (fun _ => Call.settles_pure fun _ h => h) fun _ => Call.settles_pure fun _ h => h)
        cases admin with
        | true => exact Or.inl rfl
        | false => exact Or.inr (by simpa using hc)

theorem settles_editState {ed : Edit} :
    Call.Settles imsDB env (Call.InTxn db R) (editState inc stored ed) True
      fun _ => Call.InTxn db R := by
  unfold editState
  cases inc.state with
  | none => exact Call.settles_pure fun _ h => h
  | some newState =>
      refine Call.settles_ite (fun _ => Call.settles_pure fun _ h => h) fun _ => ?_
      refine Call.settles_ite (fun _ => ?_) fun _ => Call.settles_pure fun _ h => h
      exact Call.settles_ask_inTxn.bind_sure fun _ => Call.settles_pure fun _ h => h

theorem settles_editOutcome {ed : Edit} {allOutcomes : List (Int × String)}
    (hall : (inc.outcomeID.any (· ≠ 0)) = true → allOutcomes = db.outcome.rows) :
    Call.Settles imsDB env (Call.InTxn db R) (editOutcome inc stored allOutcomes ed)
      (OutcomeOk db inc stored) fun _ => Call.InTxn db R := by
  unfold editOutcome OutcomeOk
  cases hid : inc.outcomeID with
  | none =>
      exact Call.Settles.of_holds (fun _ h => nomatch h)
        (Call.settles_pure fun _ h => h)
  | some id =>
      refine Call.settles_ite (fun hzero => ?_) fun hzero => ?_
      · refine Call.Settles.of_holds (fun id' h hne => ?_) (Call.settles_ite
          (fun _ => Call.settles_pure fun _ h => h) fun _ => Call.settles_pure fun _ h => h)
        exact absurd (hzero.symm.trans (Option.some.inj h)).symm hne
      refine Call.settles_ite (fun hsame => ?_) fun hnew => ?_
      · refine Call.Settles.of_holds (fun id' h _ hne => ?_)
          (Call.settles_pure fun _ h => h)
        exact absurd (hsame.trans h) hne
      · have hrows : allOutcomes = db.outcome.rows := hall (by simp [hid, hzero])
        have hlookup : allOutcomes.lookup id = db.outcome.find? id := by
          simpa [hrows] using db.outcome.lookup_map_rows (fun name => name) id
        rw [hlookup]
        cases hfind : db.outcome.find? id with
        | none =>
            refine Call.settles_throw fun h => ?_
            have hin := h id rfl hzero hnew
            rw [Table.contains_eq_false_iff.mpr hfind] at hin
            exact Bool.false_ne_true hin
        | some name =>
            refine Call.Settles.of_holds (fun id' h _ _ => ?_)
              (Call.settles_pure fun _ h => h)
            cases h
            exact Table.contains_iff.mpr ⟨name, hfind⟩

theorem settles_editArea {ed : Edit} (hq : env.Quiet) :
    Call.Settles imsDB env (Call.InTxn db R) (editArea inc stored inc.eventID ed)
      (AreaOk db inc stored) fun _ => Call.InTxn db R := by
  unfold editArea AreaOk
  cases inc.location.areaSlug with
  | none =>
      exact Call.Settles.of_holds (fun _ h => nomatch h)
        (Call.settles_pure fun _ h => h)
  | some slug =>
      refine Call.settles_ite (fun hempty => ?_) fun hslug => ?_
      · refine Call.Settles.of_holds (fun slug' h hne => ?_) (Call.settles_ite
          (fun _ => Call.settles_pure fun _ h => h) fun _ => Call.settles_pure fun _ h => h)
        cases h
        exact absurd hempty hne
      refine Call.settles_ite (fun hsame => ?_) fun hnew => ?_
      · refine Call.Settles.of_holds (fun slug' h _ hne => ?_)
          (Call.settles_pure fun _ h => h)
        cases h
        exact absurd hsame hne
      · refine Call.Settles.conseq ((settles_select hq).bind_pure fun _ _ h => h.2) (fun _ h => h) ?_
          fun _ _ _ h => h
        have hexists : (∃ u, Read.eval (.area inc.eventID (trimSpace slug)) db = .ok u) ↔
            db.area.contains (inc.eventID, trimSpace slug) = true := by
          simp only [Read.eval, DB.one_eq_ok, Option.map_eq_some_iff, Table.contains_iff]
          simp
        refine hexists.trans ⟨fun h slug' hs _ _ => ?_, fun h => h slug rfl hslug hnew⟩
        cases hs
        exact h

end Scalars

/-! ## Loading, and the row -/

section Row

variable {env : ImsEnv} {db : DB} {inc : IncidentJSON} {i : Incident} {author : Int} {admin : Bool}

/-- What an update of the stored incident `i` works with. -/
def loadedFrom (db : DB) (inc : IncidentJSON) (i : Incident) : LoadedIncident where
  row := db.incidentRow inc.eventID inc.number i
  events := db.event.rows.map fun r => ⟨r.1, r.2⟩
  allIncidentTypes := if inc.incidentTypeIDs.isSome then db.incidentType.rows else []
  allOutcomes := if inc.outcomeID.any (· ≠ 0) then db.outcome.rows else []
  linkedIncidents := (db.linksOf inc.eventID inc.number).filterMap fun l =>
    db.linkedIncidentRow l.1 l.2

theorem answers_loadIncident (hq : env.Quiet)
    (hi : db.incident.find? (inc.eventID, inc.number) = some i) :
    (loadIncident inc).Answers imsDB env db (.ok (loadedFrom db inc i)) := by
  have htypes : (loadIncidentTypes inc).Answers imsDB env db
      (.ok (loadedFrom db inc i).allIncidentTypes) := by
    unfold loadIncidentTypes loadedFrom
    cases inc.incidentTypeIDs with
    | none => exact Call.answers_pure _
    | some l => exact answers_select hq _ _
  have houtcomes : (loadOutcomes inc).Answers imsDB env db
      (.ok (loadedFrom db inc i).allOutcomes) := by
    unfold loadOutcomes loadedFrom
    cases inc.outcomeID.any (· ≠ 0) with
    | false => exact Call.answers_pure _
    | true => exact answers_select hq _ _
  have hrow : (select .pool (.incident inc.eventID inc.number)
      (HTTPError.internalServerError "Failed to fetch incident")).Answers imsDB env db
        (.ok (db.incidentRow inc.eventID inc.number i)) := by
    have hread : .ok (db.incidentRow inc.eventID inc.number i) =
        ((Read.incident inc.eventID inc.number).eval db).mapError
          (HTTPError.internalServerError "Failed to fetch incident") := by
      rw [Read.eval, hi]
      rfl
    exact hread ▸ answers_select hq _ _
  refine Call.Answers.bind hrow ?_
  refine Call.Answers.bind (answers_select hq .events _) ?_
  refine Call.Answers.bind htypes (Call.Answers.bind houtcomes ?_)
  exact Call.Answers.bind (answers_select hq (.incidentLinkedIncidents _ _) _) (Call.answers_pure _)

/-- Without its checks on the row's foreign keys, which the row has passed or the edits made. -/
theorem settles_scalarEdits (s : Service) {R : DB → Int → Prop} (hq : env.Quiet) :
    Call.Settles imsDB env (Call.InTxn db R)
      (scalarEdits s inc (loadedFrom db inc i) author admin)
      (PrivacyOk inc i author admin ∧ OutcomeOk db inc i ∧ AreaOk db inc i)
      fun ed w => Applied inc i ScalarField.edited ed.update ∧ Call.InTxn db R w := by
  have hedits : Call.Settles imsDB env (Call.InTxn db R)
      (scalarEdits s inc (loadedFrom db inc i) author admin)
      (PrivacyOk inc i author admin ∧ OutcomeOk db inc i ∧ AreaOk db inc i)
      fun _ => Call.InTxn db R := by
    refine settles_editPrivacy.bind fun ed _ => settles_editState.bind_sure fun ed =>
      (settles_editOutcome fun hall => ?_).bind fun ed _ => settles_editArea hq
    show (if inc.outcomeID.any (· ≠ 0) then db.outcome.rows else []) = _
    rw [if_pos hall]
  exact hedits.and_every (every_scalarEdits_applied s inc (loadedFrom db inc i) author admin)

/-- The columns of the row to be written refer to what is stored. -/
theorem references_of_applied {p : UpdateIncidentParams}
    (h : Applied inc i ScalarField.edited p) (hout : OutcomeOk db inc i) (harea : AreaOk db inc i)
    (hstored : DB.nullOr db.outcome i.outcomeID = true ∧
      DB.nullOr db.area (i.locationAreaSlug.map (inc.eventID, ·)) = true) :
    DB.nullOr db.outcome p.outcomeID = true ∧
      DB.nullOr db.area (p.locationAreaSlug.map (inc.eventID, ·)) = true := by
  constructor
  · cases hid : inc.outcomeID with
    | none =>
        have hkept := ScalarValue.outcome.inj (h.kept .outcome (Or.inr (by simp [ScalarField.setBy, hid])))
        exact (congrArg (DB.nullOr db.outcome) hkept).symm.trans hstored.1
    | some id =>
        have hset : some (outcomeToSql id) = some p.outcomeID := by
          have := h.set .outcome (ScalarField.mem_edited _) (by simp [ScalarField.setBy, hid])
          rwa [ScalarField.AsWanted, hid] at this
        rw [← Option.some.inj hset, outcomeToSql]
        split
        · rfl
        · by_cases hsame : i.outcomeID = some id
          · exact hsame ▸ hstored.1
          · exact hout id hid ‹_› hsame
  · cases hslug : inc.location.areaSlug with
    | none =>
        have hkept := ScalarValue.text.inj (h.kept .areaSlug (Or.inr (by simp [ScalarField.setBy, hslug])))
        have hsame : i.locationAreaSlug = p.locationAreaSlug := hkept
        rw [← hsame]
        exact hstored.2
    | some slug =>
        have hset : some (slugToSql slug) = some p.locationAreaSlug := by
          have := h.set .areaSlug (ScalarField.mem_edited _) (by simp [ScalarField.setBy, hslug])
          rwa [ScalarField.AsWanted, hslug] at this
        rw [← Option.some.inj hset, slugToSql]
        split
        · rfl
        · by_cases hsame : i.locationAreaSlug = some (trimSpace slug)
          · rw [hsame] at hstored
            exact hstored.2
          · exact harea slug hslug ‹_› hsame

/-- The booth to be written is text exactly if the submitted one is. -/
theorem boothOk_iff {p : UpdateIncidentParams} (h : Applied inc i ScalarField.edited p) :
    BoothOk inc ↔ ∃ booth : Option String, p.locationBooth = booth.map .text := by
  unfold BoothOk
  cases hbooth : inc.location.booth with
  | none =>
      have hkept := ScalarValue.booth.inj (h.kept .booth (Or.inr (by simp [ScalarField.setBy, hbooth])))
      exact ⟨fun _ => ⟨i.locationBooth, hkept.symm⟩, fun _ h => absurd h Bool.false_ne_true⟩
  | some b =>
      have hset := h.set .booth (ScalarField.mem_edited _) (by simp [ScalarField.setBy, hbooth])
      rw [ScalarField.AsWanted, hbooth] at hset
      rw [hset]
      exact ⟨fun h => h rfl, fun h _ => h⟩

theorem settles_updateRow {p : UpdateIncidentParams} {err : SqlErr → HTTPError} (hq : env.Quiet)
    (hi : db.incident.find? (inc.eventID, inc.number) = some i)
    (happlied : Applied inc i ScalarField.edited p)
    (href : DB.nullOr db.outcome p.outcomeID = true ∧
      DB.nullOr db.area (p.locationAreaSlug.map (inc.eventID, ·)) = true) :
    Call.Settles imsDB env (Call.InTxn db fun T id => T = db ∧ T.Orderly id)
      (exec .txn (.updateIncident inc.eventID inc.number p) err) (BoothOk inc)
      fun _ w => ∃ booth, p.locationBooth = booth.map .text ∧
        Call.InTxn db (Viewed db inc.eventID inc.number
          { db.listView inc.eventID inc.number with row := some (DB.updatedIncident p booth i) }) w := by
  by_cases hbooth : ∃ booth : Option String, p.locationBooth = booth.map .text
  · obtain ⟨booth, hbooth⟩ := hbooth
    refine Call.Settles.of_holds ((boothOk_iff happlied).mpr ⟨booth, hbooth⟩)
      (Call.Settles.conseq (settles_exec (K := fun _ => Viewed db inc.eventID inc.number
        { db.listView inc.eventID inc.number with row := some (DB.updatedIncident p booth i) }) hq
        fun T id ⟨hT, horderly⟩ => ⟨fun _ => ?_, fun _ _ _ => trivial⟩) (fun _ h => h) Iff.rfl
        fun _ w _ h => ⟨booth, hbooth, h⟩)
    subst hT
    refine ⟨(),
      { T with
        incident := T.incident.modify (inc.eventID, inc.number) fun _ => DB.updatedIncident p booth i },
      ?_, ?_, ⟨rfl, rfl, rfl, fun k => ?_, fun _ => rfl, fun _ => rfl⟩,
      horderly.of_tables rfl rfl rfl rfl rfl rfl⟩
    · have htext : ∀ k : Option String → Except SqlErr (Unit × DB),
          DB.textColumn p.locationBooth k = k booth := by
        intro k
        rw [hbooth]
        cases booth <;> rfl
      simp only [Write.apply, hi, htext, DB.references, href.1, href.2, if_true]
    · have hrow : (T.incident.modify (inc.eventID, inc.number)
          fun _ => DB.updatedIncident p booth i).find? (inc.eventID, inc.number) =
            some (DB.updatedIncident p booth i) := by
        rw [Table.find?_modify, if_pos rfl, hi]
        rfl
      exact congrArg (fun r => ({ T.listView inc.eventID inc.number with row := r } : ListView)) hrow
    · exact Table.contains_modify ..
  · refine Call.Settles.conseq (settles_exec (p := False) (K := fun _ _ _ => True) hq
      fun T id ⟨hT, _⟩ => ⟨False.elim, fun _ _ happly => hbooth ?_⟩) (fun _ h => h)
      ⟨False.elim, fun h => hbooth ((boothOk_iff happlied).mp h)⟩ fun _ _ h _ => h.elim
    subst hT
    simp only [Write.apply, hi, DB.textColumn_eq_ok] at happly
    obtain ⟨booth, hb, -⟩ := happly
    exact ⟨booth, hb⟩

end Row

/-! ## The whole update -/

/-- What the schema and the server keep: references name stored rows, links are stored from both
sides, and identifiers from `id` on are free. -/
structure DB.Consistent (db : DB) (id : Int) : Prop where
  links : LinksSound db
  pair : ∀ k, db.incidentLinkedIncident.contains k = true →
    db.incident.contains k.1 = true ∧ db.incident.contains k.2 = true
  event : ∀ k, db.incident.contains k = true → db.event.contains k.1 = true
  references : ∀ k i, db.incident.find? k = some i → DB.nullOr db.outcome i.outcomeID = true ∧
    DB.nullOr db.area (i.locationAreaSlug.map (k.1, ·)) = true
  orderly : db.Orderly id

section Update

variable {env : ImsEnv} {db : DB} {inc : IncidentJSON} {i : Incident} {author : Int} {admin : Bool}

theorem links_loadedFrom {id : Int} (inc : IncidentJSON) (i : Incident) (hcons : db.Consistent id) :
    (loadedFrom db inc i).links = db.linksOf inc.eventID inc.number := by
  show ((db.linksOf inc.eventID inc.number).filterMap fun l =>
    db.linkedIncidentRow l.1 l.2).map _ = _
  rw [List.map_filterMap]
  refine (List.filterMap_congr (g := some) fun o ho => ?_).trans (List.filterMap_some ..)
  have hlinked := (hcons.pair _ (DB.mem_linksOf.mp ho)).2
  obtain ⟨j, hj⟩ := Table.contains_iff.mp hlinked
  obtain ⟨ev, hev⟩ := Table.contains_iff.mp (hcons.event _ hlinked)
  simp only [DB.linkedIncidentRow, hev, hj]
  rfl

theorem loadedAs_loadedFrom {id : Int} (i : Incident) (row : Option Incident) (hcons : db.Consistent id) :
    LoadedAs inc (loadedFrom db inc i)
      { db.listView inc.eventID inc.number with row := row } := by
  refine ⟨?_, ?_, ?_, ?_, ?_, ?_⟩
  · ext t
    exact DB.mem_typesOf.symm
  · ext r
    exact DB.mem_reportsOf.symm
  · ext a
    exact DB.mem_visitsOf.symm
  · rw [links_loadedFrom inc i hcons]
    ext o
    exact DB.mem_linksOf.symm
  · ext o
    exact ⟨hcons.links.symm _ _, hcons.links.symm _ _⟩
  · rw [links_loadedFrom inc i hcons]
    exact fun h => hcons.links.irrefl _ (DB.mem_linksOf.mp h)

/-- What an accepted update leaves: a row with the columns its edits chose, the lists it wants, and
the entry with what it logs. `Q` is whatever the edits are known to do. -/
def UpdateLeaves (db : DB) (inc : IncidentJSON) (i : Incident) (Q : Edit → Prop) (T : DB) (id : Int) :
    Prop :=
  ∃ ed booth, Q ed ∧ ed.update.locationBooth = booth.map .text ∧
    Reconciled db inc (loadedFrom db inc i)
      { db.listView inc.eventID inc.number with row := some (DB.updatedIncident ed.update booth i) }
      ed.logs T id

theorem settles_updateIncidentTxn (s : Service) {id : Int} {Q : Edit → Prop} (hq : env.Quiet)
    (hup : inc.journalEntries ≠ [] → DirectoryUp env) (hcons : db.Consistent id)
    (hi : db.incident.find? (inc.eventID, inc.number) = some i)
    (hauthor : db.person.contains author = true)
    (hQ : (scalarEdits s inc (loadedFrom db inc i) author admin).Every anyAnswer
      (writesIn Call.noWrite) (fun _ => True) Q) :
    Call.Settles imsDB env (Call.InTxn db fun T id => T = db ∧ T.Orderly id)
      (updateIncidentTxn s inc (loadedFrom db inc i) author admin)
      (ScalarsOk db inc i author admin ∧ ListsOk db inc (loadedFrom db inc i) author)
      fun _ w => UpdateLeaves db inc i Q w.db w.nextId := by
  have hstored : db.incident.contains (inc.eventID, inc.number) = true :=
    Table.contains_iff.mpr ⟨i, hi⟩
  refine Call.Settles.conseq (Call.Settles.bind (q := BoothOk inc ∧
    ListsOk db inc (loadedFrom db inc i) author) ((settles_scalarEdits s hq).and_every hQ)
    fun ed hok => Call.Settles.of_fact (fun _ h => h.1) fun hQed =>
      Call.Settles.of_fact (fun _ h => h.2.1) fun happlied => ?_) (fun _ h => h) ?_ fun _ _ _ h => h
  · have href := references_of_applied happlied hok.2.1 hok.2.2 (hcons.references _ i hi)
    refine Call.Settles.conseq ((settles_updateRow hq hi happlied href).bind fun _ _ =>
      Call.settles_exists fun booth => Call.Settles.of_fact (fun _ h => h.1) fun hbooth => ?_)
      (fun _ h => h.2.2) Iff.rfl fun _ _ _ h => h
    have hlists := settles_reconcileAll s author ed.logs hq hup
      (hcons.event _ hstored) hstored hauthor
      (loadedAs_loadedFrom i (some (DB.updatedIncident ed.update booth i)) hcons)
    refine Call.Settles.conseq (Call.Settles.bind (q := True) hlists fun touched _ => ?_)
      (fun _ h => h.2) ⟨fun h => h.1, fun h => ⟨h, trivial⟩⟩ fun _ _ _ h => h
    refine (Call.Settles.mapErr (Call.settles_commit hq (K := fun _ w =>
      UpdateLeaves db inc i Q w.db w.nextId) fun w hw => ?_)).bind_pure fun _ _ h => h
    obtain ⟨-, T, hT, hrec⟩ := hw
    exact ⟨T, hT, ed, booth, hQed, hbooth, hrec⟩
  · exact ⟨fun h => ⟨⟨h.1.1, h.1.2.1, h.1.2.2, h.2.1⟩, h.2.2⟩,
      fun h => ⟨⟨h.1.privacy, h.1.outcome, h.1.area⟩, h.1.booth, h.2⟩⟩

/-- **When an update is accepted**, and what it leaves. -/
theorem settles_updateIncident (s : Service) (inc : IncidentJSON) (admin : Bool) {id : Int}
    {Q : Edit → Prop} (hq : env.Quiet) (hup : inc.journalEntries ≠ [] → DirectoryUp env)
    (hcons : db.Consistent id)
    (hi : db.incident.find? (inc.eventID, inc.number) = some i)
    (hauthor : db.person.contains author = true)
    (hQ : (scalarEdits s inc (loadedFrom db inc i) author admin).Every anyAnswer
      (writesIn Call.noWrite) (fun _ => True) Q) :
    Call.Settles imsDB env (fun w => w.db = db ∧ w.nextId = id) (updateIncident s inc author admin)
      (ScalarsOk db inc i author admin ∧ ListsOk db inc (loadedFrom db inc i) author)
      fun _ w => UpdateLeaves db inc i Q w.db w.nextId := by
  refine Call.Settles.bind_sure (Call.Answers.settles (R := (· = id)) (answers_loadIncident hq hi))
    fun st => ?_
  refine Call.Settles.of_fact (fun _ h => h.1) fun hst => ?_
  subst hst
  refine Call.Settles.bind_sure (Call.Settles.mapErr (Call.settles_begin hq
    (K := fun _ => Call.InTxn db fun T id => T = db ∧ T.Orderly id) fun w hw => ?_)) fun _ => ?_
  · obtain ⟨-, hw, hid⟩ := hw
    exact ⟨hw, w.db, rfl, hw, by rw [hw, World.tock_nextId, hid]; exact hcons.orderly⟩
  · refine Call.Settles.deferRollback (Call.Settles.conseq (Call.Settles.bind (q := True)
      (settles_updateIncidentTxn s hq hup hcons hi hauthor hQ) fun touched _ =>
        Call.settles_unfailing (every_announceUpdate inc _ author touched)) (fun _ h => h)
      ⟨fun h => h.1, fun h => ⟨h, trivial⟩⟩ fun _ _ _ h => h)

end Update

/-! ## Lists of stored records -/

/-- The update calls and returns. -/
def Accepts (env : ImsEnv) (s : Service) (inc : IncidentJSON) (author : Int) (admin : Bool)
    (w : ImsWorld) : Prop :=
  ∃ w', (updateIncident s inc author admin).run imsDB env w = (.ok (), w')

/-- The same update, every list absent. -/
def IncidentJSON.withoutLists (inc : IncidentJSON) : IncidentJSON :=
  { inc with incidentTypeIDs := none, reports := none, visits := none, linkedIncidents := none }

/-- Every list names stored records, and the links other incidents than this one. -/
structure NamesStored (db : DB) (inc : IncidentJSON) : Prop where
  types : ∀ l, inc.incidentTypeIDs = some l → ∀ t ∈ l, db.incidentType.contains t = true
  reports : ∀ l, inc.reports = some l → ∀ r ∈ l, db.HasReport inc.eventID r
  visits : ∀ l, inc.visits = some l → ∀ a ∈ l, db.HasVisit inc.eventID a
  links : ∀ l, inc.linkTargets = some l →
    ∀ o ∈ l, db.incident.contains o = true ∧ o ≠ (inc.eventID, inc.number)

/-- No type and no incident that is still to be attached is named twice. -/
def NamedOnce (db : DB) (inc : IncidentJSON) : Prop :=
  (∀ l, inc.incidentTypeIDs = some l →
    (sliceSubtract l (db.typesOf inc.eventID inc.number)).Nodup) ∧
  ∀ l, inc.linkTargets = some l → (sliceSubtract l (db.linksOf inc.eventID inc.number)).Nodup

/-- A list that is present names what is attached now; one that is absent, what was before. -/
def SetTo {γ : Type} (desired : Option (List γ)) (before after : List γ) : Prop :=
  ∀ a, a ∈ after ↔ a ∈ desired.getD before

structure ListsSet (inc : IncidentJSON) (db db' : DB) : Prop where
  types : SetTo inc.incidentTypeIDs (db.typesOf inc.eventID inc.number)
    (db'.typesOf inc.eventID inc.number)
  reports : SetTo inc.reports (db.reportsOf inc.eventID inc.number)
    (db'.reportsOf inc.eventID inc.number)
  visits : SetTo inc.visits (db.visitsOf inc.eventID inc.number)
    (db'.visitsOf inc.eventID inc.number)
  links : SetTo inc.linkTargets (db.linksOf inc.eventID inc.number)
    (db'.linksOf inc.eventID inc.number)

section Lists

variable {env : ImsEnv} {db : DB} {inc : IncidentJSON} {i : Incident} {author : Int} {admin : Bool}

theorem wanted_getD {γ : Type} {has : γ → Prop} {desired : Option (List γ)} {before : List γ}
    (h : ∀ l, desired = some l → ∀ a ∈ l, has a) (a : γ) :
    a ∈ wanted has desired {a | a ∈ before} ↔ a ∈ desired.getD before := by
  cases desired with
  | none => exact Iff.rfl
  | some l => exact ⟨fun ha => ha.1, fun ha => ⟨ha, Or.inr (h l rfl a ha)⟩⟩

/-- Where every list names stored records, only a name given twice is refused. -/
theorem listsOk_iff {id : Int} (hcons : db.Consistent id)
    (hauthor : db.person.contains author = true) (hnames : NamesStored db inc) :
    ListsOk db inc (loadedFrom db inc i) author ↔ NamedOnce db inc := by
  have hlinks := links_loadedFrom inc i hcons
  constructor
  · rintro ⟨htypes, -, hlinked⟩
    refine ⟨fun l hl => htypes.nodup trivial l hl, fun l hl => ?_⟩
    have hnodup := hlinked.nodup trivial l hl
    rwa [hlinks] at hnodup
  · rintro ⟨htypes, hlinked⟩
    refine ⟨⟨fun _ => htypes, fun l hl t ht => ?_, fun _ _ _ _ => trivial⟩,
      ⟨fun h => h.elim, fun l hl r hr => ⟨hauthor, ?_⟩, fun l hl r hr => ⟨hauthor, ?_⟩⟩,
      ⟨fun _ l hl => ?_, fun l hl o ho => ⟨hauthor, ?_⟩, fun l hl o ho => ⟨hauthor, ?_⟩⟩⟩
    · exact hnames.types l hl t (mem_sliceSubtract.mp ht).1
    · exact hnames.reports l hl r (mem_sliceSubtract.mp hr).1
    · obtain ⟨row, hrow, -⟩ := Option.bind_eq_some_iff.mp (DB.mem_reportsOf.mp (mem_sliceSubtract.mp hr).1)
      exact Table.contains_iff.mpr ⟨row, hrow⟩
    · rw [hlinks]
      exact hlinked l hl
    · exact hnames.links l hl o (mem_sliceSubtract.mp ho).1
    · rw [hlinks] at ho
      exact (hcons.pair _ (DB.mem_linksOf.mp (mem_sliceSubtract.mp ho).1)).2

/-- The lists an accepted update leaves. -/
theorem UpdateLeaves.listsSet {Q : Edit → Prop} {T : DB} {id : Int}
    (h : UpdateLeaves db inc i Q T id) (hnames : NamesStored db inc) : ListsSet inc db T := by
  obtain ⟨ed, booth, -, -, journal, logs, hviewed, -⟩ := h
  have hview := hviewed.view
  have htypes : {t | T.incidentIncidentType.contains (inc.eventID, inc.number, t) = true} =
      wanted (fun _ => True) inc.incidentTypeIDs
        {t | db.incidentIncidentType.contains (inc.eventID, inc.number, t) = true} :=
    congrArg ListView.types hview
  have hreports : {r | T.linkOf inc.eventID r = some inc.number} =
      wanted (db.HasReport inc.eventID) inc.reports {r | db.linkOf inc.eventID r = some inc.number} :=
    congrArg ListView.reports hview
  have hvisits : {a | T.visitLink inc.eventID a = some inc.number} =
      wanted (db.HasVisit inc.eventID) inc.visits {a | db.visitLink inc.eventID a = some inc.number} :=
    congrArg ListView.visits hview
  have hlinks : {o | T.incidentLinkedIncident.contains ((inc.eventID, inc.number), o) = true} =
      wanted (fun _ => True) inc.linkTargets
        {o | db.incidentLinkedIncident.contains ((inc.eventID, inc.number), o) = true} :=
    congrArg ListView.links hview
  simp only [← DB.mem_typesOf] at htypes
  simp only [← DB.mem_reportsOf] at hreports
  simp only [← DB.mem_visitsOf] at hvisits
  simp only [← DB.mem_linksOf] at hlinks
  refine ⟨fun t => ?_, fun r => ?_, fun a => ?_, fun o => ?_⟩
  · exact (Set.ext_iff.mp htypes t).trans (wanted_getD (fun _ _ _ _ => trivial) t)
  · exact (Set.ext_iff.mp hreports r).trans (wanted_getD hnames.reports r)
  · exact (Set.ext_iff.mp hvisits a).trans (wanted_getD hnames.visits a)
  · exact (Set.ext_iff.mp hlinks o).trans (wanted_getD (fun _ _ _ _ => trivial) o)

/-- **Lists of stored records**: they cost the update its success only where a type or an incident
still to be attached is named twice; and an accepted update leaves exactly what they name. -/
theorem updateIncident_sets_lists (env : ImsEnv) (s : Service) (w : ImsWorld) (inc : IncidentJSON)
    (author : Int) (admin : Bool) (hq : env.Quiet) (hup : DirectoryUp env)
    (hcons : w.db.Consistent w.nextId)
    (hi : w.db.incident.contains (inc.eventID, inc.number) = true)
    (hauthor : w.db.person.contains author = true) (hnames : NamesStored w.db inc) :
    (Accepts env s inc author admin w ↔
      Accepts env s inc.withoutLists author admin w ∧ NamedOnce w.db inc) ∧
    ∀ w', (updateIncident s inc author admin).run imsDB env w = (.ok (), w') →
      ListsSet inc w.db w'.db := by
  obtain ⟨i, hi⟩ := Table.contains_iff.mp hi
  have hset := settles_updateIncident s inc admin hq (fun _ => hup) hcons hi hauthor
    (every_scalarEdits_applied s inc _ author admin)
  have hplain := settles_updateIncident s inc.withoutLists admin hq (fun _ => hup) hcons hi hauthor
    (every_scalarEdits_applied s inc.withoutLists _ author admin)
  have hnone : NamesStored w.db inc.withoutLists :=
    ⟨fun _ h => (nomatch h), fun _ h => (nomatch h), fun _ h => (nomatch h), fun _ h => (nomatch h)⟩
  have honce : NamedOnce w.db inc.withoutLists := ⟨fun _ h => (nomatch h), fun _ h => (nomatch h)⟩
  refine ⟨?_, fun w' hrun => ((hset.of_run ⟨rfl, rfl⟩ hrun).2).listsSet hnames⟩
  have hiff : Accepts env s inc author admin w ↔
      ScalarsOk w.db inc i author admin ∧ ListsOk w.db inc (loadedFrom w.db inc i) author := by
    rw [← hset.iff ⟨rfl, rfl⟩]
    exact ⟨fun ⟨w', h⟩ => ⟨(), w', h⟩, fun ⟨_, w', h⟩ => ⟨w', h⟩⟩
  have hiff' : Accepts env s inc.withoutLists author admin w ↔
      ScalarsOk w.db inc.withoutLists i author admin ∧
        ListsOk w.db inc.withoutLists (loadedFrom w.db inc.withoutLists i) author := by
    rw [← hplain.iff ⟨rfl, rfl⟩]
    exact ⟨fun ⟨w', h⟩ => ⟨(), w', h⟩, fun ⟨_, w', h⟩ => ⟨w', h⟩⟩
  have hscalars : ScalarsOk w.db inc.withoutLists i author admin ↔ ScalarsOk w.db inc i author admin :=
    ⟨fun h => ⟨h.1, h.2, h.3, h.4⟩, fun h => ⟨h.1, h.2, h.3, h.4⟩⟩
  rw [hiff, hiff', hscalars, listsOk_iff hcons hauthor hnames, listsOk_iff hcons hauthor hnone]
  exact ⟨fun h => ⟨⟨h.1, honce⟩, h.2⟩, fun h => ⟨h.1.1, h.2⟩⟩

end Lists

/-! ## Two updates -/

/-- A type, a report and a visit, none of them attached yet. -/
def listsDB : DB :=
  { twoIncidentsDB with
    incidentType := Table.empty.insert 4 "Medical"
    report := Table.empty.insert (1, 1) { created := 7, createdBy := some 7 }
    visit := Table.empty.insert (1, 1) { incidentNumber := none } }

/-- What holds of all rows holds of all stored keys. -/
theorem forall_contains {κ ρ : Type} [DecidableEq κ] {t : Table κ ρ} {P : κ → Prop}
    (h : ∀ k ∈ t.rows.map Prod.fst, P k) (k : κ) (hk : t.contains k = true) : P k :=
  h k (Table.mem_keys_iff.mpr hk)

theorem listsDB_consistent : listsDB.Consistent 1 := by
  refine ⟨⟨fun _ _ h => absurd h Bool.false_ne_true, fun _ h => Bool.false_ne_true h⟩,
    forall_contains (by decide), forall_contains (by decide), fun k i hk => ?_,
    ⟨forall_contains (by decide), forall_contains (by decide), forall_contains (by decide),
      forall_contains (by decide), forall_contains (by decide)⟩⟩
  have hrows : ∀ r ∈ listsDB.incident.rows, DB.nullOr listsDB.outcome r.2.outcomeID = true ∧
      DB.nullOr listsDB.area (r.2.locationAreaSlug.map (r.1.1, ·)) = true := by decide
  exact hrows _ (Table.find?_eq_some_iff.mp hk)

theorem directoryUp_stillEnv : DirectoryUp stillEnv := fun _ => ⟨[], rfl⟩

/-- Every list is set, and one visit is named twice. -/
def setsAllLists : IncidentJSON where
  eventID := 1
  number := 1
  incidentTypeIDs := some [4]
  reports := some [1]
  visits := some [1, 1]
  linkedIncidents := some [{ eventID := 1, number := 2 }]

theorem updateIncident_sets_lists_all :
    Accepts stillEnv {} setsAllLists 7 true { db := listsDB, nextId := 1 } ∧
      ∀ w', (updateIncident {} setsAllLists 7 true).run imsDB stillEnv
          { db := listsDB, nextId := 1 } = (.ok (), w') → ListsSet setsAllLists listsDB w'.db := by
  have hnames : NamesStored listsDB setsAllLists := by
    refine ⟨?_, ?_, ?_, ?_⟩ <;> rintro l ⟨⟩ <;> decide
  have honce : NamedOnce listsDB setsAllLists := by
    refine ⟨?_, ?_⟩ <;> rintro l ⟨⟩ <;> decide
  have hplain : Accepts stillEnv {} setsAllLists.withoutLists 7 true
      { db := listsDB, nextId := 1 } := by
    have hrun : ((updateIncident {} setsAllLists.withoutLists 7 true).run imsDB stillEnv
      { db := listsDB, nextId := 1 }).1 = .ok () := by decide
    exact ⟨_, Prod.ext hrun rfl⟩
  obtain ⟨hiff, hset⟩ := updateIncident_sets_lists stillEnv {} { db := listsDB, nextId := 1 }
    setsAllLists 7 true stillEnv_quiet directoryUp_stillEnv listsDB_consistent (by decide) (by decide)
    hnames
  exact ⟨hiff.mpr ⟨hplain, honce⟩, hset⟩

/-- One type, named twice. -/
def namesTypeTwice : IncidentJSON where
  eventID := 1
  number := 1
  incidentTypeIDs := some [4, 4]

theorem not_accepts_namesTypeTwice :
    listsDB.Consistent 1 ∧ NamesStored listsDB namesTypeTwice ∧
      Accepts stillEnv {} namesTypeTwice.withoutLists 7 true { db := listsDB, nextId := 1 } ∧
      ¬ Accepts stillEnv {} namesTypeTwice 7 true { db := listsDB, nextId := 1 } := by
  refine ⟨listsDB_consistent, ?_, ?_, ?_⟩
  · refine ⟨?_, ?_, ?_, ?_⟩ <;> rintro l ⟨⟩
    decide
  · have hrun : ((updateIncident {} namesTypeTwice.withoutLists 7 true).run imsDB stillEnv
      { db := listsDB, nextId := 1 }).1 = .ok () := by decide
    exact ⟨_, Prod.ext hrun rfl⟩
  · rintro ⟨w', hrun⟩
    have hfails : ((updateIncident {} namesTypeTwice 7 true).run imsDB stillEnv
        { db := listsDB, nextId := 1 }).1 =
          .error (.internalServerError "Failed to add Incident Type" (.mysql 1062)) := by
      decide
    rw [hrun] at hfails
    cases hfails

end OcfIms
