import OcfIms.ReportLink

/-!
# Writes that fail halfway

Which failed calls leave something behind. An update of an incident writes inside one transaction
only, and a failed one leaves the store as it was. The other three methods write on the pool first:
the row of a new incident or report, the link of an updated report. A call that fails after that
write leaves it behind.
-/

namespace OcfIms

open TxnLib

variable {env : ImsEnv} {D : DB → Prop} {e n : Int}

/-- The incidents, the reports, their links and their journals are the same. -/
def SameRecords (db db' : DB) : Prop :=
  db.incident = db'.incident ∧ db.report = db'.report ∧
    db.incidentIncidentType = db'.incidentIncidentType ∧
    db.incidentLinkedIncident = db'.incidentLinkedIncident ∧
    db.incidentPerson = db'.incidentPerson ∧ db.visit = db'.visit ∧
    db.journalEntry = db'.journalEntry ∧ db.incidentJournalEntry = db'.incidentJournalEntry ∧
    db.reportJournalEntry = db'.reportJournalEntry ∧
    db.journalEntryMention = db'.journalEntryMention

theorem SameRecords.refl (db : DB) : SameRecords db db :=
  ⟨rfl, rfl, rfl, rfl, rfl, rfl, rfl, rfl, rfl, rfl⟩

/-! ## Transactions -/

theorem triple_begin_fails {ε : Type} {err : SqlErr → ε} :
    Call.Triple imsDB env (World.Holds D fun _ => True) (begin err)
      (fun _ w => w.Holds D fun _ => True) fun _ w => D w.db :=
  (triple_beginTx fun _ _ hw => hw.1).conseq (fun _ h => h)
    (fun _ _ h => ⟨h.1, fun _ _ => trivial⟩) fun _ _ h => h

theorem permitsEntries_txnWrites : PermitsEntries Call.txnWrites .txn :=
  ⟨fun _ => trivial, fun _ _ => trivial, fun _ => trivial⟩

/-- A failed update of an incident leaves the pool as it found it. -/
theorem triple_updateIncident_fails (s : Service) (inc : IncidentJSON) (author : Int)
    (admin : Bool) :
    Call.Triple imsDB env (World.Holds D fun _ => True) (updateIncident s inc author admin)
      (fun _ _ => True) fun _ w => D w.db := by
  refine ((Call.triple_reads_holds fun db => every_loadIncident (fun _ => trivial) inc).conseq
    (fun _ h => h) (fun _ _ h => h) fun _ _ h => h.1).bind fun st => ?_
  have hpermits : PermitsUpdate Call.txnWrites inc st :=
    ⟨permitsEntries_txnWrites, fun _ => trivial, fun _ _ _ => trivial, fun _ => trivial,
      fun _ => trivial, fun _ _ => trivial, fun _ _ => trivial, fun _ _ _ => trivial,
      fun _ _ => ⟨trivial, trivial, fun _ => trivial⟩,
      fun _ _ => ⟨trivial, trivial, fun _ => trivial⟩⟩
  refine triple_begin_fails.bind fun _ => ?_
  refine Call.triple_deferRollback ?_
  refine Call.Triple.bind (J := fun _ _ => True) ?_ fun touched => ?_
  · refine Call.Triple.bind_fact (Call.triple_txnWrites (every_scalarEdits (fun _ => trivial) s inc
      st author admin)) fun ed _ => ?_
    refine Call.Triple.bind_fact (Call.triple_txnWrites (E := fun _ => True) (Q := fun _ => True) (every_exec
      trivial (fun _ => trivial) fun _ _ => trivial)) fun _ _ => ?_
    refine Call.Triple.bind_fact (Call.triple_txnWrites (every_reconcileAll hpermits
      (fun _ => trivial) s author _)) fun touched _ => ?_
    refine (triple_commitTx fun _ _ hw => hw.1).bind fun _ => ?_
    exact Call.triple_pure fun _ _ => trivial
  · exact Call.triple_unfailing (every_announceUpdate (W := anyWrite) inc st author touched)

theorem triple_createReportTxn_fails (s : Service) (r author : Int) (report : ReportJSON)
    (incident : Option Int) :
    Call.Triple imsDB env (World.Holds D fun _ => True)
      (createReportTxn s e r author report incident) (fun _ _ => True) fun _ w => D w.db := by
  refine Call.Triple.bind_fact (Call.triple_txnWrites (every_recordSummary (e := e) (n := r)
    permitsEntries_txnWrites (fun _ => trivial) (fun _ => trivial) author _)) fun _ _ => ?_
  refine Call.Triple.bind_fact (Call.triple_txnWrites (every_recordLink (e := e) (n := r)
    permitsEntries_txnWrites (fun _ => trivial) (fun _ => trivial) author fun _ _ _ => trivial)) fun _ _ => ?_
  refine Call.Triple.bind_fact (Call.triple_txnWrites (every_applyReportJournalEntries (e := e)
    (n := r) permitsEntries_txnWrites (fun _ => trivial) (fun _ => trivial) s author _)) fun mentioned _ => ?_
  refine (triple_commitTx fun _ _ hw => hw.1).bind fun _ => ?_
  exact Call.triple_pure fun _ _ => trivial

/-- What follows the insert of a new report: a transaction, and the news of it. -/
theorem triple_fillReport_fails (s : Service) (ev : EventRow) (r author : Int) (report : ReportJSON)
    (incident : Option Int) :
    Call.Triple imsDB env (World.Holds D fun _ => True)
      (begin (internalError "failed to begin transaction") >>= fun _ => Call.deferRollback do
        let mentioned ← createReportTxn s ev.id r author report incident
        emit (.notifyMentionedInReport ev.event.name r mentioned author)
        announceLink ev.id incident
        notifyReportUpdate ev.id r
        pure r) (fun _ _ => True) fun _ w => D w.db := by
  refine triple_begin_fails.bind fun _ => ?_
  refine Call.triple_deferRollback ?_
  refine (triple_createReportTxn_fails s r author report incident).bind fun mentioned => ?_
  refine Call.triple_unfailing (P := writesIn anyWrite) (Q := fun _ => True) ?_
  refine Call.every_bind (every_emit _) fun _ _ => ?_
  refine Call.every_bind (Q := fun _ => True) ?_ fun _ _ => ?_
  · cases incident with
    | none => exact Call.every_pure trivial
    | some i => exact every_notifyIncidentUpdates ev.id 0 i
  exact Call.every_bind (every_notifyReportUpdate ev.id r) fun _ _ => Call.every_pure trivial

/-- The part of an update after the link. -/
theorem triple_editReport_fails (s : Service) (ev : EventRow) (r : Int) (stored : Report)
    (report : ReportJSON) (perms : EventPermissionMask) (claims : IMSClaims) :
    Call.Triple imsDB env (World.Holds D fun _ => True)
      (editReport s ev r stored report perms claims) (fun _ _ => True) fun _ w => D w.db := by
  refine Call.triple_ite (fun _ => Call.triple_pure fun _ _ => trivial) fun _ => ?_
  refine Call.Triple.bind_fact (Q := fun _ => True) (M := World.Holds D fun _ => True) ?_
    fun _ _ => ?_
  · refine Call.triple_txnWrites (E := fun _ => True) (Call.every_bind (Q := fun _ => True)
      (Call.every_ensure (fun _ => trivial) fun _ => trivial) fun _ _ => ?_)
    exact Call.every_ensure (fun _ => trivial) fun _ => trivial
  refine triple_begin_fails.bind fun _ => ?_
  refine Call.triple_deferRollback ?_
  refine Call.Triple.bind (J := fun _ _ => True) ?_ fun mentioned => ?_
  · refine Call.Triple.bind_fact (Call.triple_txnWrites (every_recordSummary (e := ev.id) (n := r)
      permitsEntries_txnWrites (fun _ => trivial) (fun _ => trivial) _ _)) fun _ _ => ?_
    refine Call.Triple.bind_fact (Call.triple_txnWrites (E := fun _ => True) (Q := fun _ => True)
      (every_exec trivial (fun _ => trivial) fun _ _ => trivial)) fun _ _ => ?_
    refine Call.Triple.bind_fact (Call.triple_txnWrites (every_applyReportJournalEntries (e := ev.id)
      (n := r) permitsEntries_txnWrites (fun _ => trivial) (fun _ => trivial) s _ _)) fun mentioned _ => ?_
    refine (triple_commitTx fun _ _ hw => hw.1).bind fun _ => ?_
    exact Call.triple_pure fun _ _ => trivial
  · refine Call.triple_unfailing (P := writesIn anyWrite) (Q := fun _ => True) ?_
    exact Call.every_bind (every_emit _) fun _ _ => every_notifyReportUpdate ev.id r

/-! ## The first write -/

/-- The number handed out is no record's yet. -/
theorem contains_nextNumber {ρ : Type} {t : Table (Int × Int) ρ}
    (h : DB.nextNumber (DB.numbersIn t e) = .ok n) : t.contains (e, n) = false := by
  have hbound : ∀ (l : List Int), ∀ m ∈ l, m < l.foldr (fun n m => max (n + 1) m) 1 := by
    intro l
    induction l with
    | nil => exact fun m hm => absurd hm List.not_mem_nil
    | cons a l ih =>
        intro m hm
        rw [List.foldr_cons]
        rcases List.mem_cons.mp hm with rfl | hm
        · omega
        · have := ih m hm
          omega
  have hn : (DB.numbersIn t e).foldr (fun n m => max (n + 1) m) 1 = n := by
    unfold DB.nextNumber at h
    dsimp only at h
    split at h
    · exact Except.ok.inj h
    · cases h
  rw [Table.contains_eq_false_iff]
  cases hfind : t.find? (e, n) with
  | none => rfl
  | some v =>
      have hmem : n ∈ DB.numbersIn t e :=
        List.mem_filterMap.mpr ⟨((e, n), v), Table.find?_eq_some_iff.mp hfind, by simp⟩
      have := hbound _ n hmem
      omega

/-- The statements the event and the caller's mask take. -/
def gateStatements (db : DB) (e : Int) (claims : IMSClaims) : Nat :=
  1 + (1 + crewStatements db e claims)

/-- The row of the new incident is inserted: the gates let the caller pass, a number is left, the
caller is a stored person, and no statement up to the insert fails from outside. -/
structure CreateIncidentRequest.Lands (env : ImsEnv) (w : ImsWorld) (claims : IMSClaims)
    (req : CreateIncidentRequest) : Prop where
  event : w.db.event.contains req.eventId = true
  permitted : hasBit (eventMaskIn w.db req.eventId claims) eventWriteIncidents = true
  number : ∃ n, DB.nextNumber (DB.numbersIn w.db.incident req.eventId) = .ok n
  author : w.db.person.contains claims.personID = true
  quiet : env.QuietFor w.tick (gateStatements w.db req.eventId claims + 1)
  insert : env.fault (w.tick + (gateStatements w.db req.eventId claims + 2)) = none

theorem reaches_gates {α : Type} {db : DB} {ev : Event} (hev : db.event.find? e = some ev)
    (claims : IMSClaims) (f : EventRow → EventPermissionMask → Go ConnectError α) :
    Call.Reaches imsDB env db (fetchEvent e >>= fun event => permissionsAt event.id claims >>= f event)
      (gateStatements db e claims) (f ⟨e, ev⟩ (eventMaskIn db e claims)) :=
  Call.Reaches.trans (y := permissionsAt e claims >>= f ⟨e, ev⟩) (reads_fetchEvent hev).reaches
    (reads_permissionsAt e claims).reaches

theorem failsTo_insertIncident (s : Service) (ev : EventRow) (claims : IMSClaims)
    (u : Option IncidentUpdate) (w : ImsWorld) {lands : Prop}
    (hlands : lands ↔ (∃ n, DB.nextNumber (DB.numbersIn w.db.incident ev.id) = .ok n) ∧
      w.db.person.contains claims.personID = true ∧ env.QuietFor w.tick 1 ∧
      env.fault (w.tick + 1 + 1) = none) (hev : w.db.event.contains ev.id = true) :
    Call.FailsTo imsDB env w (insertIncident s ev claims u) (Call.Torn SameRecords lands w.db) := by
  have hread : (select .pool (.nextIncidentNumber ev.id)
      (internalError "failed to find next incident number")).Reads imsDB env w.db _ 1 :=
    reads_select _ _
  rw [Read.eval] at hread
  cases hnumber : DB.nextNumber (DB.numbersIn w.db.incident ev.id) with
  | error x =>
      rw [hnumber] at hread
      refine (hread.bind_error).failsTo (Call.torn_of_not fun h => ?_)
      obtain ⟨n, hn⟩ := (hlands.mp h).1
      rw [hnumber] at hn
      cases hn
  | ok n =>
      rw [hnumber] at hread
      refine hread.reaches.failsTo (fun hq => Call.torn_of_not fun h => hq (hlands.mp h).2.2.1)
        fun hq => ?_
      refine Call.failsTo_ask_bind fun created => ?_
      refine Call.failsTo_write_bind (fun hfail => Call.torn_of_not fun h => ?_)
        fun b db' hfault happ => ?_
      · obtain ⟨_, hauthor, _, hinsert⟩ := hlands.mp h
        rcases hfail with hfault | ⟨x, hx⟩
        · exact hfault hinsert
        · simp only [imsDB, Write.apply, DB.unique, contains_nextNumber hnumber, DB.references, hev,
            DB.nullOr, hauthor] at hx
          cases hx
      · simp only [imsDB, Write.apply, DB.unique_eq_ok, DB.references_eq_ok] at happ
        obtain ⟨hnew, _, hby, ⟨⟩⟩ := happ
        have hlanded : lands := hlands.mpr ⟨⟨n, hnumber⟩, hby, hq, hfault⟩
        have hrest : Call.Triple imsDB env (World.Holds (fun db => db.incident.contains (ev.id, n) =
            true) fun _ => True) (Call.mapErr herrToConnect (updateIncident s
              (updatePayload ev.event ev.id n u) claims.personID claims.admin) >>= fun _ =>
              emit (.invalidateEvent ev.event.name) >>= fun _ => pure n) (fun _ _ => True)
            fun _ w' => Call.Torn SameRecords lands w.db w'.db := by
          refine (Call.Triple.mapErr (K := fun _ w' => Call.Torn SameRecords lands w.db w'.db)
            ((triple_updateIncident_fails s _ _ _).conseq (fun _ h => h) (fun _ _ h => h)
              fun _ w' hin => Call.torn_of hlanded fun hsame => ?_)).bind fun _ => ?_
          · rw [← hsame.1, hnew] at hin
            cases hin
          · exact Call.triple_unfailing (P := writesIn anyWrite) (Q := fun _ => True)
              (Call.every_bind (every_emit _) fun _ _ => Call.every_pure trivial)
        refine hrest.failsTo ⟨?_, fun _ _ => trivial⟩
        exact (Table.contains_insert hnew _ _).trans (by simp)

theorem failsTo_createIncident (s : Service) (claims : IMSClaims) (req : CreateIncidentRequest)
    (w : ImsWorld) :
    Call.FailsTo imsDB env w (createIncident s (some claims) req)
      (Call.Torn SameRecords (req.Lands env w claims) w.db) := by
  obtain ⟨e, u⟩ := req
  cases hev : w.db.event.find? e with
  | none =>
      refine Call.Reads.failsTo (reads_fetchEvent_none hev).bind_error (Call.torn_of_not fun h => ?_)
      have hevent : w.db.event.contains e = true := h.event
      rw [Table.contains_eq_false_iff.mpr hev] at hevent
      cases hevent
  | some ev =>
    cases hwrite : hasBit (eventMaskIn w.db e claims) eventWriteIncidents with
    | false =>
        refine Call.Reads.failsTo ((reaches_gates hev claims _).reads (Call.reads_ensure_error hwrite))
          (Call.torn_of_not fun h => ?_)
        have hpermitted : hasBit (eventMaskIn w.db e claims) eventWriteIncidents = true :=
          h.permitted
        rw [hwrite] at hpermitted
        cases hpermitted
    | true =>
        refine ((reaches_gates hev claims _).trans (Call.reaches_ensure hwrite)).failsTo (fun hq => Call.torn_of_not fun h => ?_)
          fun hq => ?_
        · exact hq (Env.quietFor_add.mp h.quiet).1
        · refine failsTo_insertIncident s _ claims u _ ⟨fun h => ?_, fun h => ?_⟩
            (Table.contains_iff.mpr ⟨ev, hev⟩)
          · exact ⟨h.number, h.author, (Env.quietFor_add.mp h.quiet).2, h.insert⟩
          · obtain ⟨hnumber, hauthor, hread, hinsert⟩ := h
            exact ⟨Table.contains_iff.mpr ⟨ev, hev⟩, hwrite, hnumber, hauthor,
              Env.quietFor_add.mpr ⟨hq, hread⟩, hinsert⟩

/-- The incident a new report is to be linked to. -/
def CreateReportRequest.incident (req : CreateReportRequest) : Option Int :=
  (req.report.bind (·.incident)).bind targetIncident

/-- The row of the new report is inserted, by the same conditions; the incident it names must
exist. -/
structure CreateReportRequest.Lands (env : ImsEnv) (w : ImsWorld) (claims : IMSClaims)
    (req : CreateReportRequest) : Prop where
  event : w.db.event.contains req.eventId = true
  permitted : hasBit (eventMaskIn w.db req.eventId claims)
    (eventWriteAllReports ||| eventWriteOwnReports) = true
  number : ∃ n, DB.nextNumber (DB.numbersIn w.db.report req.eventId) = .ok n
  incident : DB.nullOr w.db.incident (req.incident.map (req.eventId, ·)) = true
  author : w.db.person.contains claims.personID = true
  quiet : env.QuietFor w.tick (gateStatements w.db req.eventId claims + 1)
  insert : env.fault (w.tick + (gateStatements w.db req.eventId claims + 2)) = none

theorem reads_reportWriteContext {db : DB} {ev : Event} (hev : db.event.find? e = some ev)
    {claims : IMSClaims} (hwrite : hasBit (eventMaskIn db e claims)
      (eventWriteAllReports ||| eventWriteOwnReports) = true) :
    (reportWriteContext e claims).Reads imsDB env db (.ok (⟨e, ev⟩, eventMaskIn db e claims))
      (gateStatements db e claims) := by
  refine Call.Reaches.reads (l := 0) (reaches_gates hev claims fun event perms =>
    Call.ensure (hasBit perms (eventWriteAllReports ||| eventWriteOwnReports)) _ >>= fun _ =>
      pure (event, perms)) ?_
  refine Call.Reaches.reads (k := 0) (l := 0) (Call.reaches_ensure hwrite) ?_
  exact Call.reads_pure _

variable (env) in
/-- A caller without a write bit, or at no event, is turned away. -/
theorem reads_reportWriteContext_error {db : DB} {claims : IMSClaims}
    (h : ¬ (db.event.contains e = true ∧ hasBit (eventMaskIn db e claims)
      (eventWriteAllReports ||| eventWriteOwnReports) = true)) :
    ∃ err k, (reportWriteContext e claims).Reads imsDB env db (.error err) k := by
  cases hev : db.event.find? e with
  | none => exact ⟨_, _, (reads_fetchEvent_none hev).bind_error⟩
  | some ev =>
      have hwrite : hasBit (eventMaskIn db e claims)
          (eventWriteAllReports ||| eventWriteOwnReports) = false := by
        refine eq_false_of_ne_true fun hbit => h ⟨?_, hbit⟩
        exact Table.contains_iff.mpr ⟨ev, hev⟩
      exact ⟨_, _, (reaches_gates hev claims _).reads (Call.reads_ensure_error hwrite)⟩

theorem failsTo_insertReport (s : Service) (ev : EventRow) (author : Int) (report : ReportJSON)
    (w : ImsWorld) {lands : Prop}
    (hlands : lands ↔ (∃ n, DB.nextNumber (DB.numbersIn w.db.report ev.id) = .ok n) ∧
      DB.nullOr w.db.incident ((report.incident.bind targetIncident).map (ev.id, ·)) = true ∧
      w.db.person.contains author = true ∧ env.QuietFor w.tick 1 ∧
      env.fault (w.tick + 1 + 1) = none) (hev : w.db.event.contains ev.id = true) :
    Call.FailsTo imsDB env w (insertReport s ev author report) (Call.Torn SameRecords lands w.db) := by
  have hread : (select .pool (.nextReportNumber ev.id)
      (internalError "failed to find next report number")).Reads imsDB env w.db _ 1 :=
    reads_select _ _
  rw [Read.eval] at hread
  cases hnumber : DB.nextNumber (DB.numbersIn w.db.report ev.id) with
  | error x =>
      rw [hnumber] at hread
      refine (hread.bind_error).failsTo (Call.torn_of_not fun h => ?_)
      obtain ⟨n, hn⟩ := (hlands.mp h).1
      rw [hnumber] at hn
      cases hn
  | ok n =>
      rw [hnumber] at hread
      refine hread.reaches.failsTo (fun hq => Call.torn_of_not fun h => hq (hlands.mp h).2.2.2.1)
        fun hq => ?_
      refine Call.failsTo_ask_bind fun created => ?_
      refine Call.failsTo_write_bind (fun hfail => Call.torn_of_not fun h => ?_)
        fun b db' hfault happ => ?_
      · obtain ⟨_, hincident, hauthor, _, hinsert⟩ := hlands.mp h
        rcases hfail with hfault | ⟨x, hx⟩
        · exact hfault hinsert
        · simp only [imsDB, Write.apply, DB.unique, contains_nextNumber hnumber, DB.references, hev,
            hincident, if_true, Bool.false_eq_true, if_false] at hx
          rw [show DB.nullOr w.db.person (some author) = true from hauthor, if_pos rfl] at hx
          cases hx
      · simp only [imsDB, Write.apply, DB.unique_eq_ok, DB.references_eq_ok] at happ
        obtain ⟨hnew, _, hincident, hby, ⟨⟩⟩ := happ
        have hlanded : lands := hlands.mpr ⟨⟨n, hnumber⟩, hincident, hby, hq, hfault⟩
        intro err w' hrun
        have hin : w'.db.report.contains (ev.id, n) = true := by
          have hfill : Call.Triple imsDB env (World.Holds (fun db => db.report.contains (ev.id, n) =
              true) fun _ => True) _ _ _ :=
            triple_fillReport_fails s ev n author report (report.incident.bind targetIncident)
          refine hfill.of_run_error ⟨?_, fun _ _ => trivial⟩ hrun
          exact (Table.contains_insert hnew _ _).trans (by simp)
        refine Call.torn_of hlanded fun hsame => ?_
        rw [← hsame.2.1, hnew] at hin
        cases hin

theorem failsTo_createReport (s : Service) (claims : IMSClaims) (req : CreateReportRequest)
    (w : ImsWorld) :
    Call.FailsTo imsDB env w (createReport s (some claims) req)
      (Call.Torn SameRecords (req.Lands env w claims) w.db) := by
  obtain ⟨e, write⟩ := req
  by_cases hgate : w.db.event.contains e = true ∧ hasBit (eventMaskIn w.db e claims)
      (eventWriteAllReports ||| eventWriteOwnReports) = true
  · obtain ⟨ev, hev⟩ := Table.contains_iff.mp hgate.1
    refine Call.Reaches.failsTo (reads_reportWriteContext hev hgate.2).reaches
      (fun hq => Call.torn_of_not fun h => ?_) fun hq => ?_
    · exact hq (Env.quietFor_add.mp h.quiet).1
    · refine failsTo_insertReport s _ claims.personID _ _ ?_ hgate.1
      rw [incident_reportWriteToJSON]
      refine ⟨fun h => ?_, fun h => ?_⟩
      · exact ⟨h.number, h.incident, h.author, (Env.quietFor_add.mp h.quiet).2, h.insert⟩
      · obtain ⟨hnumber, hincident, hauthor, hread, hinsert⟩ := h
        exact ⟨hgate.1, hgate.2, hnumber, hincident, hauthor, Env.quietFor_add.mpr ⟨hq, hread⟩,
          hinsert⟩
  · obtain ⟨err, k, hreads⟩ := reads_reportWriteContext_error env hgate
    exact hreads.bind_error.failsTo (Call.torn_of_not fun h => hgate ⟨h.event, h.permitted⟩)

/-- The statements the ownership floor takes: the entries are only read for a caller who is neither
a writer of all reports nor the report's creator. -/
def ownerStatements (db : DB) (e : Int) (claims : IMSClaims) (r : Report) : Nat :=
  if hasBit (eventMaskIn db e claims) eventWriteAllReports || r.createdBy == some claims.personID
  then 0 else 1

/-- The stored report's link is set: the gates let the caller pass, the value names another link
than the stored one and no missing incident, and no statement up to the write fails from outside. -/
structure UpdateReportRequest.Relinks (env : ImsEnv) (w : ImsWorld) (claims : IMSClaims)
    (req : UpdateReportRequest) (r : Report) (value : Int) : Prop where
  event : w.db.event.contains req.eventId = true
  permitted : hasBit (eventMaskIn w.db req.eventId claims)
    (eventWriteAllReports ||| eventWriteOwnReports) = true
  stored : w.db.report.find? (req.eventId, req.reportNumber) = some r
  owner : ownsForEdit w.db claims req.eventId req.reportNumber r = true
  requested : req.incident = some value
  changed : targetIncident value ≠ r.incidentNumber
  incident : DB.nullOr w.db.incident ((targetIncident value).map (req.eventId, ·)) = true
  quiet : env.QuietFor w.tick (gateStatements w.db req.eventId claims +
    (1 + ownerStatements w.db req.eventId claims r))
  attach : env.fault (w.tick + (gateStatements w.db req.eventId claims +
    (1 + ownerStatements w.db req.eventId claims r))) = none

/-- The first write of the update lands. -/
def UpdateReportRequest.Lands (env : ImsEnv) (w : ImsWorld) (claims : IMSClaims)
    (req : UpdateReportRequest) : Prop :=
  ∃ r value, req.Relinks env w claims r value

theorem reads_fetchStoredReport {db : DB} {r : Report} (hr : db.report.find? (e, n) = some r) :
    (fetchStoredReport e n).Reads imsDB env db (.ok (db.reportRow e n r)) 1 := by
  have h : (fetchStoredReport e n).Reads imsDB env db _ 1 := reads_select (.report e n) _
  rw [Read.eval, hr] at h
  exact h

variable (env) in
theorem reads_fetchStoredReport_none {db : DB} (hr : db.report.find? (e, n) = none) :
    ∃ err, (fetchStoredReport e n).Reads imsDB env db (.error err) 1 := by
  have h : (fetchStoredReport e n).Reads imsDB env db _ 1 := reads_select (.report e n) _
  rw [Read.eval, hr] at h
  exact ⟨_, h⟩

variable (env) in
theorem reads_requireReportOwner (db : DB) (r : Report) (claims : IMSClaims) :
    (requireReportOwner e n r (eventMaskIn db e claims) claims).Reads imsDB env db
      (if ownsForEdit db claims e n r then .ok ()
      else .error ⟨.permissionDenied,
        "the requestor does not have permission to edit this Report"⟩)
      (ownerStatements db e claims r) := by
  unfold requireReportOwner ownsForEdit ownerStatements
  cases hasBit (eventMaskIn db e claims) eventWriteAllReports ||
    r.createdBy == some claims.personID with
  | true => exact Call.reads_pure ()
  | false =>
      simp only [Bool.false_eq_true, if_false, Bool.false_or]
      refine Call.Reads.bind (k := 1) (l := 0) (a := ((db.reportEntriesOf e n).filterMap
        (db.journalEntryRow n)).any fun row => row.author.getD "" = claims.handle) ?_ ?_
      · exact Call.Reads.bind (k := 1) (l := 0) (reads_select (.reportJournalEntries e n) _)
          (Call.reads_pure _)
      · cases ((db.reportEntriesOf e n).filterMap (db.journalEntryRow n)).any
          fun row => row.author.getD "" = claims.handle with
        | true => exact Call.reads_pure ()
        | false => exact Call.reads_throw _

/-- The link, and then the edit: what a failure leaves of them. -/
theorem failsTo_reconcileReportLink (s : Service) (ev : EventRow) (claims : IMSClaims)
    (report : ReportJSON) {r : Report} (w : ImsWorld) {lands : Prop}
    (hr : w.db.report.find? (ev.id, n) = some r) (perms : EventPermissionMask)
    (hlands : lands ↔ ∃ value, report.incident = some value ∧
      targetIncident value ≠ r.incidentNumber ∧
      DB.nullOr w.db.incident ((targetIncident value).map (ev.id, ·)) = true ∧
      env.fault w.tick = none) :
    Call.FailsTo imsDB env w (reconcileReportLink ev.id n claims.personID r report.incident >>=
      fun _ => editReport s ev n r report perms claims) (Call.Torn SameRecords lands w.db) := by
  have hedit : ¬ lands → Call.FailsTo imsDB env w (editReport s ev n r report perms claims)
      (Call.Torn SameRecords lands w.db) := by
    intro hl
    refine ((triple_editReport_fails (D := (· = w.db)) s ev n r report perms claims).conseq
      (fun _ h => h) (fun _ _ h => h) fun _ w' hw' => ?_).failsTo ⟨rfl, fun _ _ => trivial⟩
    rw [hw']
    exact Call.torn_of_not hl
  cases hinc : report.incident with
  | none =>
      refine hedit fun h => ?_
      obtain ⟨value, hvalue, _⟩ := hlands.mp h
      rw [hinc] at hvalue
      cases hvalue
  | some value =>
      unfold reconcileReportLink
      dsimp only
      by_cases htarget : targetIncident value = r.incidentNumber
      · rw [if_pos htarget]
        refine hedit fun h => ?_
        obtain ⟨value', hvalue, hne, _⟩ := hlands.mp h
        rw [hinc, Option.some.injEq] at hvalue
        subst hvalue
        exact hne htarget
      · rw [if_neg htarget]
        refine Call.failsTo_assoc (Call.failsTo_write_bind (fun hfail => Call.torn_of_not fun h => ?_)
          fun b db' hfault happ => ?_)
        · obtain ⟨value', hvalue, _, hincident, hattach⟩ := hlands.mp h
          rw [hinc, Option.some.injEq] at hvalue
          subst hvalue
          rcases hfail with hfault | ⟨x, hx⟩
          · exact hfault hattach
          · simp only [imsDB, Write.apply, hr, DB.references, hincident] at hx
            cases hx
        · simp only [imsDB, Write.apply, hr, DB.references_eq_ok] at happ
          obtain ⟨hincident, ⟨⟩⟩ := happ
          have hlanded : lands := hlands.mpr ⟨value, hinc, htarget, hincident, hfault⟩
          have htorn : ∀ db, LinkIs ev.id n (targetIncident value) db → Call.Torn SameRecords lands w.db db := by
            refine fun db hl => Call.torn_of hlanded fun hsame => ?_
            obtain ⟨r', hr', hlink⟩ := hl
            rw [← hsame.2.1, hr, Option.some.injEq] at hr'
            subst hr'
            exact htarget hlink.symm
          have hmirror : (recordLinkChange ev.id n claims.personID r.incidentNumber
              (targetIncident value) >>= fun _ => notifyReportUpdate ev.id n >>= fun _ =>
              notifyIncidentUpdates ev.id (r.incidentNumber.getD 0)
                ((targetIncident value).getD 0)).Every anyAnswer (writesIn (keepsLink ev.id n))
              (fun _ => True) fun _ => True := by
            refine Call.every_bind (every_recordLinkChange (e := ev.id) (n := n)
              (permitsEntries_keepsLink ev.id n .pool) (fun _ => rfl) (fun _ => trivial)
              claims.personID fun _ _ _ => rfl) fun _ _ => ?_
            exact Call.every_bind (every_notifyReportUpdate ev.id n) fun _ _ =>
              every_notifyIncidentUpdates ev.id _ _
          refine Call.Triple.failsTo (I := World.Holds (LinkIs ev.id n (targetIncident value))
            fun _ => True) (J := fun _ _ => True) ?_ ⟨?_, fun _ _ => trivial⟩
          · refine Call.Triple.bind_fact (Call.triple_writesIn
              (fun _ _ _ _ _ _ hq hl h => LinkIs.of_apply hq hl h)
              (fun _ _ _ _ _ _ _ _ _ => trivial) hmirror fun _ w' hw' _ => htorn _ hw'.1)
              fun _ _ => ?_
            exact (triple_editReport_fails s ev n r report perms claims).conseq (fun _ h => h)
              (fun _ _ h => h) fun _ _ h => htorn _ h
          · refine ⟨{ r with incidentNumber := targetIncident value }, ?_, rfl⟩
            rw [World.store_pool_db, Table.find?_modify, if_pos rfl, hr]
            rfl

theorem failsTo_updateReport (s : Service) (claims : IMSClaims) (req : UpdateReportRequest)
    (w : ImsWorld) :
    Call.FailsTo imsDB env w (updateReport s (some claims) req)
      (Call.Torn SameRecords (req.Lands env w claims) w.db) := by
  obtain ⟨e, n, write⟩ := req
  by_cases hgate : w.db.event.contains e = true ∧ hasBit (eventMaskIn w.db e claims)
      (eventWriteAllReports ||| eventWriteOwnReports) = true
  · obtain ⟨ev, hev⟩ := Table.contains_iff.mp hgate.1
    have hcontext : Call.Reaches imsDB env w.db (updateReport s (some claims) ⟨e, n, write⟩)
        (gateStatements w.db e claims) (fetchStoredReport e n >>= fun row =>
          requireReportOwner e n row.report (eventMaskIn w.db e claims) claims >>= fun _ =>
          reconcileReportLink e n claims.personID row.report (reportWriteToJSON write).incident >>=
          fun _ => editReport s ⟨e, ev⟩ n row.report (reportWriteToJSON write)
            (eventMaskIn w.db e claims) claims) :=
      (reads_reportWriteContext hev hgate.2).reaches
    cases hr : w.db.report.find? (e, n) with
    | none =>
        obtain ⟨err, hreads⟩ := reads_fetchStoredReport_none env hr
        refine (hcontext.reads hreads.bind_error).failsTo (Call.torn_of_not ?_)
        rintro ⟨r, value, h⟩
        have hstored : w.db.report.find? (e, n) = some r := h.stored
        rw [hr] at hstored
        cases hstored
    | some r =>
        have hrow := hcontext.trans (reads_fetchStoredReport hr).reaches
        have howner := reads_requireReportOwner env (e := e) (n := n) w.db r claims
        have hsame : ∀ {r' value}, UpdateReportRequest.Relinks env w claims ⟨e, n, write⟩ r' value →
            r' = r := by
          intro r' value h
          have hstored : w.db.report.find? (e, n) = some r' := h.stored
          rw [hr, Option.some.injEq] at hstored
          exact hstored.symm
        cases howns : ownsForEdit w.db claims e n r with
        | false =>
            rw [howns, if_neg Bool.false_ne_true] at howner
            refine (hrow.reads howner.bind_error).failsTo (Call.torn_of_not ?_)
            rintro ⟨r', value, h⟩
            have hfloor : ownsForEdit w.db claims e n r' = true := h.owner
            rw [hsame h, howns] at hfloor
            cases hfloor
        | true =>
            rw [howns, if_pos rfl] at howner
            have hgates := hcontext.trans ((reads_fetchStoredReport hr).reaches.trans
              howner.reaches)
            refine hgates.failsTo (fun hq => Call.torn_of_not ?_) fun hq => ?_
            · rintro ⟨r', value, h⟩
              have hquiet := h.quiet
              rw [hsame h] at hquiet
              exact hq hquiet
            · refine failsTo_reconcileReportLink s ⟨e, ev⟩ claims (reportWriteToJSON write)
                { w with tick := w.tick + (gateStatements w.db e claims +
                  (1 + ownerStatements w.db e claims r)) } hr _ ⟨?_, ?_⟩
              · rintro ⟨r', value, h⟩
                obtain rfl := hsame h
                refine ⟨value, ?_, h.changed, h.incident, h.attach⟩
                rw [incident_reportWriteToJSON]
                exact h.requested
              · rintro ⟨value, hrequested, hchanged, hincident, hattach⟩
                rw [incident_reportWriteToJSON] at hrequested
                exact ⟨r, value, hgate.1, hgate.2, hr, howns, hrequested, hchanged, hincident, hq,
                  hattach⟩
  · obtain ⟨err, k, hreads⟩ := reads_reportWriteContext_error env hgate
    refine hreads.bind_error.failsTo (Call.torn_of_not ?_)
    rintro ⟨r, value, h⟩
    exact hgate ⟨h.event, h.permitted⟩

theorem triple_updateIncidentRPC_fails (s : Service) (claims : IMSClaims)
    (req : UpdateIncidentRequest) (db : DB) :
    Call.Triple imsDB env (World.Holds (· = db) fun _ => True)
      (updateIncidentRPC s (some claims) req) (fun _ _ => True) fun _ w => w.db = db := by
  obtain ⟨e, n, u⟩ := req
  have hread : ∀ {α : Type} {x : Go ConnectError α} {Q : α → Prop},
      x.Every (truthful imsDB db) readsPool (fun _ => True) Q →
        Call.Triple imsDB env (World.Holds (· = db) fun _ => True) x
          (fun a w => w.Holds (· = db) (fun _ => True) ∧ Q a) fun _ w => w.db = db :=
    fun hx => Call.triple_reads hx fun _ _ hw _ => hw.1
  refine Call.Triple.bind_fact (hread (every_authenticated (fun _ => trivial) _))
    fun claims _ => ?_
  refine Call.Triple.bind_fact (hread (every_fetchEvent (fun _ => trivial) e)) fun ev hev => ?_
  obtain ⟨rfl, _⟩ := hev
  refine Call.Triple.bind_fact (hread (every_permissionsAt (fun _ => trivial) ev.id claims))
    fun perms hperms => ?_
  subst hperms
  refine Call.Triple.bind_fact (hread (every_requireWriteOrGrant (e := ev.id) (n := n)
    (fun _ => trivial) claims rfl rfl)) fun _ _ => ?_
  refine Call.Triple.bind_fact (hread (every_requireIncidentVisible (fun _ => trivial) ev.id n
    claims)) fun _ _ => ?_
  refine (Call.Triple.mapErr (triple_updateIncident_fails s _ _ _)).bind fun _ => ?_
  exact Call.triple_unfailing (P := writesIn anyWrite) (every_emit _)

/-! ## Which failures leave something behind -/

/-- The first write of the request, outside its transaction, lands. -/
def RecordRequest.Lands (env : ImsEnv) (w : ImsWorld) (caller : Option IMSClaims) :
    RecordRequest → Prop
  | .createReport req => ∃ claims, caller = some claims ∧ req.Lands env w claims
  | .updateReport req => ∃ claims, caller = some claims ∧ req.Lands env w claims
  | .createIncident req => ∃ claims, caller = some claims ∧ req.Lands env w claims
  | .updateIncident _ => False

theorem failsTo_bind_pure {α β : Type} {x : Go ConnectError α} {f : α → β} {w : ImsWorld}
    {P : DB → Prop} (h : Call.FailsTo imsDB env w x P) :
    Call.FailsTo imsDB env w (x >>= fun a => pure (f a)) P := by
  intro err w' hrun
  rcases Call.run_bind_eq_error.mp hrun with hx | ⟨a, w₁, _, hpure⟩
  · exact h err w' hx
  · cases hpure

theorem failsTo_call (s : Service) (caller : Option IMSClaims) (m : RecordRequest) (w : ImsWorld) :
    Call.FailsTo imsDB env w (m.call s caller) (Call.Torn SameRecords (m.Lands env w caller) w.db) := by
  cases caller with
  | none =>
      have hno : ¬ m.Lands env w none := by
        intro h
        cases m with
        | updateIncident req => exact h
        | _ => exact nomatch h.choose_spec.1
      cases m <;> exact Call.Reads.failsTo (Call.reads_throw _).bind_error (Call.torn_of_not hno)
  | some claims =>
      have hsome : ∀ p : IMSClaims → Prop, p claims ↔ ∃ c, some claims = some c ∧ p c := by
        intro p
        refine ⟨fun h => ⟨claims, rfl, h⟩, ?_⟩
        rintro ⟨c, hc, h⟩
        rw [Option.some.injEq] at hc
        rw [hc]
        exact h
      cases m with
      | createReport req =>
          exact failsTo_bind_pure fun err w' h => (failsTo_createReport s claims req w
            err w' h).congr (hsome fun c => req.Lands env w c)
      | updateReport req =>
          exact fun err w' h => (failsTo_updateReport s claims req w err w' h).congr
            (hsome fun c => req.Lands env w c)
      | createIncident req =>
          exact failsTo_bind_pure fun err w' h => (failsTo_createIncident s claims req w
            err w' h).congr (hsome fun c => req.Lands env w c)
      | updateIncident req =>
          intro err w' h
          have hsame : w'.db = w.db := (triple_updateIncidentRPC_fails s claims req w.db).of_run_error
            ⟨rfl, fun _ _ => trivial⟩ h
          rw [hsame]
          exact Call.torn_of_not id

/-- A failed call leaves the records as they were exactly if its first write outside a transaction
did not land. -/
theorem sameRecords_iff (s : Service) (caller : Option IMSClaims) (m : RecordRequest)
    (w : ImsWorld) {e : ConnectError} (h : ((m.call s caller).run imsDB env w).1 = .error e) :
    SameRecords w.db ((m.call s caller).run imsDB env w).2.db ↔ ¬ m.Lands env w caller :=
  (failsTo_call s caller m w e _ (Prod.ext h rfl)).iff (SameRecords.refl w.db)

theorem sameRecords_iff_orphan :
    ¬ SameRecords linkedReportDB
      ((RecordRequest.call {} (some ⟨7, "hub", false⟩)
        (.createIncident ⟨1, some { outcomeId := some 99 }⟩)).run imsDB stillEnv
          { db := linkedReportDB, nextId := 1 }).2.db := by
  rw [sameRecords_iff {} (some ⟨7, "hub", false⟩) (.createIncident ⟨1, some { outcomeId := some 99 }⟩)
    { db := linkedReportDB, nextId := 1 } (e := ⟨.invalidArgument, "Invalid outcome id: 99"⟩)
    (by decide), not_not]
  exact ⟨⟨7, "hub", false⟩, rfl, by decide, by decide, ⟨3, by decide⟩, by decide,
    stillEnv_quiet.quietFor _ _, rfl⟩

/-- A new incident whose outcome is unknown is refused, and its row stays. -/
theorem createIncident_leaves_row :
    ¬ ∀ (env : ImsEnv) (s : Service) (caller : Option IMSClaims) (m : RecordRequest) (w : ImsWorld)
      (err : ConnectError), ((m.call s caller).run imsDB env w).1 = .error err →
        SameRecords w.db ((m.call s caller).run imsDB env w).2.db := by
  intro h
  have hsame := h stillEnv {} (some ⟨7, "hub", false⟩)
    (.createIncident ⟨1, some { outcomeId := some 99 }⟩) { db := linkedReportDB, nextId := 1 }
    ⟨.invalidArgument, "Invalid outcome id: 99"⟩ (by decide)
  have hrow := congrArg (fun t : Table (Int × Int) Incident => t.contains (1, 3)) hsame.1
  exact absurd hrow (by decide)

end OcfIms
