import OcfIms.LibTells
import OcfIms.Pokes
import OcfIms.UploadAccess
import OcfIms.VisitTimes

/-!
# What the event source broadcasts

A server-sent event goes to every subscriber, whatever they may see, so it must not name a private
incident. The number is left out where the lookup says private, and where the lookup fails. `Discreet`
is what that comes to, and every method that tells anything keeps it, in every run: the methods that
write incidents, reports and visits, and the uploads.
-/

namespace OcfIms

open TxnLib Call

/-- A broadcast that carries an incident's number is about an incident that is stored and open. -/
def Discreet (o : Effect) (db : DB) : Prop :=
  ∀ data, o = .sse data → data.incidentNumber ≠ 0 →
    ∃ i, db.incident.find? (data.eventID, data.incidentNumber) = some i ∧ i.isPrivate = false

/-- Every other message says nothing to those who did not ask. -/
theorem discreet_of_ne {o : Effect} (h : ∀ data, o ≠ .sse data) (db : DB) : Discreet o db :=
  fun data ho _ => absurd ho (h data)

theorem discreet_of_zero {data : IMSEventData} (h : data.incidentNumber = 0) (db : DB) :
    Discreet (.sse data) db := by
  intro data' ho hne
  cases ho
  exact absurd h hne

section Messages

variable {env : ImsEnv} {D : DB → Prop} {ε : Type}

theorem every_incidentEventData_discreet (db : DB) (e n : Int) :
    (incidentEventData e n : Go ε IMSEventData).Every (truthful imsDB db) readsPool (fun _ => True)
      fun data => Discreet (.sse data) db := by
  refine every_bind (Q := fun r => ∀ row, r = .ok row →
    (Read.incident e n).eval db = .ok row) (every_result (E := fun _ => True) (Q := fun row =>
      (Read.incident e n).eval db = .ok row) (every_read (fun _ h => h) fun _ _ => trivial) |>.mono
      (fun _ _ _ h => h) (fun _ _ h => h) (fun _ h => h) ?_) fun r hr => ?_
  · intro r hr row heq
    subst heq
    exact hr
  cases r with
  | error err => exact every_pure (discreet_of_zero rfl db)
  | ok row =>
      refine every_ite (fun _ => every_pure (discreet_of_zero rfl db)) fun hopen => ?_
      refine every_pure fun data ho _ => ?_
      cases ho
      have hrow := hr row rfl
      rw [Read.eval, DB.one_eq_ok, Option.map_eq_some_iff] at hrow
      obtain ⟨i, hi, rfl⟩ := hrow
      exact ⟨i, hi, by simpa [DB.incidentRow] using hopen⟩

theorem tells_notifyIncidentUpdate (e n : Int) :
    Tells imsDB env D Discreet (notifyIncidentUpdate e n : Go ε Unit) := by
  refine tells_ite (fun _ => tells_pure ()) fun _ => ?_
  refine tells_reads_bind (fun db _ => every_incidentEventData_discreet db e n) fun data => ?_
  refine Tells.bind (tells_emit fun _ h => h.2) fun _ => ?_
  exact tells_emit fun db _ => discreet_of_ne (by simp) db

theorem tells_notifyIncidentUpdates (e n m : Int) :
    Tells imsDB env D Discreet (notifyIncidentUpdates e n m : Go ε Unit) :=
  (tells_notifyIncidentUpdate e n).bind fun _ =>
    tells_ite (fun _ => tells_pure ()) fun _ => tells_notifyIncidentUpdate e m

theorem tells_notifyReportUpdate (e r : Int) :
    Tells imsDB env D Discreet (notifyReportUpdate e r : Go ε Unit) := by
  refine tells_ite (fun _ => tells_pure ()) fun _ => ?_
  exact Tells.bind (tells_emit fun db _ => discreet_of_zero rfl db) fun _ =>
    tells_emit fun db _ => discreet_of_ne (by simp) db

theorem tells_notifyVisitUpdate (e v : Int) :
    Tells imsDB env D Discreet (notifyVisitUpdate e v : Go ε Unit) :=
  tells_ite (fun _ => tells_pure ()) fun _ => tells_emit fun db _ => discreet_of_zero rfl db

/-- A message that is no broadcast. -/
theorem tells_aside {o : Effect} (h : ∀ data, o ≠ .sse data) :
    Tells imsDB env D Discreet (emit o : Go ε Unit) :=
  tells_emit fun db _ => discreet_of_ne h db

theorem tells_select {α : Type} {c : Conn} {q : Read α} {err : SqlErr → ε} :
    Tells imsDB env D Discreet (select c q err) := by
  unfold select
  exact Tells.mapErr (tells_attempt trivial)

theorem tells_exec {α : Type} {c : Conn} {q : Write α} {err : SqlErr → ε} :
    Tells imsDB env D Discreet (exec c q err) := by
  unfold exec
  exact Tells.mapErr (tells_attempt trivial)

theorem tells_begin {err : SqlErr → ε} : Tells imsDB env D Discreet (begin err) := by
  unfold begin
  exact Tells.mapErr (tells_attempt trivial)

theorem tells_commit {err : SqlErr → ε} : Tells imsDB env D Discreet (commit err) := by
  unfold commit
  exact Tells.mapErr (tells_attempt trivial)

theorem tells_now : Tells imsDB env D Discreet (now : Go ε Int) := tells_perform trivial

/-- What a gate reads. -/
theorem tells_gate {α : Type} {x : Go ε α} {Q : DB → α → Prop}
    (hx : ∀ db, x.Every (truthful imsDB db) readsPool (fun _ => True) (Q db)) :
    Tells imsDB env D Discreet x := by
  rw [← bind_pure x]
  exact tells_reads_bind (fun db _ => hx db) fun a => tells_pure a

end Messages

/-! ## The methods on incidents -/

section Incidents

variable {env : ImsEnv} {D : DB → Prop} {s : Service} {caller : Option IMSClaims}

theorem tells_updateIncident (inc : IncidentJSON) (author : Int) (admin : Bool) :
    Tells imsDB env D Discreet (updateIncident s inc author admin) := by
  refine Tells.bind (tells_gate fun db => every_loadIncident (E := fun _ => True) (fun _ => trivial) inc)
    fun st => ?_
  refine Tells.bind tells_begin fun _ => Tells.deferRollback ?_
  refine Tells.bind (tells_quiet every_updateIncidentTxn_quiet) fun touched => ?_
  refine Tells.bind (tells_notifyIncidentUpdate _ _) fun _ => ?_
  refine Tells.bind (tells_aside (by simp)) fun _ => ?_
  refine Tells.bind (tells_forM (fun r => tells_notifyReportUpdate _ r) _) fun _ => ?_
  refine Tells.bind (tells_forM (fun l : Int × Int => tells_notifyIncidentUpdate l.1 l.2) _) fun _ => ?_
  exact tells_forM (fun v => tells_notifyVisitUpdate _ v) _

theorem tells_authenticated (caller : Option IMSClaims) :
    Tells imsDB env D Discreet (authenticated caller) :=
  tells_gate fun _ => every_authenticated (E := fun _ => True) (fun _ => trivial) caller

theorem tells_fetchEvent (e : Int) : Tells imsDB env D Discreet (fetchEvent e) :=
  tells_gate fun _ => every_fetchEvent (E := fun _ => True) (fun _ => trivial) e

theorem tells_permissionsAt (e : Int) (claims : IMSClaims) :
    Tells imsDB env D Discreet (permissionsAt e claims) :=
  tells_gate fun _ => every_permissionsAt (E := fun _ => True) (fun _ => trivial) e claims

theorem tells_incidentWriteContext (e n : Int) (claims : IMSClaims) :
    Tells imsDB env D Discreet (incidentWriteContext e n claims) :=
  tells_gate fun _ => every_incidentWriteContext (E := fun _ => True) (fun _ => trivial) e n claims

theorem tells_createIncident (req : CreateIncidentRequest) :
    Tells imsDB env D Discreet (createIncident s caller req) := by
  refine Tells.bind (tells_authenticated caller) fun claims => ?_
  refine Tells.bind (tells_fetchEvent _) fun event => ?_
  refine Tells.bind (tells_permissionsAt _ _) fun perms => ?_
  refine Tells.bind tells_ensure fun _ => ?_
  refine Tells.bind tells_select fun n => ?_
  refine Tells.bind tells_now fun created => ?_
  refine Tells.bind tells_exec fun _ => ?_
  refine Tells.bind (tells_updateIncident _ _ _).mapErr fun _ => ?_
  exact Tells.bind (tells_aside (by simp)) fun _ => tells_pure n

theorem tells_updateIncidentRPC (req : UpdateIncidentRequest) :
    Tells imsDB env D Discreet (updateIncidentRPC s caller req) := by
  refine Tells.bind (tells_authenticated caller) fun claims => ?_
  refine Tells.bind (tells_fetchEvent _) fun event => ?_
  refine Tells.bind (tells_permissionsAt _ _) fun perms => ?_
  refine Tells.bind ?_ fun _ => ?_
  · refine tells_ite (fun _ => tells_pure ()) fun _ => ?_
    refine Tells.bind tells_select fun _ => ?_
    exact Tells.bind tells_ensure fun _ => tells_ensure
  refine Tells.bind (tells_gate fun _ => every_requireIncidentVisible (E := fun _ => True)
    (fun _ => trivial) _ _ claims) fun _ => ?_
  exact Tells.bind (tells_updateIncident _ _ _).mapErr fun _ => tells_aside (by simp)

/-- A method on the people of an incident starts with its gates and the person. -/
theorem tells_onPerson {k : IMSClaims → EventRow → PersonRow → Go ConnectError Unit} {e n p : Int}
    (hk : ∀ claims event person, Tells imsDB env (fun _ => True) Discreet (k claims event person)) :
    Tells imsDB env D Discreet (do
      let claims ← authenticated caller
      let event ← incidentWriteContext e n claims
      let person ← Call.mapErr herrToConnect (personByID p)
      k claims event person) := by
  refine Tells.bind (tells_authenticated caller) fun claims => ?_
  refine Tells.bind (tells_incidentWriteContext _ _ claims) fun event => ?_
  exact Tells.bind (Tells.mapErr tells_select) fun person => hk claims event person

theorem tells_attachPersonToIncident (req : AttachPersonRequest) :
    Tells imsDB env D Discreet (attachPersonToIncident caller req) := by
  refine tells_onPerson fun claims event person => ?_
  refine Tells.bind (tells_quiet (every_runInTx_quiet
    (every_attachPersonTxn permitsPeople_anyWrite _ _))) fun isNew => ?_
  refine Tells.bind (tells_notifyIncidentUpdate _ _) fun _ => ?_
  exact tells_ite (fun _ => tells_aside (by simp)) fun _ => tells_pure ()

theorem tells_requestReport (req : PersonOnIncidentRequest) :
    Tells imsDB env D Discreet (requestReport caller req) := by
  refine tells_onPerson fun claims event person => ?_
  refine Tells.bind tells_now fun requestedAt => ?_
  refine Tells.bind (tells_quiet (every_runInTx_quiet
    (every_requestReportTxn permitsPeople_anyWrite _))) fun _ => ?_
  exact Tells.bind (tells_notifyIncidentUpdate _ _) fun _ => tells_aside (by simp)

theorem tells_detachPersonFromIncident (req : PersonOnIncidentRequest) :
    Tells imsDB env D Discreet (detachPersonFromIncident caller req) := by
  refine tells_onPerson fun claims event person => ?_
  refine Tells.bind (tells_quiet (every_runInTx_quiet
    (every_detachPersonTxn permitsPeople_anyWrite))) fun _ => ?_
  exact tells_notifyIncidentUpdate _ _

theorem tells_updateIncidentJournalEntry (req : UpdateJournalEntryRequest) :
    Tells imsDB env D Discreet (updateIncidentJournalEntry caller req) := by
  refine Tells.bind (tells_authenticated caller) fun claims => ?_
  refine Tells.bind (tells_incidentWriteContext _ _ claims) fun event => ?_
  cases req.stricken with
  | none => exact tells_pure ()
  | some stricken =>
      refine Tells.bind tells_begin fun _ => Tells.deferRollback ?_
      refine Tells.bind (Tells.bind tells_exec fun _ => Tells.bind ?_ fun _ => tells_commit) fun _ =>
        tells_notifyIncidentUpdate _ _
      exact tells_quiet (every_tellsNothing (every_addGeneratedIncidentEntry
        (permitsEntries_anyWrite .txn) (fun _ => trivial) (fun _ => trivial) claims.personID _))

end Incidents

/-! ## The methods on reports -/

section Reports

variable {env : ImsEnv} {D : DB → Prop} {s : Service} {caller : Option IMSClaims}

theorem tells_reportWriteContext (e : Int) (claims : IMSClaims) :
    Tells imsDB env D Discreet (reportWriteContext e claims) :=
  tells_gate fun _ => every_reportWriteContext (E := fun _ => True) (fun _ => trivial) e claims

theorem tells_createReport (req : CreateReportRequest) :
    Tells imsDB env D Discreet (createReport s caller req) := by
  refine Tells.bind (tells_authenticated caller) fun claims => ?_
  refine Tells.bind (tells_reportWriteContext _ claims) fun ctx => ?_
  refine Tells.bind tells_select fun n => ?_
  refine Tells.bind tells_now fun created => ?_
  refine Tells.bind tells_exec fun _ => ?_
  refine Tells.bind tells_begin fun _ => Tells.deferRollback ?_
  refine Tells.bind (tells_quiet every_createReportTxn_quiet) fun mentioned => ?_
  refine Tells.bind (tells_aside (by simp)) fun _ => ?_
  refine Tells.bind ?_ fun _ => Tells.bind (tells_notifyReportUpdate _ _) fun _ => tells_pure n
  cases (reportWriteToJSON req.report).incident.bind targetIncident with
  | none => exact tells_pure ()
  | some i => exact tells_notifyIncidentUpdates _ _ i

theorem tells_reconcileReportLink (e n author : Int) (stored : Report) (desired : Option Int) :
    Tells imsDB env D Discreet (reconcileReportLink e n author stored desired) := by
  cases desired with
  | none => exact tells_pure ()
  | some value =>
      refine tells_ite (fun _ => tells_pure ()) fun _ => ?_
      refine Tells.bind tells_exec fun _ => ?_
      refine Tells.bind (tells_quiet every_recordLinkChange_quiet) fun _ => ?_
      exact Tells.bind (tells_notifyReportUpdate _ _) fun _ => tells_notifyIncidentUpdates _ _ _

theorem tells_editReport (event : EventRow) (n : Int) (stored : Report) (report : ReportJSON)
    (perms : EventPermissionMask) (claims : IMSClaims) :
    Tells imsDB env D Discreet (editReport s event n stored report perms claims) := by
  refine tells_ite (fun _ => tells_pure ()) fun _ => ?_
  refine Tells.bind (Tells.bind tells_ensure fun _ => tells_ensure) fun _ => ?_
  refine Tells.bind tells_begin fun _ => Tells.deferRollback ?_
  refine Tells.bind (tells_quiet every_updateReportTxn_quiet) fun mentioned => ?_
  exact Tells.bind (tells_aside (by simp)) fun _ => tells_notifyReportUpdate _ _

theorem tells_updateReport (req : UpdateReportRequest) :
    Tells imsDB env D Discreet (updateReport s caller req) := by
  refine Tells.bind (tells_authenticated caller) fun claims => ?_
  refine Tells.bind (tells_reportWriteContext _ claims) fun ctx => ?_
  refine Tells.bind tells_select fun row => ?_
  refine Tells.bind ?_ fun _ => ?_
  · refine tells_ite (fun _ => tells_pure ()) fun _ => ?_
    exact Tells.bind (Tells.bind tells_select fun _ => tells_pure _) fun _ => tells_ensure
  exact Tells.bind (tells_reconcileReportLink _ _ _ _ _) fun _ => tells_editReport _ _ _ _ _ _

theorem tells_updateReportJournalEntry (req : UpdateJournalEntryRequest) :
    Tells imsDB env D Discreet (updateReportJournalEntry caller req) := by
  refine Tells.bind (tells_authenticated caller) fun claims => ?_
  refine Tells.bind (tells_reportWriteContext _ claims) fun ctx => ?_
  refine Tells.bind tells_select fun row => ?_
  cases req.stricken with
  | none => exact tells_pure ()
  | some stricken =>
      refine Tells.bind (tells_gate fun _ => every_requireEntryAuthor (E := fun _ => True)
        (fun _ => trivial) _ _ _ _ claims) fun _ => ?_
      refine Tells.bind tells_begin fun _ => Tells.deferRollback ?_
      refine Tells.bind (Tells.bind tells_exec fun _ => Tells.bind ?_ fun _ => tells_commit) fun _ =>
        tells_notifyReportUpdate _ _
      exact tells_quiet (every_tellsNothing (every_addGeneratedReportEntry
        (permitsEntries_anyWrite .txn) (fun _ => trivial) (fun _ => trivial) claims.personID _))

end Reports

/-! ## Visits and uploads -/

section Visits

variable {sortKey : String → String} {env : VisitEnv} {D : DB → Prop} {s : Service}

theorem tells_inVisit {ε α : Type} {x : Go ε α} (h : Tells imsDB env.narrow.narrow D Discreet x) :
    Tells (visitDB sortKey) env D (Relayed (Relayed Discreet)) (inVisit x) :=
  h.widen.widen

theorem tells_eventPermissions {env : ImsEnv} (e : Int) (claims : IMSClaims) :
    Tells imsDB env D Discreet (eventPermissions (some e) claims) :=
  (tells_permissionsAt e claims).of_bind.of_mapErr

theorem tells_getEventPermissions {env : AttachmentEnv} (eventName : String) (claims : IMSClaims) :
    Tells (attachmentDB sortKey) env D (Relayed Discreet) (getEventPermissions eventName claims) := by
  refine Tells.bind ?_ fun event => Tells.bind (Tells.widen ?_) fun perms => tells_pure _
  · refine tells_ite (fun _ => tells_throw _) fun _ => ?_
    unfold queryEventID
    exact Tells.mapErr (tells_attempt trivial)
  · exact Tells.bind (Tells.mapErr (tells_eventPermissions _ claims)) fun _ => tells_pure _

theorem tells_parsePathValue {env : AttachmentEnv} (value message : String) :
    Tells (attachmentDB sortKey) env D (Relayed Discreet) (parsePathValue value message) := by
  unfold parsePathValue
  cases parseInt32 value with
  | none => exact tells_throw _
  | some n => exact tells_pure n

theorem tells_liftExcept {env : ImsEnv} {ε α : Type} (r : Except ε α) :
    Tells imsDB env D Discreet (liftExcept r) := by
  cases r with
  | ok a => exact tells_pure a
  | error err => exact tells_throw err

theorem tells_visitSelect {ε α : Type} {c : Conn} {q : VisitQuery α} {err : SqlErr → ε} :
    Tells (visitDB sortKey) env D (Relayed (Relayed Discreet)) (visitSelect c q err) := by
  unfold visitSelect
  exact Tells.mapErr (tells_attempt trivial)

theorem tells_visitExec {ε α : Type} {c : Conn} {q : VisitWrite α} {err : SqlErr → ε} :
    Tells (visitDB sortKey) env D (Relayed (Relayed Discreet)) (visitExec c q err) := by
  unfold visitExec
  exact Tells.mapErr (tells_attempt trivial)

theorem tells_addVisitJournalEntry (e n author : Int) (text : List JournalLine) (generated : Bool) :
    Tells (visitDB sortKey) env D (Relayed (Relayed Discreet))
      (addVisitJournalEntry e n author text generated) := by
  refine Tells.bind (tells_inVisit tells_now) fun created => ?_
  exact Tells.bind (tells_inVisit tells_exec) fun entryID => tells_visitExec

theorem tells_updateVisit (visit : VisitJSON) (author : Int) :
    Tells (visitDB sortKey) env D (Relayed (Relayed Discreet)) (updateVisit s visit author) := by
  refine Tells.bind tells_visitSelect fun row => ?_
  refine Tells.bind (tells_inVisit tells_select) fun _ => ?_
  refine Tells.bind (tells_inVisit tells_begin) fun _ => Tells.deferRollback ?_
  refine Tells.bind ?_ fun update => ?_
  · refine Tells.bind (tells_inVisit (tells_liftExcept _)) fun ed => ?_
    refine Tells.bind tells_visitExec fun _ => ?_
    have hend : Tells (visitDB sortKey) env (fun _ => True) (Relayed (Relayed Discreet)) (do
        visit.journalEntries.forM fun entry =>
          if entry.text = "" then pure ()
          else addVisitJournalEntry visit.eventID visit.number author [.text entry.text] false
        inVisit (commit (.internalServerError "Failed to commit transaction"))
        pure ed.update : VisitGo HTTPError UpdateVisitParams) := by
      refine Tells.bind (tells_forM (fun entry => ?_) _) fun _ =>
        Tells.bind (tells_inVisit tells_commit) fun _ => tells_pure _
      exact tells_ite (fun _ => tells_pure ()) fun _ => tells_addVisitJournalEntry _ _ _ _ _
    exact tells_ite (fun _ => hend) fun _ => Tells.bind (tells_addVisitJournalEntry _ _ _ _ _) fun _ => hend
  · exact Tells.bind (tells_inVisit (tells_notifyVisitUpdate _ _)) fun _ =>
      tells_inVisit (tells_notifyIncidentUpdates _ _ _)

theorem tells_newVisit (claims : IMSClaims) (req : NewVisitRequest) :
    Tells (visitDB sortKey) env D (Relayed (Relayed Discreet)) (newVisit s claims req) := by
  refine Tells.bind (tells_getEventPermissions _ _).widen fun ctx => ?_
  refine Tells.bind tells_ensure fun _ => ?_
  refine Tells.bind (tells_inVisit (tells_liftExcept _)) fun body => ?_
  refine Tells.bind tells_visitSelect fun n => ?_
  refine Tells.bind (tells_inVisit tells_now) fun created => ?_
  refine Tells.bind tells_visitExec fun _ => ?_
  exact Tells.bind (tells_updateVisit _ _) fun _ => tells_pure n

theorem tells_editVisit (claims : IMSClaims) (req : EditVisitRequest) :
    Tells (visitDB sortKey) env D (Relayed (Relayed Discreet)) (editVisit s claims req) := by
  refine Tells.bind (tells_getEventPermissions _ _).widen fun ctx => ?_
  refine Tells.bind tells_ensure fun _ => ?_
  refine Tells.bind (tells_parsePathValue _ _).widen fun n => ?_
  exact Tells.bind (tells_inVisit (tells_liftExcept _)) fun body => tells_updateVisit _ _

end Visits

section Uploads

variable {sortKey : String → String} {env : UploadEnv} {D : DB → Prop} {File : Type}
  {svc : UploadService File} {claims : IMSClaims} {req : UploadRequest File}

theorem tells_inUpload {ε α : Type} {x : Go ε α} (h : Tells imsDB env.narrow.narrow D Discreet x) :
    Tells (uploadDB sortKey) env D (Relayed (Relayed Discreet)) (inUpload x) :=
  h.widen.widen

theorem tells_storeFile (formFile : Except FormError (FormFile File)) (record : String) (e n : Int) :
    Tells (uploadDB sortKey) env D (Relayed (Relayed Discreet))
      (storeFile svc formFile record e n) := by
  refine Tells.bind (tells_inUpload (tells_liftExcept _)) fun fi => ?_
  refine Tells.bind (tells_inUpload (tells_liftExcept _)) fun kind => ?_
  refine Tells.bind (tells_perform trivial) fun text => Tells.bind ?_ fun _ => tells_pure _
  refine tells_ite (fun _ => tells_throw _) fun _ => Tells.bind (tells_perform trivial) fun saved => ?_
  cases saved with
  | ok _ => exact tells_pure ()
  | error err => exact tells_throw err

theorem tells_createFileEntry {params : CreateFileEntryParams} {err : SqlErr → HTTPError} :
    Tells (uploadDB sortKey) env D (Relayed (Relayed Discreet)) (createFileEntry params err) := by
  unfold createFileEntry
  exact Tells.mapErr (tells_attempt trivial)

theorem tells_downloadPrivateAccess {env : ImsEnv} (row : IncidentRow) (hasGrant : Bool) :
    Tells imsDB env D Discreet (downloadPrivateAccess row hasGrant claims) :=
  tells_ite (fun _ => Tells.bind tells_select fun _ => tells_ensure) fun _ => tells_pure ()

theorem tells_attachToIncident :
    Tells (uploadDB sortKey) env D (Relayed (Relayed Discreet)) (attachToIncident svc claims req) := by
  refine Tells.bind ?_ fun target => ?_
  · refine Tells.bind (tells_getEventPermissions _ _).widen fun ctx => ?_
    refine Tells.bind (tells_parsePathValue _ _).widen fun n => ?_
    refine Tells.bind (tells_inUpload ?_) fun _ => tells_pure _
    refine Tells.bind ?_ fun hasGrant => Tells.bind tells_select fun row =>
      tells_downloadPrivateAccess row hasGrant
    refine tells_ite (fun _ => tells_pure _) fun _ => ?_
    exact Tells.bind tells_select fun _ => Tells.bind tells_ensure fun _ => tells_pure _
  refine Tells.bind (tells_storeFile _ _ _ _) fun file => ?_
  refine Tells.bind (tells_inUpload tells_now) fun created => ?_
  refine Tells.bind tells_createFileEntry fun reID => ?_
  refine Tells.bind (tells_inUpload tells_exec) fun _ => ?_
  exact Tells.bind (tells_inUpload (tells_notifyIncidentUpdate _ _)) fun _ => tells_pure reID

theorem tells_attachToReport :
    Tells (uploadDB sortKey) env D (Relayed (Relayed Discreet)) (attachToReport svc claims req) := by
  refine Tells.bind ?_ fun target => ?_
  · refine Tells.bind (tells_getEventPermissions _ _).widen fun ctx => ?_
    refine Tells.bind tells_ensure fun _ => ?_
    refine Tells.bind (tells_parsePathValue _ _).widen fun n => ?_
    refine Tells.bind (tells_inUpload ?_) fun row => tells_pure _
    refine Tells.bind ?_ fun report => Tells.bind tells_ensure fun _ => tells_pure _
    refine Tells.bind tells_select fun row => Tells.bind tells_select fun entries => ?_
    exact Tells.bind tells_select fun mentions => tells_pure _
  refine Tells.bind (tells_storeFile _ _ _ _) fun file => ?_
  refine Tells.bind (tells_inUpload tells_now) fun created => ?_
  refine Tells.bind tells_createFileEntry fun reID => ?_
  refine Tells.bind (tells_inUpload tells_exec) fun _ => ?_
  refine Tells.bind (tells_inUpload (tells_notifyReportUpdate _ _)) fun _ => ?_
  refine Tells.bind (tells_inUpload ?_) fun _ => tells_pure reID
  cases target.2.2.report.incidentNumber with
  | none => exact tells_pure ()
  | some i => exact tells_notifyIncidentUpdate _ i

end Uploads

/-! ## Every method -/

theorem tells_pokingRequest {env : ImsEnv} {D : DB → Prop} (s : Service) (caller : Option IMSClaims)
    (req : PokingRequest) : Tells imsDB env D Discreet (req.call s caller) := by
  cases req with
  | createIncident req => exact Tells.bind (tells_createIncident req) fun _ => tells_pure ()
  | updateIncident req => exact tells_updateIncidentRPC req
  | attachPersonToIncident req => exact tells_attachPersonToIncident req
  | requestReport req => exact tells_requestReport req
  | detachPersonFromIncident req => exact tells_detachPersonFromIncident req
  | updateIncidentJournalEntry req => exact tells_updateIncidentJournalEntry req
  | createReport req => exact Tells.bind (tells_createReport req) fun _ => tells_pure ()
  | updateReport req => exact tells_updateReport req
  | updateReportJournalEntry req => exact tells_updateReportJournalEntry req

/-- **No broadcast names a private incident**: whatever a method that writes records, visits or files
broadcasts, whoever calls it and whether it succeeds or fails halfway, a number in it is that of an
incident which is stored and open at that moment. -/
theorem broadcasts_discreet (sortKey : String → String) (s : Service) :
    (∀ (env : ImsEnv) (caller : Option IMSClaims) (req : PokingRequest) (w : ImsWorld) o db,
      (o, db) ∈ (req.call s caller).told imsDB env w → Discreet o db) ∧
    (∀ (env : VisitEnv) (c : VisitCall) (w : VisitWorld) o db,
      (.inl (.inl o), db) ∈ (c.call s).told (visitDB sortKey) env w → Discreet o db) ∧
    ∀ (File : Type) (svc : UploadService File) (env : UploadEnv) (claims : IMSClaims)
      (req : UploadRequest File) (w : UploadWorld) o db,
      (.inl (.inl o), db) ∈ (attachToIncident svc claims req).told (uploadDB sortKey) env w ∨
        (.inl (.inl o), db) ∈ (attachToReport svc claims req).told (uploadDB sortKey) env w →
        Discreet o db := by
  refine ⟨fun env caller req w o db hmem => ?_, fun env c w o db hmem => ?_,
    fun File svc env claims req w o db hmem => ?_⟩
  · exact tells_pokingRequest (D := fun _ => True) s caller req w trivial o db hmem
  · have hcall : Tells (visitDB sortKey) env (fun _ => True) (Relayed (Relayed Discreet))
        (c.call s) := by
      cases c with
      | new claims req => exact Tells.bind (tells_newVisit claims req) fun _ => tells_pure ()
      | edit claims req => exact tells_editVisit claims req
    exact hcall w trivial _ db hmem _ rfl o rfl
  · rcases hmem with hmem | hmem
    · exact tells_attachToIncident (D := fun _ => True) w trivial _ db hmem _ rfl o rfl
    · exact tells_attachToReport (D := fun _ => True) w trivial _ db hmem _ rfl o rfl

/-- The incident that takes a report is named, and it is open. -/
theorem broadcasts_discreet_takeReport :
    ∃ db, (.sse { eventID := 1, incidentNumber := 2 }, db) ∈
        (takeReport.call {} (some ⟨7, "hub", false⟩)).told imsDB stillEnv
          { db := linkedReportDB, nextId := 1 } ∧
      ∃ i, db.incident.find? (1, 2) = some i ∧ i.isPrivate = false := by
  have hnamed : (.sse { eventID := 1, incidentNumber := 2 } : Effect) ∈
      ((takeReport.call {} (some ⟨7, "hub", false⟩)).told imsDB stillEnv
        { db := linkedReportDB, nextId := 1 }).map Prod.fst := by
    decide
  obtain ⟨⟨o, db⟩, hmem, rfl⟩ := List.mem_map.mp hnamed
  exact ⟨db, hmem, (broadcasts_discreet id {}).1 _ _ _ _ _ db hmem _ rfl (by decide)⟩

end OcfIms
