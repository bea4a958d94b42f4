import OcfIms.AttachmentAccess
import OcfIms.AttachmentUpload

/-!
# An upload writes an entry

The uploads restate the gates of `UpdateIncident` and `UpdateReport` before they look at the form.
For incidents the two gates agree. For reports the upload stops at the ownership floor of the edit
path, which a previous author passes, while the edit path goes on to keep such an author from
adding an entry.
-/

namespace OcfIms

open TxnLib

variable {File : Type} {sortKey : String → String} {db : DB} {claims : IMSClaims} {e n : Int}
  {ev : Event} {s : Service}

/-! ## Updates that add one entry -/

section Updates

variable {env : ImsEnv}

/-- An update that only adds to the journal is authorized exactly where its gates pass. -/
theorem authorized_iff_updateGate (hq : env.Quiet) (s : Service) {w : ImsWorld}
    (hev : w.db.event.find? e = some ev) (entries : List NewJournalEntry) :
    Authorized env w s claims e n (journalOnly entries) ↔
      updateGate w.db claims e n (updatePayload ev e n (some (journalOnly entries))) = .ok () := by
  constructor
  · intro hauth
    cases hgate : updateGate w.db claims e n (updatePayload ev e n (some (journalOnly entries))) with
    | ok u => rfl
    | error err =>
        have hanswer := answers_updateIncidentRPC_refused hq s claims hev hgate
        obtain ⟨hdenied, hmissing⟩ := hauth _ (hanswer.run_fst rfl)
        unfold updateGate at hgate
        split at hgate
        · split at hgate
          · cases hgate
            exact absurd rfl hmissing
          · split at hgate
            · cases hgate
            · cases hgate
              exact absurd rfl hmissing
        · cases hgate
          exact absurd rfl hdenied
  · intro hgate err herr
    obtain ⟨t, ht⟩ := run_updateIncidentRPC hq s claims hev hgate
    have hupdate : (Call.mapErr herrToConnect (updateIncident s
        (updatePayload ev e n (some (journalOnly entries))) claims.personID claims.admin)).Every
        anyAnswer anyOp (fun err => err.code = .internal) fun _ => True :=
      Call.every_mapErr (every_updateIncident_journalOnly (fun _ _ => rfl) s ev.name e n entries
        claims.personID claims.admin)
    rw [ht] at herr
    have hcode := Call.error_of_every (Call.every_bind hupdate fun _ _ =>
      Call.every_perform trivial fun _ _ => trivial) herr
    rw [hcode]
    exact ⟨by decide, by decide⟩

/-- A write of a report that carries entries and nothing else. -/
def entriesOnly (entries : List NewReportJournalEntry) : ReportWrite := { journalEntries := entries }

/-- `UpdateReport` does not turn the caller away. -/
def ReportAuthorized (env : ImsEnv) (w : ImsWorld) (s : Service) (claims : IMSClaims) (e n : Int)
    (r : ReportWrite) : Prop :=
  ∀ err, ((updateReport s (some claims) ⟨e, n, some r⟩).run imsDB env w).1 = .error err →
    err.code ≠ .permissionDenied ∧ err.code ≠ .notFound

/-- An error of a step behind the gates: an internal one, or an unknown person written for. -/
def PastGates (err : ConnectError) : Prop := err.code = .internal ∨ err.code = .invalidArgument

theorem pastGates_addEntry (err : SqlErr) :
    PastGates (herrToConnect (if isNoReferencedRow err then
        .badRequest "No such person for 'on behalf of'" (some err)
      else .internalServerError "Failed to create journal entry" err)) := by
  split
  · exact .inr rfl
  · exact .inl rfl

variable {A : ∀ β : Type, Op β → β → Prop}

theorem every_applyReportJournalEntry (s : Service) (e n author : Int) (entry : JournalEntryJSON) :
    (applyReportJournalEntry s e n author entry).Every A (writesIn anyWrite) PastGates
      fun _ => True := by
  have hinternal : ∀ msg x, PastGates (herrToConnect (.internalServerError msg x)) :=
    fun _ _ => .inl rfl
  have hadd : (addJournalEntry .txn e n author [.text entry.text] false
      entry.onBehalfOfPersonID).Every A (writesIn anyWrite) (fun err => PastGates (herrToConnect err))
        fun _ => True := by
    refine Call.every_bind (Q := fun _ => True) (every_now trivial fun _ => trivial) fun t _ => ?_
    refine Call.every_bind (Q := fun _ => True)
      (every_exec trivial pastGates_addEntry fun _ _ => trivial) fun id _ => ?_
    exact Call.every_bind (Q := fun _ => True)
      (every_exec trivial (hinternal _) fun _ _ => trivial) fun _ _ => Call.every_pure trivial
  refine Call.every_ite (fun _ => Call.every_pure trivial) fun _ => ?_
  refine Call.every_bind (Call.every_mapErr hadd) fun id _ => ?_
  refine Call.every_bind (Call.every_mapErr
    (every_addJournalEntryMentions (fun _ _ => trivial) hinternal s id _ _)) fun _ _ => ?_
  exact Call.every_mapErr (every_generateMentionNotificationsFor (fun _ => trivial) hinternal e none
    (some n) id author)

/-- The transaction of an update without a summary, and what follows it. -/
theorem every_writeEntries (s : Service) (event : EventRow) (n : Int) (stored : Report)
    (entries : List NewReportJournalEntry) (claims : IMSClaims) :
    (Call.deferRollback do
      let mentioned ← updateReportTxn s event.id n claims.personID stored
        (reportWriteToJSON (some (entriesOnly entries)))
      emit (.notifyMentionedInReport event.event.name n mentioned claims.personID)
      notifyReportUpdate event.id n).Every A anyOp PastGates fun _ => True := by
  have hinternal : ∀ msg x, PastGates (internalError msg x) := fun _ _ => .inl rfl
  have lift : ∀ {α : Type} {x : Go ConnectError α},
      x.Every A (writesIn anyWrite) PastGates (fun _ => True) →
        x.Every A anyOp PastGates fun _ => True := fun h =>
    h.mono (fun _ _ _ h => h) (fun _ _ _ => trivial) (fun _ h => h) fun _ h => h
  refine Call.every_deferRollback trivial ?_
  refine Call.every_bind (Q := fun _ => True) ?_ fun mentioned _ => ?_
  · refine Call.every_bind (Q := fun _ => True) (Call.every_pure trivial) fun _ _ => ?_
    refine Call.every_bind (Q := fun _ => True)
      (every_exec trivial (hinternal _) fun _ _ => trivial) fun _ _ => ?_
    refine Call.every_bind (Call.every_concatMap fun entry _ =>
      lift (every_applyReportJournalEntry s event.id n claims.personID entry)) fun _ _ => ?_
    refine Call.every_bind (Q := fun _ => True)
      (Call.every_mapErr (Call.every_attempt trivial (fun x _ => hinternal _ x)
        fun _ _ => trivial)) fun _ _ => Call.every_pure trivial
  · refine Call.every_bind (lift (every_emit _)) fun _ _ => ?_
    exact lift (every_notifyReportUpdate event.id n)

/-- Adding an entry to the report: the write-all bit, or the write-own bit of its creator. -/
def mayAddReportEntry (db : DB) (claims : IMSClaims) (e n : Int) : Bool :=
  hasBit (eventMaskIn db e claims) (eventWriteAllReports ||| eventWriteOwnReports) &&
    (db.report.find? (e, n)).any fun r =>
      hasBit (eventMaskIn db e claims) eventWriteAllReports || r.createdBy == some claims.personID

theorem writeAllReports_of_admin (ha : claims.admin = true) (e : Int) :
    hasBit (eventMaskIn db e claims) eventWriteAllReports = true := by
  rw [eventMaskIn, if_pos ha]
  decide

theorem answers_reportWriteContext (hq : env.Quiet) (claims : IMSClaims)
    (hev : db.event.find? e = some ev) :
    (reportWriteContext e claims).Answers imsDB env db
      (if hasBit (eventMaskIn db e claims) (eventWriteAllReports ||| eventWriteOwnReports) then
        .ok (⟨e, ev⟩, eventMaskIn db e claims)
      else .error ⟨.permissionDenied,
        "the requestor does not have permission to write Reports on this Event"⟩) := by
  refine (answers_fetchEvent hq hev).bind ?_
  refine (answers_permissionsAt hq e claims).bind ?_
  exact answers_ensure_bind (Call.answers_pure _)

theorem answers_fetchStoredReport (db : DB) (hq : env.Quiet) (e n : Int) :
    (fetchStoredReport e n).Answers imsDB env db
      (match db.report.find? (e, n) with
        | none => .error ⟨.notFound, "report does not exist"⟩
        | some r => .ok (db.reportRow e n r)) := by
  have hrow : (fetchStoredReport e n).Answers imsDB env db _ :=
    answers_select hq (.report e n) _
  rw [Read.eval] at hrow
  cases hr : db.report.find? (e, n) with
  | none => rw [hr] at hrow; exact hrow
  | some r => rw [hr] at hrow; exact hrow

theorem answers_requireReportOwner (db : DB) (hq : env.Quiet) (claims : IMSClaims) (e n : Int)
    (r : Report) : (requireReportOwner e n r (eventMaskIn db e claims) claims).Answers imsDB env db
      (if hasBit (eventMaskIn db e claims) eventWriteAllReports ||
          r.createdBy == some claims.personID || authored db e n claims.handle true then .ok ()
      else .error ⟨.permissionDenied,
        "the requestor does not have permission to edit this Report"⟩) := by
  unfold requireReportOwner
  cases hasBit (eventMaskIn db e claims) eventWriteAllReports ||
      r.createdBy == some claims.personID with
  | true => exact Call.answers_pure ()
  | false =>
      have hauthor : (isPreviousReportAuthor e n claims.handle).Answers imsDB env db
          (.ok (authored db e n claims.handle true)) := by
        rw [authored, reportEntryRows_true]
        exact (answers_select hq (.reportJournalEntries e n) _).bind (Call.answers_pure _)
      exact hauthor.bind (Call.answers_ensure _ _)

/-- Whoever may not add an entry is told so. -/
theorem answers_updateReport_refused (hq : env.Quiet) (s : Service)
    (hev : db.event.find? e = some ev) (hmay : mayAddReportEntry db claims e n = false)
    {entry : NewReportJournalEntry} (hentry : entry.text ≠ "") :
    ∃ err, (updateReport s (some claims) ⟨e, n, some (entriesOnly [entry])⟩).Answers imsDB env db
      (.error err) ∧ (err.code = .permissionDenied ∨ err.code = .notFound) := by
  have hcontext := answers_reportWriteContext hq claims hev
  have hstored := answers_fetchStoredReport db hq e n
  unfold mayAddReportEntry at hmay
  cases hwrite : hasBit (eventMaskIn db e claims) (eventWriteAllReports ||| eventWriteOwnReports) with
  | false =>
      rw [hwrite, if_neg Bool.false_ne_true] at hcontext
      exact ⟨_, (answers_authenticated claims).bind hcontext.bind_error, .inl rfl⟩
  | true =>
      rw [hwrite, if_pos rfl] at hcontext
      cases hr : db.report.find? (e, n) with
      | none =>
          rw [hr] at hstored
          refine ⟨⟨.notFound, "report does not exist"⟩,
            (answers_authenticated claims).bind (hcontext.bind ?_), .inr rfl⟩
          exact hstored.bind_error
      | some r =>
          rw [hwrite, hr, Bool.true_and, Option.any_some] at hmay
          rw [hr] at hstored
          have howner := answers_requireReportOwner db hq claims e n r
          rw [hmay, Bool.false_or] at howner
          cases hauthor : authored db e n claims.handle true with
          | false =>
              rw [hauthor, if_neg Bool.false_ne_true] at howner
              refine ⟨⟨.permissionDenied,
                "the requestor does not have permission to edit this Report"⟩,
                (answers_authenticated claims).bind (hcontext.bind ?_), .inl rfl⟩
              exact hstored.bind howner.bind_error
          | true =>
              rw [hauthor, if_pos rfl] at howner
              obtain ⟨hall, hcreator⟩ := Bool.or_eq_false_iff.mp hmay
              have hadmin : claims.admin = false := by
                cases ha : claims.admin with
                | false => rfl
                | true => rw [writeAllReports_of_admin ha] at hall; cases hall
              have hrights : reportEditRights r claims.personID claims.admin
                  (eventMaskIn db e claims) = (false, false) := by
                rw [reportEditRights, hadmin, hall, hcreator]
                rfl
              have hadds : addsEntry (reportWriteToJSON (some (entriesOnly [entry]))) = true := by
                simpa [addsEntry, reportWriteToJSON, entriesOnly] using hentry
              refine ⟨⟨.permissionDenied,
                "only the report's creator, a writer, or an admin may add journal entries"⟩,
                (answers_authenticated claims).bind (hcontext.bind ?_), .inl rfl⟩
              refine hstored.bind (howner.bind ?_)
              refine Call.Answers.bind (a := ()) (Call.answers_pure ()) ?_
              have hedit : (requireEditRights r (reportWriteToJSON (some (entriesOnly [entry])))
                  (eventMaskIn db e claims) claims).Answers imsDB env db (.error ⟨.permissionDenied,
                    "only the report's creator, a writer, or an admin may add journal entries"⟩) := by
                unfold requireEditRights
                rw [hrights, hadds]
                exact (Call.answers_ensure true _).bind (Call.answers_ensure false _)
              have hdo : (!(reportWriteToJSON (some (entriesOnly [entry]))).summary.isSome &&
                  !addsEntry (reportWriteToJSON (some (entriesOnly [entry])))) = false := by
                rw [hadds, Bool.not_true, Bool.and_false]
              rw [editReport, if_neg (by rw [hdo]; exact Bool.false_ne_true)]
              exact hedit.bind_error

/-- Whoever may add an entry gets past the gates. -/
theorem reportAuthorized_of_mayAdd (hq : env.Quiet) (s : Service) {w : ImsWorld}
    (hev : w.db.event.find? e = some ev) (hmay : mayAddReportEntry w.db claims e n = true)
    (entries : List NewReportJournalEntry) :
    ReportAuthorized env w s claims e n (entriesOnly entries) := by
  have hcontext := answers_reportWriteContext hq claims hev
  have hstored := answers_fetchStoredReport w.db hq e n
  rw [mayAddReportEntry, Bool.and_eq_true, Option.any_eq_true] at hmay
  obtain ⟨hwrite, r, hr, hmay⟩ := hmay
  rw [hwrite, if_pos rfl] at hcontext
  rw [hr] at hstored
  have howner := answers_requireReportOwner w.db hq claims e n r
  rw [hmay, Bool.true_or, if_pos rfl] at howner
  have hrun : ∃ t, (updateReport s (some claims) ⟨e, n, some (entriesOnly entries)⟩).run imsDB env
      w = (editReport s ⟨e, ev⟩ n r (reportWriteToJSON (some (entriesOnly entries)))
        (eventMaskIn w.db e claims) claims).run imsDB env { w with tick := t } := by
    obtain ⟨t₁, h₁⟩ := hcontext.run_bind (w := w) rfl
    obtain ⟨t₂, h₂⟩ := hstored.run_bind (w := { w with tick := t₁ }) rfl
    obtain ⟨t₃, h₃⟩ := howner.run_bind (w := { w with tick := t₂ }) rfl
    exact ⟨t₃, h₁.trans (h₂.trans h₃)⟩
  obtain ⟨t, ht⟩ := hrun
  have hedit : (editReport s ⟨e, ev⟩ n r (reportWriteToJSON (some (entriesOnly entries)))
      (eventMaskIn w.db e claims) claims).Every anyAnswer anyOp PastGates fun _ => True := by
    refine Call.every_ite (fun _ => Call.every_pure trivial) fun _ => ?_
    have hrights : (reportEditRights r claims.personID claims.admin
        (eventMaskIn w.db e claims)).2 = true := by
      show (claims.admin || _ || _) = true
      rw [Bool.or_assoc, hmay, Bool.or_true]
    refine Call.every_bind (Q := fun _ => True) ?_ fun _ _ => ?_
    · refine Call.every_bind (Q := fun _ => True) (Call.every_pure trivial) fun _ _ => ?_
      rw [hrights, Bool.or_true]
      exact Call.every_pure trivial
    · refine Call.every_bind (Q := fun _ => True) ?_ fun _ _ =>
        every_writeEntries s ⟨e, ev⟩ n r entries claims
      exact Call.every_mapErr (Call.every_attempt trivial (fun _ _ => .inl rfl) fun _ _ => trivial)
  intro err herr
  rw [ht] at herr
  have hpast : PastGates err := Call.error_of_every hedit herr
  rcases hpast with hcode | hcode <;> rw [hcode] <;> exact ⟨by decide, by decide⟩

/-- The entry path of a report: who is authorized to add one entry. -/
theorem reportAuthorized_iff (hq : env.Quiet) (s : Service) {w : ImsWorld}
    (hev : w.db.event.find? e = some ev) {entry : NewReportJournalEntry} (hentry : entry.text ≠ "") :
    ReportAuthorized env w s claims e n (entriesOnly [entry]) ↔
      mayAddReportEntry w.db claims e n = true := by
  refine ⟨fun hauth => ?_, fun hmay => reportAuthorized_of_mayAdd hq s hev hmay [entry]⟩
  cases hmay : mayAddReportEntry w.db claims e n with
  | true => rfl
  | false =>
      obtain ⟨err, hanswer, hcode⟩ := answers_updateReport_refused hq s hev hmay hentry
      obtain ⟨hdenied, hmissing⟩ := hauth err (hanswer.run_fst rfl)
      exact absurd hcode (not_or.mpr ⟨hdenied, hmissing⟩)

end Updates

/-! ## The gates of the uploads -/

section Gates

variable {env : ImsEnv}

/-- The gate before the incident is read: whether a grant was looked up and found. -/
def uploadGate (write grant : Bool) : Except HTTPError Bool :=
  if write then .ok false
  else if grant then .ok true
  else .error (.forbidden "The requestor does not have EventWriteIncidents permission on this Event")

theorem answers_uploadWriteOrGrant (hq : env.Quiet) (write : Bool) (e n person : Int) :
    (uploadWriteOrGrant write e n person).Answers imsDB env db
      (uploadGate write (db.hasGrant e n person)) := by
  unfold uploadWriteOrGrant uploadGate
  cases write with
  | true => exact Call.answers_pure false
  | false =>
      refine (answers_select hq (.incidentPersonHasGrant e n person) _).bind ?_
      show (Call.ensure (db.hasGrant e n person) _ >>= _).Answers imsDB env db _
      cases db.hasGrant e n person with
      | true => exact (Call.answers_ensure true _).bind (Call.answers_pure true)
      | false => exact (Call.answers_ensure false _).bind_error

/-- The half of the gate that reads the incident. -/
def uploadPrivacy (db : DB) (claims : IMSClaims) (e n : Int) (granted : Bool) :
    Except HTTPError Unit :=
  match db.incident.find? (e, n) with
  | none => .error (.notFound "Incident not found" none)
  | some i => downloadPrivacy (readFacts db claims e n i) granted

/-- What the incident upload answers before the form. -/
def uploadAnswer (db : DB) (claims : IMSClaims) (e n : Int) : Except HTTPError Unit :=
  (uploadGate (hasBit (eventMaskIn db e claims) eventWriteIncidents)
    (db.hasGrant e n claims.personID)).bind (uploadPrivacy db claims e n)

theorem answers_authorizeIncidentUpload (hq : env.Quiet) (claims : IMSClaims) (e n : Int) :
    (authorizeIncidentUpload e n (eventMaskIn db e claims) claims).Answers imsDB env db
      (uploadAnswer db claims e n) := by
  refine (answers_uploadWriteOrGrant hq _ e n claims.personID).bind_except fun granted _ => ?_
  have hrow : (select .pool (.incident e n) fun err =>
      if err = .noRows then HTTPError.notFound "Incident not found" none
      else .internalServerError "Failed to fetch Incident" err).Answers imsDB env db _ :=
    answers_select hq (.incident e n) _
  rw [Read.eval] at hrow
  unfold uploadPrivacy
  cases hi : db.incident.find? (e, n) with
  | none =>
      rw [hi] at hrow
      exact hrow.bind_error
  | some i =>
      rw [hi] at hrow
      exact hrow.bind (answers_downloadPrivateAccess hq claims e n i granted)

/-- The write bit or a grant, and a view of the incident. -/
theorem uploadGate_bind_downloadPrivacy (f : ReadFacts) :
    (uploadGate f.write f.grant).bind (downloadPrivacy f) = .ok () ↔
      (f.write || f.grant) = true ∧ (!f.isPrivate || f.admin || f.creator || f.grant) = true := by
  obtain ⟨read, write, grant, admin, creator, isPrivate⟩ := f
  cases write <;> cases grant <;> cases admin <;> cases creator <;> cases isPrivate <;>
    simp [uploadGate, downloadPrivacy, Except.bind]

theorem updateGate_eq_ok_iff {inc : IncidentJSON} :
    updateGate db claims e n inc = .ok () ↔ mayWriteIncident db claims e n inc = true ∧
      ∃ i, db.incident.find? (e, n) = some i ∧ incidentVisible db claims e n i = true := by
  unfold updateGate
  cases mayWriteIncident db claims e n inc <;> cases db.incident.find? (e, n) <;> simp

/-- The incident upload's gate is that of an update with one entry. -/
theorem uploadAnswer_iff_updateGate (db : DB) (claims : IMSClaims) (e n : Int) (ev : Event)
    (entry : NewJournalEntry) : uploadAnswer db claims e n = .ok () ↔
      updateGate db claims e n (updatePayload ev e n (some (journalOnly [entry]))) = .ok () := by
  rw [updateGate_eq_ok_iff, mayWriteIncident_journalOnly (List.cons_ne_nil entry []), uploadAnswer]
  unfold uploadPrivacy
  cases db.incident.find? (e, n) with
  | none => cases uploadGate _ _ <;> simp [Except.bind]
  | some i =>
      have hfacts := uploadGate_bind_downloadPrivacy (readFacts db claims e n i)
      refine hfacts.trans (and_congr_right fun _ => ?_)
      exact ⟨fun h => ⟨i, rfl, h⟩, fun ⟨j, hj, h⟩ => by cases hj; exact h⟩

/-- The ownership floor of the report upload. -/
def mayUploadToReport (db : DB) (claims : IMSClaims) (e n : Int) : Bool :=
  (db.report.find? (e, n)).any fun r =>
    hasBit (eventMaskIn db e claims) eventReadAllReports || r.createdBy == some claims.personID ||
      authored db e n claims.handle true

theorem answers_authorizeReportUpload (hq : env.Quiet) (s : Service) (db : DB) (claims : IMSClaims)
    (e n : Int) : ∃ r, (authorizeReportUpload s e n (eventMaskIn db e claims) claims).Answers imsDB
      env db r ∧ ((∃ row, r = .ok row) ↔ mayUploadToReport db claims e n = true) := by
  unfold mayUploadToReport
  cases hr : db.report.find? (e, n) with
  | none =>
      exact ⟨_, (answers_fetchReport_none hq s s.attachmentsEnabled hr).bind_error, by simp⟩
  | some r =>
      refine ⟨_, (answers_fetchReport hq s s.attachmentsEnabled hr).bind
        (answers_ensure_bind (Call.answers_pure _)), ?_⟩
      have hrow : (db.reportRow e n r).report = r := rfl
      rw [ownsReport, containsAuthor_reportTimeline, hrow, Option.any_some, Bool.or_assoc]
      split <;> simp_all

end Gates

/-! ## The uploads -/

section Uploads

variable {env : UploadEnv} {w : UploadWorld} {svc : UploadService File} {req : UploadRequest File}

/-- The request names the event and the record. -/
structure UploadRequest.Names (req : UploadRequest File) (sortKey : String → String) (db : DB)
    (event : EventRow) (n : Int) : Prop where
  eventName : req.eventName ≠ ""
  event : db.eventNamed sortKey req.eventName = some event
  record : parseInt32 req.recordNumber = some n

/-- The incident upload gets as far as looking at the form. -/
def IncidentUploadPasses (sortKey : String → String) (env : UploadEnv) (w : UploadWorld)
    (claims : IMSClaims) (req : UploadRequest File) : Prop :=
  ∃ found, ((incidentUploadAccess claims req.eventName req.recordNumber).run (uploadDB sortKey) env
    w).1 = .ok found

/-- The report upload gets as far as looking at the form. -/
def ReportUploadPasses (sortKey : String → String) (env : UploadEnv) (w : UploadWorld)
    (svc : UploadService File) (claims : IMSClaims) (req : UploadRequest File) : Prop :=
  ∃ found, ((reportUploadAccess svc claims req.eventName req.recordNumber).run (uploadDB sortKey)
    env w).1 = .ok found

theorem answers_uploadPreamble (hq : env.Quiet) (claims : IMSClaims)
    (hreq : req.Names sortKey db ⟨e, ev⟩ n) :
    (Call.widen (getEventPermissions req.eventName claims) : UploadGo HTTPError _).Answers
      (uploadDB sortKey) env db (.ok (⟨e, ev⟩, eventMaskIn db e claims)) := by
  have hnarrow : env.narrow.Quiet := fun t => hq t
  have hone : parseInt32 "1" = some 1 := by decide
  have hnames : AttachmentRequest.Names ⟨req.eventName, req.recordNumber, "1"⟩ sortKey db ⟨e, ev⟩ n
      1 := ⟨hreq.eventName, hreq.event, hreq.record, hone⟩
  exact Call.Answers.widen (answers_getEventPermissions hnarrow claims hnames)

theorem answers_uploadNumber (hreq : req.Names sortKey db ⟨e, ev⟩ n) (message : String) :
    (Call.widen (parsePathValue req.recordNumber message) : UploadGo HTTPError Int).Answers
      (uploadDB sortKey) env db (.ok n) :=
  Call.Answers.widen (answers_parsePathValue hreq.record message)

theorem answers_inUpload {ε α : Type} {x : Go ε α} {r : Except ε α}
    (hx : x.Answers imsDB env.narrow.narrow db r) :
    (inUpload x).Answers (uploadDB sortKey) env db r :=
  Call.Answers.widen (answers_inDownload hx)

theorem answers_incidentUploadAccess (hq : env.Quiet) (claims : IMSClaims)
    (hreq : req.Names sortKey db ⟨e, ev⟩ n) :
    (incidentUploadAccess claims req.eventName req.recordNumber).Answers (uploadDB sortKey) env db
      ((uploadAnswer db claims e n).map fun _ => (e, n)) := by
  have hnarrow : env.narrow.narrow.Quiet := fun t => hq t
  refine (answers_uploadPreamble hq claims hreq).bind ?_
  refine (answers_uploadNumber hreq _).bind ?_
  exact (answers_inUpload (answers_authorizeIncidentUpload hnarrow claims e n)).bind_except
    fun _ _ => Call.answers_pure (e, n)

theorem incidentUploadPasses_iff (hq : env.Quiet) (claims : IMSClaims)
    (hreq : req.Names sortKey w.db ⟨e, ev⟩ n) :
    IncidentUploadPasses sortKey env w claims req ↔ uploadAnswer w.db claims e n = .ok () := by
  rw [IncidentUploadPasses, (answers_incidentUploadAccess hq claims hreq).run_fst rfl]
  cases uploadAnswer w.db claims e n <;> simp [Except.map]

theorem reportUploadPasses_iff (hq : env.Quiet) (claims : IMSClaims)
    (hreq : req.Names sortKey w.db ⟨e, ev⟩ n) :
    ReportUploadPasses sortKey env w svc claims req ↔
      hasBit (eventMaskIn w.db e claims) (eventWriteAllReports ||| eventWriteOwnReports) = true ∧
        mayUploadToReport w.db claims e n = true := by
  have hnarrow : env.narrow.narrow.Quiet := fun t => hq t
  have hpreamble : (Call.widen (getEventPermissions req.eventName claims) :
      UploadGo HTTPError _).Answers (uploadDB sortKey) env w.db _ :=
    answers_uploadPreamble hq claims hreq
  obtain ⟨r, hgate, hiff⟩ := answers_authorizeReportUpload hnarrow svc.reads w.db claims e n
  rw [← hiff, ReportUploadPasses]
  cases hbit : hasBit (eventMaskIn w.db e claims) (eventWriteAllReports ||| eventWriteOwnReports) with
  | false =>
      have hanswer : (reportUploadAccess svc claims req.eventName req.recordNumber).Answers
          (uploadDB sortKey) env w.db (.error (.forbidden
            "The requestor does not have permission to write Reports on this Event")) := by
        refine hpreamble.bind ?_
        dsimp only
        rw [hbit]
        exact (Call.answers_ensure false _).bind_error
      rw [hanswer.run_fst rfl]
      simp
  | true =>
      have hanswer : (reportUploadAccess svc claims req.eventName req.recordNumber).Answers
          (uploadDB sortKey) env w.db (r.map fun row => (e, n, row)) := by
        refine hpreamble.bind ?_
        dsimp only
        rw [hbit]
        refine (Call.answers_ensure true _).bind ?_
        refine (answers_uploadNumber hreq _).bind ?_
        exact (answers_inUpload hgate).bind_except fun row _ => Call.answers_pure (e, n, row)
      rw [hanswer.run_fst rfl]
      cases r <;> simp [Except.map]

/-- The read-all and the write-all bit of the reports go together. -/
theorem readAllReports_eq_writeAllReports (db : DB) (e : Int) (claims : IMSClaims) :
    hasBit (eventMaskIn db e claims) eventReadAllReports =
      hasBit (eventMaskIn db e claims) eventWriteAllReports := by
  simp only [eventMaskIn]
  split
  · decide
  · rcases participationIn db e claims.personID with _ | _ | _ | _ | _ | _ | _ | _ <;>
      cases (db.crewsLedBy e claims.personID).isEmpty <;> decide

/-- The caller wrote on the report without being its creator, and holds the write-own bit only. -/
def OnlyPreviousAuthor (db : DB) (claims : IMSClaims) (e n : Int) : Bool :=
  hasBit (eventMaskIn db e claims) eventWriteOwnReports &&
    !hasBit (eventMaskIn db e claims) eventWriteAllReports &&
    authored db e n claims.handle true &&
    (db.report.find? (e, n)).any fun r => r.createdBy != some claims.personID

/-- The report upload lets one more kind of caller through than the edit path. -/
theorem uploadAgrees_iff (db : DB) (claims : IMSClaims) (e n : Int) :
    (hasBit (eventMaskIn db e claims) (eventWriteAllReports ||| eventWriteOwnReports) = true ∧
        mayUploadToReport db claims e n = true ↔ mayAddReportEntry db claims e n = true) ↔
      OnlyPreviousAuthor db claims e n = false := by
  unfold mayUploadToReport mayAddReportEntry OnlyPreviousAuthor
  rw [readAllReports_eq_writeAllReports, hasBit_or]
  cases db.report.find? (e, n) with
  | none => simp
  | some r =>
      simp only [Option.any_some, bne]
      cases hasBit (eventMaskIn db e claims) eventWriteAllReports <;>
        cases hasBit (eventMaskIn db e claims) eventWriteOwnReports <;>
          cases r.createdBy == some claims.personID <;>
            cases authored db e n claims.handle true <;> simp

/-- For every database, caller and target that a request can name: the incident upload is authorized
exactly where an update with one entry is, and the report upload exactly where an update with one
entry is unless the caller is only a previous author of the report. -/
theorem uploads_follow_updates (sortKey : String → String) (env : UploadEnv) (hq : env.Quiet)
    (w : UploadWorld) (svc : UploadService File) (s : Service) (claims : IMSClaims)
    (req : UploadRequest File) (event : EventRow) (n : Int) (hreq : req.Names sortKey w.db event n) :
    (∀ entry, IncidentUploadPasses sortKey env w claims req ↔
      Authorized env.narrow.narrow w.bare.bare s claims event.id n (journalOnly [entry])) ∧
    ∀ entry : NewReportJournalEntry, entry.text ≠ "" →
      ((ReportUploadPasses sortKey env w svc claims req ↔
        ReportAuthorized env.narrow.narrow w.bare.bare s claims event.id n (entriesOnly [entry])) ↔
          OnlyPreviousAuthor w.db claims event.id n = false) := by
  obtain ⟨e, ev⟩ := event
  have hnarrow : env.narrow.narrow.Quiet := fun t => hq t
  have hev : w.bare.bare.db.event.find? e = some ev := find?_of_eventNamed hreq.event
  constructor
  · intro entry
    rw [incidentUploadPasses_iff hq claims hreq, authorized_iff_updateGate hnarrow s hev]
    exact uploadAnswer_iff_updateGate w.db claims e n ev entry
  · intro entry hentry
    rw [reportUploadPasses_iff hq claims hreq, reportAuthorized_iff hnarrow s hev hentry]
    exact uploadAgrees_iff w.db claims e n

end Uploads

/-! ## A previous author's photo -/

def gateNote : JournalEntry where
  authorPersonID := 7
  text := [.text "gate"]
  created := 0
  generated := false

/-- A reporter wrote on the report of someone else; their own report is bare. -/
def previousAuthorDB : DB :=
  { privateCreatorDB with
    report := (Table.empty.insert (1, 1) { created := 0, createdBy := some 8 }).insert (1, 2)
      { created := 0, createdBy := some 7 }
    journalEntry := Table.empty.insert 1 gateNote
    reportJournalEntry := Table.empty.insert (1, 1, 1) () }

/-- Uploads into a directory; a file is its own content. -/
def localUploads : UploadService String where
  storeType := .localDir
  maxAttachmentBytes := 100
  sniffFile := fun _ => .ok ("image/png", ".png")
  humanByteSize := fun size => toString size ++ "B"

def photoUpload (recordNumber : String) : UploadRequest String :=
  ⟨"fair", recordNumber, .ok ⟨"gate.png", 3, "PNG"⟩⟩

theorem uploads_follow_updates_bareReport :
    (ReportUploadPasses id stillUploadEnv { db := previousAuthorDB, nextId := 2 } localUploads
        ⟨7, "hub", false⟩ (photoUpload "2") ↔
      ReportAuthorized stillUploadEnv.narrow.narrow { db := previousAuthorDB, nextId := 2 } {}
        ⟨7, "hub", false⟩ 1 2 (entriesOnly [{ text := "photo" }])) ∧
    OnlyPreviousAuthor previousAuthorDB ⟨7, "hub", false⟩ 1 2 = false := by
  have hnames : (photoUpload "2").Names id previousAuthorDB ⟨1, ⟨"fair", false, none⟩⟩ 2 :=
    ⟨by decide, by decide, by decide⟩
  have hfollow := (uploads_follow_updates id stillUploadEnv (fun _ => rfl)
    { db := previousAuthorDB, nextId := 2 } localUploads {} ⟨7, "hub", false⟩ (photoUpload "2") _ 2
    hnames).2 { text := "photo" } (by decide)
  have honly : OnlyPreviousAuthor previousAuthorDB ⟨7, "hub", false⟩ 1 2 = false := by decide
  exact ⟨hfollow.mpr honly, honly⟩

/-- A previous author of another's report may upload to it, and may not add an entry. -/
theorem previousAuthor_uploads :
    ¬ ∀ (sortKey : String → String) (env : UploadEnv) (w : UploadWorld) (svc : UploadService String)
      (s : Service) (claims : IMSClaims) (req : UploadRequest String) (event : EventRow) (n : Int)
      (entry : NewReportJournalEntry), env.Quiet → req.Names sortKey w.db event n →
        entry.text ≠ "" → (ReportUploadPasses sortKey env w svc claims req ↔
          ReportAuthorized env.narrow.narrow w.bare.bare s claims event.id n
            (entriesOnly [entry])) := by
  intro hall
  have hnames : (photoUpload "1").Names id previousAuthorDB ⟨1, ⟨"fair", false, none⟩⟩ 1 :=
    ⟨by decide, by decide, by decide⟩
  have hquiet : stillUploadEnv.Quiet := fun _ => rfl
  have hagree := hall id stillUploadEnv { db := previousAuthorDB, nextId := 2 } localUploads {}
    ⟨7, "hub", false⟩ (photoUpload "1") _ 1 { text := "photo" } hquiet hnames (by decide)
  have hupload : ReportUploadPasses id stillUploadEnv { db := previousAuthorDB, nextId := 2 }
      localUploads ⟨7, "hub", false⟩ (photoUpload "1") :=
    (reportUploadPasses_iff (w := { db := previousAuthorDB, nextId := 2 }) hquiet _ hnames).mpr
      ⟨by decide, by decide⟩
  have hev : previousAuthorDB.event.find? 1 = some ⟨"fair", false, none⟩ := by decide
  have hnarrow : stillUploadEnv.narrow.narrow.Quiet := fun _ => rfl
  have hmay := (reportAuthorized_iff (w := { db := previousAuthorDB, nextId := 2 }) hnarrow {} hev
    (by decide)).mp (hagree.mp hupload)
  exact absurd hmay (by decide)

end OcfIms
