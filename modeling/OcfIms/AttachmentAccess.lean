import OcfIms.AttachmentRead
import OcfIms.IncidentVisibility
import OcfIms.ReportVisibility

/-!
# Downloads follow the read rule

The downloads restate the rules of `GetIncident` and `GetReport` in code of their own. They let the
same callers pass, and a file they serve hangs on an entry of the record they were asked for.
-/

namespace OcfIms

open TxnLib

variable {File : Type} {sortKey : String → String} {db : DB} {claims : IMSClaims} {e n : Int}
  {ev : Event}

/-! ## Incidents -/

section Incidents

variable {env : ImsEnv} {s : Service} {i : Incident}

/-- The error of the download for a caller it refuses. -/
def downloadRefusal (f : ReadFacts) : HTTPError :=
  if f.read || f.grant then .notFound "Incident not found" none
  else .forbidden "The requestor does not have EventReadIncidents permission on this Event"

/-- The event-level gate of the download. -/
def downloadGate (f : ReadFacts) : Except HTTPError Bool :=
  if f.read then .ok false
  else if f.grant then .ok true
  else .error (.forbidden "The requestor does not have EventReadIncidents permission on this Event")

theorem answers_downloadReadOrGrant (hq : env.Quiet) (person : Int) {f : ReadFacts}
    (hgrant : f.grant = db.hasGrant e n person) :
    (downloadReadOrGrant f.read e n person).Answers imsDB env db (downloadGate f) := by
  unfold downloadReadOrGrant downloadGate
  cases f.read with
  | true => exact Call.answers_pure false
  | false =>
      refine (answers_select hq (.incidentPersonHasGrant e n person) _).bind ?_
      rw [hgrant]
      cases db.hasGrant e n person with
      | true => exact (Call.answers_ensure true _).bind (Call.answers_pure true)
      | false => exact (Call.answers_ensure false _).bind_error

/-- The privacy rule of the download, given the grant its first gate found. -/
def downloadPrivacy (f : ReadFacts) (granted : Bool) : Except HTTPError Unit :=
  if f.isPrivate && !granted && !f.admin && !f.creator then
    if f.grant then .ok () else .error (.notFound "Incident not found" none)
  else .ok ()

theorem answers_downloadPrivateAccess (hq : env.Quiet) (claims : IMSClaims) (e n : Int)
    (i : Incident) (granted : Bool) :
    (downloadPrivateAccess (db.incidentRow e n i) granted claims).Answers imsDB env db
      (downloadPrivacy (readFacts db claims e n i) granted) := by
  unfold downloadPrivateAccess downloadPrivacy
  by_cases h : (i.isPrivate && !granted && !claims.admin &&
      !(i.createdBy == some claims.personID)) = true
  · rw [if_pos (by exact h), if_pos (by exact h)]
    refine (answers_select hq (.incidentPersonHasGrant e n claims.personID) _).bind ?_
    exact Call.answers_ensure (db.hasGrant e n claims.personID) _
  · rw [if_neg (by exact h), if_neg (by exact h)]
    exact Call.answers_pure ()

theorem downloadGate_bind_downloadPrivacy (f : ReadFacts) :
    (downloadGate f).bind (downloadPrivacy f) =
      if f.admits then .ok () else .error (downloadRefusal f) := by
  obtain ⟨read, write, grant, admin, creator, isPrivate⟩ := f
  cases read <;> cases grant <;> cases admin <;> cases creator <;> cases isPrivate <;> rfl

theorem answers_authorizeIncidentDownload (hq : env.Quiet) (s : Service) (claims : IMSClaims)
    (hi : db.incident.find? (e, n) = some i) :
    (authorizeIncidentDownload s e n (eventMaskIn db e claims) claims).Answers imsDB env db
      (if (readFacts db claims e n i).admits then .ok ()
      else .error (downloadRefusal (readFacts db claims e n i))) := by
  rw [← downloadGate_bind_downloadPrivacy]
  have hgate := answers_downloadReadOrGrant (f := readFacts db claims e n i) (e := e) (n := n) hq
    claims.personID rfl
  refine hgate.bind_except fun granted _ => ?_
  exact (answers_fetchIncident hq s hi).bind
    (answers_downloadPrivateAccess hq claims e n i granted)

theorem answers_fetchIncident_none (hq : env.Quiet) (s : Service)
    (hi : db.incident.find? (e, n) = none) :
    (fetchIncident s e n).Answers imsDB env db
      (.error (.notFound "Incident not found" (some .noRows))) := by
  have hrow : (select .pool (.incident e n) fun err =>
      if err = .noRows then HTTPError.notFound "Incident not found" (some err)
      else .internalServerError "Failed to fetch Incident" err).Answers imsDB env db _ :=
    answers_select hq (.incident e n) _
  rw [Read.eval, hi] at hrow
  exact hrow.bind_error

/-- An incident that is not stored is neither downloaded from nor read. -/
theorem authorizeIncidentDownload_none (hq : env.Quiet) (s : Service) (claims : IMSClaims)
    (hi : db.incident.find? (e, n) = none) :
    ∃ err, (authorizeIncidentDownload s e n (eventMaskIn db e claims) claims).Answers imsDB env db
      (.error err) := by
  let f : ReadFacts := ⟨hasBit (eventMaskIn db e claims) eventReadIncidents, false,
    db.hasGrant e n claims.personID, false, false, false⟩
  have hgate := answers_downloadReadOrGrant (f := f) (e := e) (n := n) hq claims.personID rfl
  cases hf : downloadGate f with
  | error err =>
      rw [hf] at hgate
      exact ⟨err, hgate.bind_error⟩
  | ok granted =>
      rw [hf] at hgate
      exact ⟨_, hgate.bind (answers_fetchIncident_none hq s hi).bind_error⟩

theorem not_getShows_of_none (hq : env.Quiet) (s : Service) {w : ImsWorld}
    (hev : w.db.event.find? e = some ev) (hi : w.db.incident.find? (e, n) = none) :
    ¬ GetShows env w s claims e n := by
  let f : ReadFacts := ⟨hasBit (eventMaskIn w.db e claims) eventReadIncidents, false,
    w.db.hasGrant e n claims.personID, false, false, false⟩
  have hgate := answers_requireReadOrGrant (f := f) (e := e) (n := n) hq claims.personID rfl
  have hanswer : ∃ err, (getIncident s (some claims) ⟨e, n⟩).Answers imsDB env w.db
      (.error err) := by
    cases hf : readGate f with
    | error err =>
        rw [hf] at hgate
        refine ⟨err, (answers_authenticated claims).bind ?_⟩
        refine (answers_fetchEvent hq hev).bind ?_
        exact (answers_permissionsAt hq e claims).bind hgate.bind_error
    | ok granted =>
        rw [hf] at hgate
        refine ⟨herrToConnect (.notFound "Incident not found" (some .noRows)),
          (answers_authenticated claims).bind ?_⟩
        refine (answers_fetchEvent hq hev).bind ?_
        refine (answers_permissionsAt hq e claims).bind (hgate.bind ?_)
        exact ((answers_fetchIncident_none hq s hi).mapErr herrToConnect).bind_error
  obtain ⟨err, hanswer⟩ := hanswer
  rintro ⟨v, hv⟩
  rw [hanswer.run_fst rfl] at hv
  cases hv

/-- The download is authorized exactly for whom the single read shows the incident. -/
theorem authorizeIncidentDownload_iff (hq : env.Quiet) (s s' : Service) {w : ImsWorld}
    (hev : w.db.event.find? e = some ev) :
    ∃ r, (authorizeIncidentDownload s' e n (eventMaskIn w.db e claims) claims).Answers imsDB env
      w.db r ∧ (r = .ok () ↔ GetShows env w s claims e n) := by
  cases hi : w.db.incident.find? (e, n) with
  | none =>
      obtain ⟨err, herr⟩ := authorizeIncidentDownload_none hq s' claims hi
      exact ⟨_, herr, by simp [not_getShows_of_none hq s hev hi]⟩
  | some i =>
      refine ⟨_, answers_authorizeIncidentDownload hq s' claims hi, ?_⟩
      rw [getShows_iff hq s hev hi]
      cases (readFacts w.db claims e n i).admits <;> simp

end Incidents

/-! ## Reports -/

section Reports

variable {env : ImsEnv} {r : Report}

theorem answers_fetchReport_none (hq : env.Quiet) (s : Service) (attachmentsEnabled : Bool)
    (hr : db.report.find? (e, n) = none) :
    (fetchReport s attachmentsEnabled e n).Answers imsDB env db
      (.error (.notFound "Report does not exist" (some .noRows))) := by
  have hrow : (select .pool (.report e n) fun err =>
      if err = .noRows then HTTPError.notFound "Report does not exist" (some err)
      else .internalServerError "Failed to fetch Report" err).Answers imsDB env db _ :=
    answers_select hq (.report e n) _
  rw [Read.eval, hr] at hrow
  exact hrow.bind_error

theorem answers_authorizeReportDownload (hq : env.Quiet) (s : Service) (claims : IMSClaims)
    (hr : db.report.find? (e, n) = some r) :
    (authorizeReportDownload s e n (eventMaskIn db e claims) claims).Answers imsDB env db
      (if mayReadReport db claims e n r (authored db e n claims.handle true) then .ok ()
      else .error
        (.forbidden "The requestor does not have permission to read this particular Report")) := by
  refine (answers_fetchReport hq s s.attachmentsEnabled hr).bind ?_
  dsimp only
  cases hall : hasBit (eventMaskIn db e claims) eventReadAllReports with
  | true =>
      rw [mayReadReport, hall, if_pos rfl]
      exact Call.answers_pure ()
  | false =>
      have hlimited := answers_mayReadLimitedReport (n := n) (r := r) hq hall
        (reportTimeline db s s.attachmentsEnabled e n)
      rw [containsAuthor_reportTimeline] at hlimited
      rw [if_neg Bool.false_ne_true]
      exact hlimited.bind (Call.answers_ensure _ _)

theorem not_getReportShows_of_none (hq : env.Quiet) (s : Service) {w : ImsWorld}
    (hev : w.db.event.find? e = some ev) (hr : w.db.report.find? (e, n) = none) :
    ¬ GetReportShows env w s claims e n := by
  have hfetch := (answers_fetchReport_none hq s s.attachmentsEnabled hr).mapErr herrToConnect
  have hanswer : ∃ err, (getReport s (some claims) ⟨e, n⟩).Answers imsDB env w.db
      (.error err) := by
    cases hmay : mayReadReports (eventMaskIn w.db e claims) with
    | false =>
        refine ⟨⟨.permissionDenied,
          "the requestor does not have permission to read Reports on this Event"⟩,
          (answers_authenticated claims).bind ?_⟩
        refine (answers_fetchEvent hq hev).bind ?_
        refine (answers_permissionsAt hq e claims).bind ?_
        rw [hmay]
        exact (Call.answers_ensure false _).bind_error
    | true =>
        refine ⟨herrToConnect (.notFound "Report does not exist" (some .noRows)),
          (answers_authenticated claims).bind ?_⟩
        refine (answers_fetchEvent hq hev).bind ?_
        refine (answers_permissionsAt hq e claims).bind ?_
        rw [hmay]
        exact (Call.answers_ensure true _).bind hfetch.bind_error
  obtain ⟨err, hanswer⟩ := hanswer
  rintro ⟨v, hv⟩
  rw [hanswer.run_fst rfl] at hv
  cases hv

/-- The download is authorized exactly for whom the single read shows the report. -/
theorem authorizeReportDownload_iff (hq : env.Quiet) (s s' : Service) {w : ImsWorld}
    (hev : w.db.event.find? e = some ev) :
    ∃ r, (authorizeReportDownload s' e n (eventMaskIn w.db e claims) claims).Answers imsDB env
      w.db r ∧ (mayReadReports (eventMaskIn w.db e claims) = true ∧ r = .ok () ↔
        GetReportShows env w s claims e n) := by
  cases hr : w.db.report.find? (e, n) with
  | none =>
      refine ⟨_, (answers_fetchReport_none hq s' s'.attachmentsEnabled hr).bind_error, ?_⟩
      simp [not_getReportShows_of_none hq s hev hr]
  | some report =>
      refine ⟨_, answers_authorizeReportDownload hq s' claims hr, ?_⟩
      rw [getReportShows_iff hq s hev hr]
      cases hmay : mayReadReport w.db claims e n report (authored w.db e n claims.handle true) with
      | true => simp [mayReadReports_of_mayReadReport hmay]
      | false => simp

end Reports

/-! ## The downloads -/

section Downloads

variable {env : AttachmentEnv} {w : AttachmentWorld} {svc : AttachmentService File}
  {req : AttachmentRequest} {a : Int}

/-- The request names the event, the record and the entry. -/
structure AttachmentRequest.Names (req : AttachmentRequest) (sortKey : String → String) (db : DB)
    (event : EventRow) (n a : Int) : Prop where
  eventName : req.eventName ≠ ""
  event : db.eventNamed sortKey req.eventName = some event
  record : parseInt32 req.recordNumber = some n
  attachment : parseInt32 req.attachmentNumber = some a

theorem find?_of_eventNamed {name : String} (h : db.eventNamed sortKey name = some ⟨e, ev⟩) :
    db.event.find? e = some ev := by
  rw [DB.eventNamed, Option.map_eq_some_iff] at h
  obtain ⟨row, hrow, heq⟩ := h
  cases heq
  exact Table.find?_eq_some_iff.mpr (List.mem_of_find?_eq_some hrow)

theorem answers_inDownload {ε α : Type} {x : Go ε α} {r : Except ε α}
    (hx : x.Answers imsDB env.narrow db r) :
    (inDownload x).Answers (attachmentDB sortKey) env db r :=
  Call.Answers.widen hx

theorem answers_queryEventID {ε : Type} (hq : env.Quiet) (name : String) (err : SqlErr → ε) :
    (queryEventID name err).Answers (attachmentDB sortKey) env db
      ((DB.one (db.eventNamed sortKey name)).mapError err) := by
  have hread : (Call.attempt (.read .pool (.inr (.queryEventID name))) :
      AttachmentGo SqlErr EventRow).Answers (attachmentDB sortKey) env db _ :=
    Call.answers_read (S := attachmentDB sortKey) (s := db) hq
      (Sum.inr (AttachmentQuery.queryEventID name))
  exact hread.mapErr err

theorem answers_getEventPermissions (hq : env.Quiet) (claims : IMSClaims)
    (hreq : req.Names sortKey db ⟨e, ev⟩ n a) :
    (getEventPermissions req.eventName claims).Answers (attachmentDB sortKey) env db
      (.ok (⟨e, ev⟩, eventMaskIn db e claims)) := by
  have hevent : (getEvent req.eventName).Answers (attachmentDB sortKey) env db
      (.ok ⟨e, ev⟩) := by
    have hquery : (queryEventID req.eventName fun err =>
        if err = .noRows then HTTPError.notFound "Event not found" (some err)
        else .internalServerError "Failed to fetch Event" err).Answers (attachmentDB sortKey) env db
          _ := answers_queryEventID hq req.eventName _
    rw [hreq.event] at hquery
    rw [getEvent, if_neg hreq.eventName]
    exact hquery
  have hnarrow : env.narrow.Quiet := fun t => hq t
  have hperms : (downloadPermissions e claims).Answers imsDB env.narrow db
      (.ok (eventMaskIn db e claims)) := by
    refine Call.Answers.bind (((reads_eventPermissions e claims).answers hnarrow).mapErr _) ?_
    simp only [eventMasks_get_singleton]
    exact Call.answers_pure _
  refine hevent.bind ?_
  exact (answers_inDownload hperms).bind (Call.answers_pure _)

theorem answers_parsePathValue {value : String} {number : Int} (h : parseInt32 value = some number)
    (message : String) :
    (parsePathValue value message).Answers (attachmentDB sortKey) env db (.ok number) := by
  rw [parsePathValue, h]
  exact Call.answers_pure number

/-- The incident download gets as far as looking for the file. -/
def IncidentDownloadPasses (sortKey : String → String) (env : AttachmentEnv) (w : AttachmentWorld)
    (svc : AttachmentService File) (claims : IMSClaims) (req : AttachmentRequest) : Prop :=
  ∃ found, ((incidentDownloadAccess svc claims req).run (attachmentDB sortKey) env w).1 = .ok found

/-- The report download gets as far as looking for the file. -/
def ReportDownloadPasses (sortKey : String → String) (env : AttachmentEnv) (w : AttachmentWorld)
    (svc : AttachmentService File) (claims : IMSClaims) (req : AttachmentRequest) : Prop :=
  ∃ found, ((reportDownloadAccess svc claims req).run (attachmentDB sortKey) env w).1 = .ok found

theorem answers_incidentDownloadAccess (hq : env.Quiet)
    (hreq : req.Names sortKey db ⟨e, ev⟩ n a) {r : Except HTTPError Unit}
    (hgate : (authorizeIncidentDownload svc.reads e n (eventMaskIn db e claims) claims).Answers
      imsDB env.narrow db r) :
    (incidentDownloadAccess svc claims req).Answers (attachmentDB sortKey) env db
      (r.map fun _ => (e, n, a)) := by
  refine (answers_getEventPermissions hq claims hreq).bind ?_
  refine (answers_parsePathValue hreq.record _).bind ?_
  refine (answers_parsePathValue hreq.attachment _).bind ?_
  exact (answers_inDownload hgate).bind_except fun _ _ => Call.answers_pure (e, n, a)

theorem answers_reportDownloadAccess (hq : env.Quiet)
    (hreq : req.Names sortKey db ⟨e, ev⟩ n a) {r : Except HTTPError Unit}
    (hgate : (authorizeReportDownload svc.reads e n (eventMaskIn db e claims) claims).Answers
      imsDB env.narrow db r) :
    (reportDownloadAccess svc claims req).Answers (attachmentDB sortKey) env db
      (if mayReadReports (eventMaskIn db e claims) then r.map fun _ => (e, n, a)
      else .error
        (.forbidden "The requestor does not have permission to read Reports on this Event")) := by
  refine (answers_getEventPermissions hq claims hreq).bind ?_
  dsimp only
  cases mayReadReports (eventMaskIn db e claims) with
  | false => exact (Call.answers_ensure false _).bind_error
  | true =>
      refine (Call.answers_ensure true _).bind ?_
      refine (answers_parsePathValue hreq.record _).bind ?_
      refine (answers_parsePathValue hreq.attachment _).bind ?_
      exact (answers_inDownload hgate).bind_except fun _ _ => Call.answers_pure (e, n, a)

/-- The file that was served is the attached file of the entry. -/
def ServesEntry (svc : AttachmentService File) (db : DB) (a : Int)
    (resp : AttachmentResponse File) : Prop :=
  ∃ je filename, db.journalEntry.find? a = some je ∧ je.attachedFile = some filename ∧
    retrieveFile svc.store filename = .ok resp.file

theorem find?_journalEntryRow {record id : Int} {row : JournalEntryRow}
    (h : db.journalEntryRow record id = some row) :
    row.id = id ∧ db.journalEntry.find? id = some row.journalEntry := by
  simp only [DB.journalEntryRow, Option.bind_eq_bind, Option.bind_eq_some_iff,
    Option.some.injEq] at h
  obtain ⟨je, hje, author, _, rfl⟩ := h
  exact ⟨rfl, hje⟩

theorem retrieveFile_of_serveFile {filename : String} {resp : AttachmentResponse File}
    (h : serveFile svc filename = .ok resp) : retrieveFile svc.store filename = .ok resp.file := by
  unfold serveFile at h
  cases hfile : retrieveFile svc.store filename with
  | error err => rw [hfile] at h; cases h
  | ok file =>
      rw [hfile] at h
      replace h : (svc.sniffFile file).bind (fun contentType => .ok
        ⟨file, svc.service.safeToPreviewContentType contentType⟩) = .ok resp := h
      cases htype : svc.sniffFile file with
      | error err => rw [htype] at h; cases h
      | ok contentType => rw [htype] at h; cases h; rfl

theorem filename_ne_of_retrieveFile {store : AttachmentsStore File} {filename : String}
    {file : File} (h : retrieveFile store filename = .ok file) : filename ≠ "" := by
  rintro rfl
  cases h

/-- A file that is served hangs on the entry asked for, which is one of those looked through. -/
theorem servesEntry_of_serveFile {ids : List Int} {resp : AttachmentResponse File}
    (h : serveFile svc (attachedFilename (ids.filterMap (db.journalEntryRow n)) a) = .ok resp) :
    a ∈ ids ∧ ServesEntry svc db a resp := by
  have hfile := retrieveFile_of_serveFile h
  have hne := filename_ne_of_retrieveFile hfile
  unfold attachedFilename at hfile hne
  cases hrow : (ids.filterMap (db.journalEntryRow n)).find? fun row => row.id == a with
  | none => rw [hrow] at hne; exact absurd rfl hne
  | some row =>
      rw [hrow] at hfile hne
      dsimp only at hfile hne
      have hmatch := List.find?_some hrow
      have hid : row.id = a := eq_of_beq hmatch
      obtain ⟨id, hmem, hentry⟩ := List.mem_filterMap.mp (List.mem_of_find?_eq_some hrow)
      obtain ⟨hsame, hje⟩ := find?_journalEntryRow hentry
      rw [hid] at hsame
      subst hsame
      cases hattached : row.journalEntry.attachedFile with
      | none => rw [hattached] at hne; exact absurd rfl hne
      | some filename =>
          rw [hattached] at hfile
          exact ⟨hmem, row.journalEntry, filename, hje, hattached, hfile⟩

theorem answers_liftExcept {ε α : Type} {env : ImsEnv} (r : Except ε α) :
    (liftExcept r).Answers imsDB env db r := by
  cases r with
  | ok a => exact Call.answers_pure a
  | error err => exact Call.answers_throw err

theorem answers_serveIncidentFile (hq : env.Quiet) (svc : AttachmentService File) (e n a : Int) :
    (inDownload (serveIncidentFile svc e n a)).Answers (attachmentDB sortKey) env db
      (serveFile svc (attachedFilename
        ((db.incidentEntriesOf e n).filterMap (db.journalEntryRow n)) a)) := by
  have hnarrow : env.narrow.Quiet := fun t => hq t
  refine answers_inDownload ?_
  exact (answers_select hnarrow (.incidentJournalEntries e n) _).bind (answers_liftExcept _)

theorem answers_serveReportFile (hq : env.Quiet) (svc : AttachmentService File) (e n a : Int) :
    (inDownload (serveReportFile svc e n a)).Answers (attachmentDB sortKey) env db
      (serveFile svc (attachedFilename
        ((db.reportEntriesOf e n).filterMap (db.journalEntryRow n)) a)) := by
  have hnarrow : env.narrow.Quiet := fun t => hq t
  refine answers_inDownload ?_
  exact (answers_select hnarrow (.reportJournalEntries e n) _).bind (answers_liftExcept _)

theorem answers_getIncidentAttachment (hq : env.Quiet) {r : Except HTTPError (Int × Int × Int)}
    (haccess : (incidentDownloadAccess svc claims req).Answers (attachmentDB sortKey) env db r) :
    (getIncidentAttachment svc claims req).Answers (attachmentDB sortKey) env db
      (r.bind fun found => serveFile svc (attachedFilename ((db.incidentEntriesOf found.1
        found.2.1).filterMap (db.journalEntryRow found.2.1)) found.2.2)) :=
  haccess.bind_except fun ⟨e, n, a⟩ _ => answers_serveIncidentFile hq svc e n a

theorem answers_getReportAttachment (hq : env.Quiet) {r : Except HTTPError (Int × Int × Int)}
    (haccess : (reportDownloadAccess svc claims req).Answers (attachmentDB sortKey) env db r) :
    (getReportAttachment svc claims req).Answers (attachmentDB sortKey) env db
      (r.bind fun found => serveFile svc (attachedFilename ((db.reportEntriesOf found.1
        found.2.1).filterMap (db.journalEntryRow found.2.1)) found.2.2)) :=
  haccess.bind_except fun ⟨e, n, a⟩ _ => answers_serveReportFile hq svc e n a

/-- For every event, record and entry that a request can name: the two downloads pass exactly where
the single read of the record answers the caller, and a file they serve is attached to the entry of
that record. -/
theorem downloads_follow_reads (sortKey : String → String) (env : AttachmentEnv) (hq : env.Quiet)
    (w : AttachmentWorld) (svc : AttachmentService File) (s : Service) (claims : IMSClaims)
    (req : AttachmentRequest) (event : EventRow) (n a : Int)
    (hreq : req.Names sortKey w.db event n a) :
    (IncidentDownloadPasses sortKey env w svc claims req ↔
      GetShows env.narrow w.bare s claims event.id n) ∧
    (ReportDownloadPasses sortKey env w svc claims req ↔
      GetReportShows env.narrow w.bare s claims event.id n) ∧
    (∀ resp, ((getIncidentAttachment svc claims req).run (attachmentDB sortKey) env w).1 =
      .ok resp → a ∈ w.db.incidentEntriesOf event.id n ∧ ServesEntry svc w.db a resp) ∧
    ∀ resp, ((getReportAttachment svc claims req).run (attachmentDB sortKey) env w).1 =
      .ok resp → a ∈ w.db.reportEntriesOf event.id n ∧ ServesEntry svc w.db a resp := by
  obtain ⟨e, ev⟩ := event
  have hnarrow : env.narrow.Quiet := fun t => hq t
  have hev : w.bare.db.event.find? e = some ev := find?_of_eventNamed hreq.event
  obtain ⟨ri, hincident, hiffIncident⟩ := @authorizeIncidentDownload_iff claims e n ev _ hnarrow s
    svc.reads w.bare hev
  obtain ⟨rr, hreport, hiffReport⟩ := @authorizeReportDownload_iff claims e n ev _ hnarrow s
    svc.reads w.bare hev
  have hincidentAccess := answers_incidentDownloadAccess hq hreq hincident
  have hreportAccess := answers_reportDownloadAccess hq hreq hreport
  refine ⟨?_, ?_, ?_, ?_⟩
  · rw [← hiffIncident, IncidentDownloadPasses, hincidentAccess.run_fst rfl]
    cases ri <;> simp [Except.map]
  · have hdb : w.bare.db = w.db := rfl
    rw [← hiffReport, ReportDownloadPasses, hreportAccess.run_fst rfl, hdb]
    cases mayReadReports (eventMaskIn w.db e claims) <;> cases rr <;> simp [Except.map]
  · intro resp hresp
    rw [(answers_getIncidentAttachment hq hincidentAccess).run_fst rfl] at hresp
    cases ri with
    | error err => cases hresp
    | ok u => exact servesEntry_of_serveFile hresp
  · intro resp hresp
    rw [(answers_getReportAttachment hq hreportAccess).run_fst rfl] at hresp
    split at hresp
    · cases rr with
      | error err => cases hresp
      | ok u => exact servesEntry_of_serveFile hresp
    · cases hresp

end Downloads

/-! ## A granted reporter downloads a photo -/

def gateMap : JournalEntry where
  authorPersonID := 7
  text := [.text "map"]
  created := 0
  generated := false
  attachedFile := some "map.png"

/-- The reporter of `privateCreatorDB`, and an entry with a file on the incident they were granted. -/
def photoDB : DB :=
  { privateCreatorDB with
    journalEntry := Table.empty.insert 1 gateMap
    incidentJournalEntry := Table.empty.insert (1, 2, 1) () }

/-- One file in a directory; a file is its own content. -/
def oneFile : AttachmentService String where
  store :=
    { type := .localDir
      openFile := fun name => if name = "map.png" then .ok "PNG" else .error .notExist
      getObject := fun _ => .error (.notFound "no bucket" none) }
  sniffFile := fun _ => .ok "image/png"

theorem downloads_follow_reads_photo :
    ∃ resp, ((getIncidentAttachment oneFile ⟨7, "hub", false⟩ ⟨"fair", "2", "1"⟩).run
        (attachmentDB id) stillAttachmentEnv { db := photoDB, nextId := 2 }).1 = .ok resp ∧
      1 ∈ photoDB.incidentEntriesOf 1 2 ∧ ServesEntry oneFile photoDB 1 resp := by
  have hnames : AttachmentRequest.Names ⟨"fair", "2", "1"⟩ id photoDB ⟨1, ⟨"fair", false, none⟩⟩ 2
      1 := ⟨by decide, by decide, by decide, by decide⟩
  have hfollow := downloads_follow_reads id stillAttachmentEnv (fun _ => rfl)
    { db := photoDB, nextId := 2 } oneFile {} ⟨7, "hub", false⟩ ⟨"fair", "2", "1"⟩ _ 2 1 hnames
  have hserved : ((getIncidentAttachment oneFile ⟨7, "hub", false⟩ ⟨"fair", "2", "1"⟩).run
      (attachmentDB id) stillAttachmentEnv { db := photoDB, nextId := 2 }).1 =
        .ok ⟨"PNG", "image/png"⟩ := by
    rfl
  exact ⟨_, hserved, hfollow.2.2.1 _ hserved⟩

end OcfIms
