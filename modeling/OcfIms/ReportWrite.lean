import OcfIms.IncidentWrite
import OcfIms.ReportRead

/-!
# Writing reports

`CreateReport`, `UpdateReport` and the strike of a report's entry. A report may be linked to an
incident of its event. The link is created with the row, reconciled on the pool before an update's
transaction, and mirrored onto both timelines; the update then writes the report's row from the copy
it read first.
-/

namespace OcfIms

open TxnLib

/-- The preamble of the report writes: the event and one of the two write bits. -/
def reportWriteContext (e : Int) (claims : IMSClaims) :
    Go ConnectError (EventRow × EventPermissionMask) := do
  let event ← fetchEvent e
  let perms ← permissionsAt event.id claims
  Call.ensure (hasBit perms (eventWriteAllReports ||| eventWriteOwnReports)) ⟨.permissionDenied,
    "the requestor does not have permission to write Reports on this Event"⟩
  pure (event, perms)

/-- A system entry on a report. -/
def addGeneratedReportEntry (c : Conn) (e n author : Int) (line : JournalLine) :
    Go ConnectError Unit := do
  let _ ← Call.mapErr herrToConnect (addJournalEntry c e n author [line] true none)

/-- A typed entry of a report, its mentions and their notifications; returns the people mentioned. -/
def applyReportJournalEntry (s : Service) (e n author : Int) (entry : JournalEntryJSON) :
    Go ConnectError (List Int) :=
  if entry.text = "" then pure []
  else do
    let entryID ← Call.mapErr herrToConnect
      (addJournalEntry .txn e n author [.text entry.text] false entry.onBehalfOfPersonID)
    Call.mapErr herrToConnect
      (addJournalEntryMentions s .txn entryID entry.text entry.mentionedPersonIDs)
    Call.mapErr herrToConnect (generateReportMentionNotifications .txn e n entryID author)

def applyReportJournalEntries (s : Service) (e n author : Int) (entries : List JournalEntryJSON) :
    Go ConnectError (List Int) :=
  Call.concatMap (applyReportJournalEntry s e n author) entries

/-- An unknown incident trips a foreign key; it is reported as such. -/
def linkError (message : String) (err : SqlErr) : ConnectError :=
  if isNoReferencedRow err then ⟨.notFound, "no such Incident"⟩ else internalError message err

/-! ## Creating -/

structure CreateReportRequest where
  eventId : Int
  report : Option ReportWrite := none
  deriving DecidableEq, Repr

/-- The summary line of a write that carries a summary. -/
def recordSummary (e n author : Int) (summary : Option String) : Go ConnectError Unit :=
  match summary with
  | none => pure ()
  | some text => addGeneratedReportEntry .txn e n author (.text ("Changed summary to: " ++ text))

/-- The link of a new report, on both timelines. -/
def recordLink (e n author : Int) (incident : Option Int) : Go ConnectError Unit :=
  match incident with
  | none => pure ()
  | some i => do
    addGeneratedReportEntry .txn e n author (.attachedToIncident i)
    addGeneratedIncidentEntry .txn e i author (.reportAdded n)

def createReportTxn (s : Service) (e n author : Int) (report : ReportJSON) (incident : Option Int) :
    Go ConnectError (List Int) := do
  recordSummary e n author report.summary
  recordLink e n author incident
  let mentioned ← applyReportJournalEntries s e n author report.journalEntries
  commit (internalError "failed to commit transaction")
  pure mentioned

/-- The incident that just gained a report, if there is one. -/
def announceLink (e : Int) (incident : Option Int) : Go ConnectError Unit :=
  match incident with
  | none => pure ()
  | some i => notifyIncidentUpdates e 0 i

/-- The incident a present value names: a positive number is one, anything else is none. -/
def targetIncident (desired : Int) : Option Int := if desired > 0 then some desired else none

/-- The number is reserved and the row inserted on the pool, its link included; the timelines and the
entries follow in a transaction. -/
def insertReport (s : Service) (event : EventRow) (author : Int) (report : ReportJSON) :
    Go ConnectError Int := do
  let incident := report.incident.bind targetIncident
  let n ← select .pool (.nextReportNumber event.id)
    (internalError "failed to find next report number")
  let created ← now
  exec .pool (.createReport event.id n (timeToFloat created) (textToSql report.summary) incident (some author))
    (linkError "failed to create report")
  begin (internalError "failed to begin transaction")
  Call.deferRollback do
    let mentioned ← createReportTxn s event.id n author report incident
    emit (.notifyMentionedInReport event.event.name n mentioned author)
    announceLink event.id incident
    notifyReportUpdate event.id n
    pure n

def createReport (s : Service) (caller : Option IMSClaims) (req : CreateReportRequest) :
    Go ConnectError Int := do
  let claims ← authenticated caller
  let (event, _) ← reportWriteContext req.eventId claims
  insertReport s event claims.personID (reportWriteToJSON req.report)

/-! ## Updating -/

structure UpdateReportRequest where
  eventId : Int
  reportNumber : Int
  report : Option ReportWrite := none
  deriving DecidableEq, Repr

def isPreviousReportAuthor (e n : Int) (handle : String) : Go ConnectError Bool := do
  let entries ← select .pool (.reportJournalEntries e n)
    (internalError "failed to fetch report journal entries")
  pure (entries.any (·.author.getD "" = handle))

/-- The ownership floor: write-all, the creator, or a previous author. -/
def requireReportOwner (e n : Int) (stored : Report) (perms : EventPermissionMask)
    (claims : IMSClaims) : Go ConnectError Unit :=
  if hasBit perms eventWriteAllReports || stored.createdBy == some claims.personID then pure ()
  else do
    let isPrevAuthor ← isPreviousReportAuthor e n claims.handle
    Call.ensure isPrevAuthor ⟨.permissionDenied,
      "the requestor does not have permission to edit this Report"⟩

/-- Mirror a detach onto the timeline of the incident the report was attached to. -/
def mirrorDetach (e n author : Int) (previous : Option Int) : Go ConnectError Unit :=
  match previous with
  | none => pure ()
  | some i => addGeneratedIncidentEntry .pool e i author (.reportRemoved n)

/-- The lines of a link change: on the report's timeline, and on that of the new incident, or of
the old one where the report is detached. -/
def recordLinkChange (e n author : Int) (previous target : Option Int) : Go ConnectError Unit :=
  match target with
  | some i => do
    addGeneratedReportEntry .pool e n author (.attachedToIncident i)
    addGeneratedIncidentEntry .pool e i author (.reportAdded n)
  | none => do
    addGeneratedReportEntry .pool e n author (.detachedFromIncident (previous.getD 0))
    mirrorDetach e n author previous

/-- Write a link that differs from the stored one, on the pool. -/
def changeReportLink (e n author : Int) (previous target : Option Int) : Go ConnectError Unit := do
  exec .pool (.attachReportToIncident e n target)
    (linkError "failed to attach report to incident")
  recordLinkChange e n author previous target
  notifyReportUpdate e n
  notifyIncidentUpdates e (previous.getD 0) (target.getD 0)

/-- An absent value leaves the link alone, and so does one that names the stored link. -/
def reconcileReportLink (e n author : Int) (stored : Report) (desired : Option Int) :
    Go ConnectError Unit :=
  match desired with
  | none => pure ()
  | some value =>
    if targetIncident value = stored.incidentNumber then pure ()
    else changeReportLink e n author stored.incidentNumber (targetIncident value)

def addsEntry (report : ReportJSON) : Bool := report.journalEntries.any (·.text ≠ "")

/-- The transaction of an update: the row is written from the stored copy, its incident included. -/
def updateReportTxn (s : Service) (e n author : Int) (stored : Report) (report : ReportJSON) :
    Go ConnectError (List Int) := do
  recordSummary e n author report.summary
  let summary := if report.summary.isSome then textToSql report.summary else stored.summary
  exec .txn (.updateReport e n summary stored.incidentNumber)
    (internalError "failed to update report")
  let mentioned ← applyReportJournalEntries s e n author report.journalEntries
  commit (internalError "failed to commit transaction")
  pure mentioned

/-- The edit rights an update with a summary or an entry needs. -/
def requireEditRights (stored : Report) (report : ReportJSON) (perms : EventPermissionMask)
    (claims : IMSClaims) : Go ConnectError Unit := do
  let rights := reportEditRights stored claims.personID claims.admin perms
  Call.ensure (!report.summary.isSome || rights.1) ⟨.permissionDenied,
    "only the report's creator or an admin may edit the summary"⟩
  Call.ensure (!addsEntry report || rights.2) ⟨.permissionDenied,
    "only the report's creator, a writer, or an admin may add journal entries"⟩

/-- The part of an update after the link: nothing for a request without summary and entry. -/
def editReport (s : Service) (event : EventRow) (n : Int) (stored : Report) (report : ReportJSON)
    (perms : EventPermissionMask) (claims : IMSClaims) : Go ConnectError Unit :=
  if !report.summary.isSome && !addsEntry report then pure ()
  else do
    requireEditRights stored report perms claims
    begin (internalError "failed to begin transaction")
    Call.deferRollback do
      let mentioned ← updateReportTxn s event.id n claims.personID stored report
      emit (.notifyMentionedInReport event.event.name n mentioned claims.personID)
      notifyReportUpdate event.id n

/-- The stored row of a report that must exist. -/
def fetchStoredReport (e n : Int) : Go ConnectError ReportRow :=
  select .pool (.report e n) fun err =>
    if err = .noRows then ⟨.notFound, "report does not exist"⟩
    else internalError "failed to fetch report" err

def updateReport (s : Service) (caller : Option IMSClaims) (req : UpdateReportRequest) :
    Go ConnectError Unit := do
  let claims ← authenticated caller
  let (event, perms) ← reportWriteContext req.eventId claims
  let report := reportWriteToJSON req.report
  let row ← fetchStoredReport event.id req.reportNumber
  requireReportOwner event.id req.reportNumber row.report perms claims
  reconcileReportLink event.id req.reportNumber claims.personID row.report report.incident
  editReport s event req.reportNumber row.report report perms claims

/-! ## Striking an entry -/

/-- A reporter may strike only their own entries. -/
def requireEntryAuthor (e n journalEntry : Int) (perms : EventPermissionMask)
    (claims : IMSClaims) : Go ConnectError Unit :=
  if hasBit perms eventWriteAllReports then pure ()
  else do
    let author ← select .pool (.reportJournalEntryAuthor e n journalEntry) fun err =>
      if err = .noRows then ⟨.notFound, "there is no such JournalEntry on this Report"⟩
      else internalError "failed to fetch journal entry author" err
    Call.ensure (author.getD "" = claims.handle) ⟨.permissionDenied,
      "the requestor may only strike their own journal entries"⟩

def strikeReportEntryTxn (e n journalEntry author : Int) (stricken : Bool) :
    Go ConnectError Unit := do
  exec .txn (.setReportJournalEntryStricken stricken e n journalEntry)
    (internalError "failed to set journal entry stricken")
  addGeneratedReportEntry .txn e n author (strikeLine stricken journalEntry)
  commit (internalError "failed to commit transaction")

def updateReportJournalEntry (caller : Option IMSClaims) (req : UpdateJournalEntryRequest) :
    Go ConnectError Unit := do
  let claims ← authenticated caller
  let (event, perms) ← reportWriteContext req.eventId claims
  let _ ← select .pool (.report event.id req.recordNumber) fun _ =>
    (⟨.notFound, "there is no Report for the provided ID"⟩ : ConnectError)
  match req.stricken with
  | none => pure ()
  | some stricken => do
    requireEntryAuthor event.id req.recordNumber req.journalEntryId perms claims
    begin (internalError "failed to begin transaction")
    Call.deferRollback do
      strikeReportEntryTxn event.id req.recordNumber req.journalEntryId claims.personID stricken
      notifyReportUpdate event.id req.recordNumber

/-! ## Requests that write records -/

/-- A request of one of the methods that create and edit incidents and reports. -/
inductive RecordRequest
  | createReport (req : CreateReportRequest)
  | updateReport (req : UpdateReportRequest)
  | createIncident (req : CreateIncidentRequest)
  | updateIncident (req : UpdateIncidentRequest)
  deriving DecidableEq, Repr

def RecordRequest.call (s : Service) (caller : Option IMSClaims) :
    RecordRequest → Go ConnectError Unit
  | .createReport req => OcfIms.createReport s caller req >>= fun _ => pure ()
  | .updateReport req => OcfIms.updateReport s caller req
  | .createIncident req => OcfIms.createIncident s caller req >>= fun _ => pure ()
  | .updateIncident req => updateIncidentRPC s caller req

end OcfIms
