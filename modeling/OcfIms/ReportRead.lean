import OcfIms.IncidentRead

/-!
# Reading reports

`GetReport` and `ListReports`. A caller without `EventReadAllReports` sees the reports they own and,
as a crew leader, those of their crews. Ownership is decided on whatever journal entries the method
happened to load.
-/

namespace OcfIms

open TxnLib

def containsAuthor (entries : List JournalEntryJSON) (author : String) : Bool :=
  entries.any (·.author = author)

/-- The creator owns a report, and so does everyone who wrote one of the entries. -/
def ownsReport (report : Report) (entries : List JournalEntryJSON) (callerPersonID : Int)
    (callerHandle : String) : Bool :=
  report.createdBy == some callerPersonID || containsAuthor entries callerHandle

/-- The reports of the crews the caller leads. -/
def crewReportNumberSet (e leader : Int) : Go HTTPError (List Int) :=
  select .pool (.crewLeaderReportNumbers e leader)
    (.internalServerError "Failed to scope crew reports")

/-- The half of the read gate that is about one report. -/
def mayReadLimitedReport (e n : Int) (report : Report) (entries : List JournalEntryJSON)
    (perms : EventPermissionMask) (callerPersonID : Int) (callerHandle : String) :
    Go HTTPError Bool :=
  if hasBit perms eventReadOwnReports && ownsReport report entries callerPersonID callerHandle then
    pure true
  else if hasBit perms eventReadCrewReports then do
    let crewReportNums ← crewReportNumberSet e callerPersonID
    pure (crewReportNums.contains n)
  else pure false

/-- Whether the caller may edit the summary, and whether they may add an entry. -/
def reportEditRights (report : Report) (callerPersonID : Int) (callerIsAdmin : Bool)
    (perms : EventPermissionMask) : Bool × Bool :=
  let isCreator := report.createdBy == some callerPersonID
  let isWriter := hasBit perms eventWriteAllReports
  (callerIsAdmin || isCreator, callerIsAdmin || isWriter || isCreator)

def reportToJSON (row : ReportRow) (entries : List JournalEntryJSON) (event : EventRow)
    (mayEdit : Bool × Bool) : ReportJSON where
  event := event.event.name
  number := row.number
  created := floatToTime row.report.created
  createdBy := createdByJSON row.report.createdBy row.createdByHandle row.createdByName
  summary := row.report.summary
  incident := row.report.incidentNumber
  journalEntries := entries
  mayEditSummary := mayEdit.1
  mayAddJournalEntry := mayEdit.2

/-- `fetchReport`: the row, and the journal with its mentions. -/
def fetchReport (s : Service) (attachmentsEnabled : Bool) (e n : Int) :
    Go HTTPError (ReportRow × List JournalEntryJSON) := do
  let row ← select .pool (.report e n) fun err =>
    if err = .noRows then .notFound "Report does not exist" (some err)
    else .internalServerError "Failed to fetch Report" err
  let entryRows ← select .pool (.reportJournalEntries e n)
    (.internalServerError "Failed to fetch Journal Entries")
  let mentionRows ← select .pool (.reportJournalEntryMentions e n)
    (.internalServerError "Failed to fetch journal entry mentions")
  let entries := entryRows.map fun r =>
    journalEntryToJSON s attachmentsEnabled r (onBehalfOfJSON r)
  pure (row, withMentions entries mentionRows)

/-- One of the three read bits. -/
def mayReadReports (perms : EventPermissionMask) : Bool :=
  hasBit perms (eventReadAllReports ||| eventReadOwnReports ||| eventReadCrewReports)

/-- The report-level gate of a caller without the read-all bit. -/
def requireReportReadable (e n : Int) (report : Report) (entries : List JournalEntryJSON)
    (perms : EventPermissionMask) (claims : IMSClaims) : Go ConnectError Unit :=
  if hasBit perms eventReadAllReports then pure ()
  else do
    let visible ← Call.mapErr herrToConnect
      (mayReadLimitedReport e n report entries perms claims.personID claims.handle)
    Call.ensure visible ⟨.permissionDenied,
      "the requestor does not have permission to access this particular Report"⟩

structure GetReportRequest where
  eventId : Int
  reportNumber : Int
  deriving DecidableEq, Repr

def getReport (s : Service) (caller : Option IMSClaims) (req : GetReportRequest) :
    Go ConnectError ReportView := do
  let claims ← authenticated caller
  let event ← fetchEvent req.eventId
  let perms ← permissionsAt event.id claims
  Call.ensure (mayReadReports perms) ⟨.permissionDenied,
    "the requestor does not have permission to read Reports on this Event"⟩
  let (row, entries) ← Call.mapErr herrToConnect
    (fetchReport s s.attachmentsEnabled event.id req.reportNumber)
  requireReportReadable event.id req.reportNumber row.report entries perms claims
  pure (reportViewFromJSON (reportToJSON row entries event
    (reportEditRights row.report claims.personID claims.admin perms)))

structure ListReportsRequest where
  eventId : Int
  excludeSystemEntries : Bool := false
  deriving DecidableEq, Repr

/-- The crew reports of a caller who holds the crew-read bit. -/
def crewReportsFor (e : Int) (perms : EventPermissionMask) (person : Int) :
    Go HTTPError (List Int) :=
  if hasBit perms eventReadCrewReports then crewReportNumberSet e person else pure []

/-- The reports of a list the caller may read. -/
def authorizedReports (e : Int) (perms : EventPermissionMask) (claims : IMSClaims)
    (entriesOf : Int → List JournalEntryJSON) (stored : List ReportRow) :
    Go ConnectError (List ReportRow) :=
  if hasBit perms eventReadAllReports then pure stored
  else do
    let crewReportNums ← Call.mapErr herrToConnect (crewReportsFor e perms claims.personID)
    pure (stored.filter fun r =>
      (hasBit perms eventReadOwnReports &&
        ownsReport r.report (entriesOf r.number) claims.personID claims.handle) ||
      crewReportNums.contains r.number)

def listReports (s : Service) (caller : Option IMSClaims) (req : ListReportsRequest) :
    Go ConnectError (List ReportView) := do
  let claims ← authenticated caller
  let event ← fetchEvent req.eventId
  let perms ← permissionsAt event.id claims
  Call.ensure (mayReadReports perms) ⟨.permissionDenied,
    "the requestor does not have permission to read Reports on this Event"⟩
  let entryRows ← select .pool (.reportsJournalEntries event.id (!req.excludeSystemEntries))
    (internalError "failed to get report journal entries")
  let entriesOf := fun n => (entryRows.filter (·.recordNumber = n)).map fun r =>
    journalEntryToJSON s s.attachmentsEnabled r (onBehalfOfJSON r)
  let stored ← select .pool (.reports event.id) (internalError "failed to fetch reports")
  let rows ← authorizedReports event.id perms claims entriesOf stored
  pure (rows.map fun r => reportViewFromJSON (reportToJSON r (entriesOf r.number) event
    (reportEditRights r.report claims.personID claims.admin perms)))

end OcfIms
