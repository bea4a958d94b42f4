import OcfIms.ReportRead

/-!
# Downloading attachments

The two REST downloads name their event by its name and the journal entry by its id. Each restates
the read rule of the record before it looks for the file.
-/

namespace OcfIms

open TxnLib

/-! ## The statements -/

inductive AttachmentQuery : Type → Type
  | queryEventID (name : String) : AttachmentQuery EventRow

inductive AttachmentWrite : Type → Type

namespace DB

/-- The event of a name, by the collation of the column. -/
def eventNamed (sortKey : String → String) (db : DB) (name : String) : Option EventRow :=
  (db.event.rows.find? fun r => sortKey r.2.name = sortKey name).map fun r => ⟨r.1, r.2⟩

end DB

def AttachmentQuery.eval (sortKey : String → String) :
    {β : Type} → AttachmentQuery β → DB → Except SqlErr β
  | _, .queryEventID name, db => DB.one (db.eventNamed sortKey name)

def AttachmentWrite.apply : {β : Type} → AttachmentWrite β → Int → DB → Except SqlErr (β × DB)
  | _, q, _, _ => nomatch q

/-- The database as the downloads use it. -/
def attachmentDB (sortKey : String → String) :
    Store (fun β => Read β ⊕ AttachmentQuery β) (fun β => Write β ⊕ AttachmentWrite β) SqlErr DB :=
  imsDB.extend (AttachmentQuery.eval sortKey) AttachmentWrite.apply

inductive AttachmentAsk : Type → Type

inductive AttachmentEffect

abbrev AttachmentGo (ε α : Type) : Type 1 :=
  Call (DbOp (fun β => Read β ⊕ AttachmentQuery β) (fun β => Write β ⊕ AttachmentWrite β)
    (fun β => Ask β ⊕ AttachmentAsk β) SqlErr (Effect ⊕ AttachmentEffect)) ε α

abbrev AttachmentEnv : Type 1 := Env fun β => Ask β ⊕ AttachmentAsk β

abbrev AttachmentWorld : Type := World DB (Effect ⊕ AttachmentEffect)

/-- Nothing fails, the clock stands at the epoch and the directory is empty. -/
def stillAttachmentEnv : AttachmentEnv where
  answer := fun n _ q => match q with
    | .inl q => stillEnv.answer n q
  fault := fun _ => none

/-- A program of the incident service, run by a download. -/
def inDownload {ε α : Type} (x : Go ε α) : AttachmentGo ε α := x.widen

def queryEventID {ε : Type} (name : String) (err : SqlErr → ε) : AttachmentGo ε EventRow :=
  Call.mapErr err (Call.attempt (.read .pool (.inr (.queryEventID name))))

/-! ## The preamble -/

def getEvent (eventName : String) : AttachmentGo HTTPError EventRow :=
  if eventName = "" then throw (.badRequest "No eventName was provided" none)
  else queryEventID eventName fun err =>
    if err = .noRows then .notFound "Event not found" (some err)
    else .internalServerError "Failed to fetch Event" err

/-- The caller's mask at the event, inside a download. -/
def downloadPermissions (e : Int) (claims : IMSClaims) : Go HTTPError EventPermissionMask := do
  let perms ← Call.mapErr (HTTPError.internalServerError "Failed to compute permissions")
    (eventPermissions (some e) claims)
  pure (perms.1.get e)

def getEventPermissions (eventName : String) (claims : IMSClaims) :
    AttachmentGo HTTPError (EventRow × EventPermissionMask) := do
  let event ← getEvent eventName
  let perms ← inDownload (downloadPermissions event.id claims)
  pure (event, perms)

def parsePathValue (value message : String) : AttachmentGo HTTPError Int :=
  match parseInt32 value with
  | some n => pure n
  | none => throw (.badRequest message none)

/-! ## The files -/

inductive AttachmentsStoreType
  | none
  | localDir
  | s3
  deriving DecidableEq, Repr

inductive OpenError
  | notExist
  | other
  deriving DecidableEq, Repr

/-- Where the files are: a directory or a bucket. -/
structure AttachmentsStore (File : Type) where
  type : AttachmentsStoreType
  openFile : String → Except OpenError File
  commonKeyPrefix : String := ""
  getObject : String → Except HTTPError File

def retrieveFile {File : Type} (store : AttachmentsStore File) (filename : String) :
    Except HTTPError File :=
  if filename = "" then .error (.notFound "No attachment for this ID" none)
  else match store.type with
    | .localDir =>
      match store.openFile filename with
      | .ok file => .ok file
      | .error .notExist => .error (.notFound "File does not exist" none)
      | .error .other => .error ⟨500, "Failed to open file", none⟩
    | .s3 => store.getObject (store.commonKeyPrefix ++ filename)
    | .none => .error (.notFound "Attachments are not currently supported" none)

/-- What the downloads are configured with; `sniffFile` is the content type of a file. -/
structure AttachmentService (File : Type) where
  service : Service := {}
  store : AttachmentsStore File
  sniffFile : File → Except HTTPError String

/-- The configuration of the reads: attachments are on where there is a store for them. -/
def AttachmentService.reads {File : Type} (svc : AttachmentService File) : Service :=
  { svc.service with attachmentsEnabled := svc.store.type ≠ .none }

structure AttachmentResponse (File : Type) where
  file : File
  contentType : String

/-- A request behind `RequireAuthN`, its numbers as they stand in the path. -/
structure AttachmentRequest where
  eventName : String
  recordNumber : String
  attachmentNumber : String
  deriving DecidableEq, Repr

/-- The stored name of an entry's file among the entries of a record. -/
def attachedFilename (rows : List JournalEntryRow) (attachmentNumber : Int) : String :=
  match rows.find? fun row => row.id == attachmentNumber with
  | some row => row.journalEntry.attachedFile.getD ""
  | none => ""

def serveFile {File : Type} (svc : AttachmentService File) (filename : String) :
    Except HTTPError (AttachmentResponse File) := do
  let file ← retrieveFile svc.store filename
  let contentType ← svc.sniffFile file
  return ⟨file, svc.service.safeToPreviewContentType contentType⟩

def liftExcept {ε α : Type} : Except ε α → Go ε α
  | .ok a => pure a
  | .error err => throw err

/-! ## Incidents -/

/-- Without event-wide read, the caller needs a grant on the incident. -/
def downloadReadOrGrant (hasEventRead : Bool) (e n person : Int) : Go HTTPError Bool :=
  if hasEventRead then pure false
  else do
    let hasGrant ← select .pool (.incidentPersonHasGrant e n person)
      (.internalServerError "Failed to check incident grant")
    Call.ensure hasGrant
      (.forbidden "The requestor does not have EventReadIncidents permission on this Event")
    pure hasGrant

/-- A private incident's files are hidden from all but an admin, its creator and grant-holders. -/
def downloadPrivateAccess (row : IncidentRow) (hasGrant : Bool) (claims : IMSClaims) :
    Go HTTPError Unit :=
  if row.incident.isPrivate && !hasGrant && !claims.admin &&
      !(row.incident.createdBy == some claims.personID) then do
    let hasGrant ← select .pool (.incidentPersonHasGrant row.event row.number claims.personID)
      (.internalServerError "Failed to check incident grant")
    Call.ensure hasGrant (.notFound "Incident not found" none)
  else pure ()

/-- The authorization of the incident download. -/
def authorizeIncidentDownload (s : Service) (e n : Int) (perms : EventPermissionMask)
    (claims : IMSClaims) : Go HTTPError Unit := do
  let hasGrant ← downloadReadOrGrant (hasBit perms eventReadIncidents) e n claims.personID
  let (row, _) ← fetchIncident s e n
  downloadPrivateAccess row hasGrant claims

def serveIncidentFile {File : Type} (svc : AttachmentService File) (e n attachmentNumber : Int) :
    Go HTTPError (AttachmentResponse File) := do
  let rows ← select .pool (.incidentJournalEntries e n)
    (.internalServerError "Failed to fetch journal entries")
  liftExcept (serveFile svc (attachedFilename rows attachmentNumber))

/-- Everything before the file is looked for: the event, the incident and the entry asked for. -/
def incidentDownloadAccess {File : Type} (svc : AttachmentService File) (claims : IMSClaims)
    (req : AttachmentRequest) : AttachmentGo HTTPError (Int × Int × Int) := do
  let (event, perms) ← getEventPermissions req.eventName claims
  let n ← parsePathValue req.recordNumber "Failed to parse incident number"
  let attachmentNumber ← parsePathValue req.attachmentNumber "Failed to parse attachment number"
  inDownload (authorizeIncidentDownload svc.reads event.id n perms claims)
  pure (event.id, n, attachmentNumber)

def getIncidentAttachment {File : Type} (svc : AttachmentService File) (claims : IMSClaims)
    (req : AttachmentRequest) : AttachmentGo HTTPError (AttachmentResponse File) := do
  let (e, n, attachmentNumber) ← incidentDownloadAccess svc claims req
  inDownload (serveIncidentFile svc e n attachmentNumber)

/-! ## Reports -/

/-- The half of the authorization that is about one report. -/
def authorizeReportDownload (s : Service) (e n : Int) (perms : EventPermissionMask)
    (claims : IMSClaims) : Go HTTPError Unit := do
  let (row, entries) ← fetchReport s s.attachmentsEnabled e n
  if hasBit perms eventReadAllReports then pure ()
  else do
    let visible ← mayReadLimitedReport e n row.report entries perms claims.personID claims.handle
    Call.ensure visible
      (.forbidden "The requestor does not have permission to read this particular Report")

def serveReportFile {File : Type} (svc : AttachmentService File) (e n attachmentNumber : Int) :
    Go HTTPError (AttachmentResponse File) := do
  let rows ← select .pool (.reportJournalEntries e n)
    (.internalServerError "Failed to fetch journal entries")
  liftExcept (serveFile svc (attachedFilename rows attachmentNumber))

/-- Everything before the file is looked for: the event, the report and the entry asked for. -/
def reportDownloadAccess {File : Type} (svc : AttachmentService File) (claims : IMSClaims)
    (req : AttachmentRequest) : AttachmentGo HTTPError (Int × Int × Int) := do
  let (event, perms) ← getEventPermissions req.eventName claims
  Call.ensure (mayReadReports perms)
    (.forbidden "The requestor does not have permission to read Reports on this Event")
  let n ← parsePathValue req.recordNumber "Failed to parse Report number"
  let attachmentNumber ← parsePathValue req.attachmentNumber "Failed to parse attachment number"
  inDownload (authorizeReportDownload svc.reads event.id n perms claims)
  pure (event.id, n, attachmentNumber)

def getReportAttachment {File : Type} (svc : AttachmentService File) (claims : IMSClaims)
    (req : AttachmentRequest) : AttachmentGo HTTPError (AttachmentResponse File) := do
  let (e, n, attachmentNumber) ← reportDownloadAccess svc claims req
  inDownload (serveReportFile svc e n attachmentNumber)

end OcfIms
