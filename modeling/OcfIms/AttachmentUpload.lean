import OcfIms.AttachmentRead

/-!
# Uploading attachments

The two REST uploads add a journal entry that carries a file. Each restates the gate of the record's
own update before it looks at the form; then the file is checked, stored under a new name, and
entered on the timeline.
-/

namespace OcfIms

open TxnLib

/-! ## The statements -/

/-- The columns of an entry that carries a file. -/
structure CreateFileEntryParams where
  entry : JournalEntry
  attachedFile : Option SqlText
  attachedFileOriginalName : Option SqlText
  attachedFileMediaType : Option SqlText
  deriving DecidableEq, Repr

inductive UploadQuery : Type → Type

inductive UploadWrite : Type → Type
  | createJournalEntry (params : CreateFileEntryParams) : UploadWrite Int

open DB in
def UploadWrite.apply : {β : Type} → UploadWrite β → Int → DB → Except SqlErr (β × DB)
  | _, .createJournalEntry p, id, db =>
      textColumn p.attachedFile fun attachedFile =>
      textColumn p.attachedFileOriginalName fun attachedFileOriginalName =>
      textColumn p.attachedFileMediaType fun attachedFileMediaType =>
      (Write.createJournalEntry
        { p.entry with attachedFile, attachedFileOriginalName, attachedFileMediaType }).apply id db

def UploadQuery.eval : {β : Type} → UploadQuery β → DB → Except SqlErr β
  | _, q, _ => nomatch q

/-- The database as the uploads use it. -/
def uploadDB (sortKey : String → String) :
    Store (fun β => (Read β ⊕ AttachmentQuery β) ⊕ UploadQuery β)
      (fun β => (Write β ⊕ AttachmentWrite β) ⊕ UploadWrite β) SqlErr DB :=
  (attachmentDB sortKey).extend UploadQuery.eval UploadWrite.apply

inductive UploadAsk : Type → Type
  /-- `rand.Text`. -/
  | randText : UploadAsk String
  /-- `SaveFile`, into the directory or the bucket. -/
  | saveFile (newFileName : String) : UploadAsk (Except HTTPError Unit)

inductive UploadEffect

abbrev UploadGo (ε α : Type) : Type 1 :=
  Call (DbOp (fun β => (Read β ⊕ AttachmentQuery β) ⊕ UploadQuery β)
    (fun β => (Write β ⊕ AttachmentWrite β) ⊕ UploadWrite β)
    (fun β => (Ask β ⊕ AttachmentAsk β) ⊕ UploadAsk β) SqlErr
    ((Effect ⊕ AttachmentEffect) ⊕ UploadEffect)) ε α

abbrev UploadEnv : Type 1 := Env fun β => (Ask β ⊕ AttachmentAsk β) ⊕ UploadAsk β

abbrev UploadWorld : Type := World DB ((Effect ⊕ AttachmentEffect) ⊕ UploadEffect)

/-- Nothing fails, and every file is stored. -/
def stillUploadEnv : UploadEnv where
  answer := fun n _ q => match q with
    | .inl q => stillAttachmentEnv.answer n q
    | .inr .randText => "KVEQ4ZU2H3JXW5AN7BGCDT6RYM"
    | .inr (.saveFile _) => .ok ()
  fault := fun _ => none

/-- A program of the incident service, run by an upload. -/
def inUpload {ε α : Type} (x : Go ε α) : UploadGo ε α := Call.widen (inDownload x)

/-! ## The form -/

/-- A part of a multipart form. -/
structure FormFile (File : Type) where
  filename : String
  size : Int
  file : File

inductive FormError
  /-- `http.MaxBytesError`, with its limit. -/
  | maxBytes (limit : Int)
  | other
  deriving DecidableEq, Repr

/-- A request behind `RequireAuthN`, its number as it stands in the path. -/
structure UploadRequest (File : Type) where
  eventName : String
  recordNumber : String
  formFile : Except FormError (FormFile File)

/-- What the uploads are configured with; `sniffFile` is the media type and the extension of a file. -/
structure UploadService (File : Type) where
  service : Service := {}
  storeType : AttachmentsStoreType
  maxAttachmentBytes : Int
  sniffFile : File → Except HTTPError (String × String)
  humanByteSize : Int → String

section

variable {File : Type}

/-- The configuration of the reads: attachments are on where there is a store for them. -/
def UploadService.reads (svc : UploadService File) : Service :=
  { svc.service with attachmentsEnabled := svc.storeType ≠ .none }

def requestEntityTooLarge (message : String) : HTTPError := ⟨413, message, none⟩

/-- `req.FormFile` and the check of the part's size. -/
def checkedFormFile (svc : UploadService File) (formFile : Except FormError (FormFile File)) :
    Except HTTPError (FormFile File) :=
  match formFile with
  | .error (.maxBytes limit) => .error (requestEntityTooLarge
      ("The supplied file is above the server limit of " ++ svc.humanByteSize limit))
  | .error .other => .error (.badRequest "Failed to parse file" none)
  | .ok fi =>
    if fi.size > svc.maxAttachmentBytes then
      .error (requestEntityTooLarge ("An attachment must be under " ++
        svc.humanByteSize svc.maxAttachmentBytes ++ " (got " ++ svc.humanByteSize fi.size ++ ")"))
    else .ok fi

/-- `%05d`. -/
def formatPadded (i : Int) : String :=
  let digits := toString i.natAbs
  let sign := if i < 0 then "-" else ""
  sign ++ String.ofList (List.replicate (5 - sign.length - digits.length) '0') ++ digits

def saveFile (svc : UploadService File) (newFileName : String) : UploadGo HTTPError Unit :=
  if svc.storeType = .none then
    throw (.notFound "Attachments are not currently supported" none)
  else do
    match ← Call.perform (.ask (.inr (.saveFile newFileName))) with
    | .ok () => pure ()
    | .error err => throw err

/-- The file, checked and stored: its new name, the name it came with, its size and media type. -/
def storeFile (svc : UploadService File) (formFile : Except FormError (FormFile File)) (record : String)
    (e n : Int) : UploadGo HTTPError (String × FormFile File × String) := do
  let fi ← inUpload (liftExcept (checkedFormFile svc formFile))
  let (mediaType, extension) ← inUpload (liftExcept (svc.sniffFile fi.file))
  let text ← Call.perform (.ask (.inr .randText))
  let newFileName := "event_" ++ formatPadded e ++ "_" ++ record ++ "_" ++ formatPadded n ++ "_" ++
    text ++ extension
  saveFile svc newFileName
  pure (newFileName, fi, mediaType)

/-- The columns of the entry that carries a stored file. -/
def fileEntry (author created : Int) (text attachment originalName mediaType : String) :
    CreateFileEntryParams where
  entry := { authorPersonID := author, text := [.text text], created, generated := false }
  attachedFile := stringToSql (some attachment) 128
  attachedFileOriginalName := stringToSql (some originalName) 128
  attachedFileMediaType := stringToSql (some mediaType) 128

def createFileEntry (params : CreateFileEntryParams) (err : SqlErr → HTTPError) :
    UploadGo HTTPError Int :=
  Call.mapErr err (Call.attempt (.write .pool (.inr (.createJournalEntry params))))

/-! ## Incidents -/

/-- The event's write bit, or a grant on the incident; returns whether a grant was looked up and
found. -/
def uploadWriteOrGrant (hasEventWrite : Bool) (e n person : Int) : Go HTTPError Bool :=
  if hasEventWrite then pure false
  else do
    let hasGrant ← select .pool (.incidentPersonHasGrant e n person)
      (.internalServerError "Failed to check incident grant")
    Call.ensure hasGrant
      (.forbidden "The requestor does not have EventWriteIncidents permission on this Event")
    pure hasGrant

/-- The authorization of the incident upload. -/
def authorizeIncidentUpload (e n : Int) (perms : EventPermissionMask) (claims : IMSClaims) :
    Go HTTPError Unit := do
  let hasGrant ← uploadWriteOrGrant (hasBit perms eventWriteIncidents) e n claims.personID
  let row ← select .pool (.incident e n) fun err =>
    if err = .noRows then .notFound "Incident not found" none
    else .internalServerError "Failed to fetch Incident" err
  downloadPrivateAccess row hasGrant claims

/-- Everything before the form is looked at. -/
def incidentUploadAccess (claims : IMSClaims) (eventName recordNumber : String) :
    UploadGo HTTPError (Int × Int) := do
  let (event, perms) ← Call.widen (getEventPermissions eventName claims)
  let n ← Call.widen (parsePathValue recordNumber "Failed to parse incident number")
  inUpload (authorizeIncidentUpload event.id n perms claims)
  pure (event.id, n)

def attachToIncident (svc : UploadService File) (claims : IMSClaims) (req : UploadRequest File) :
    UploadGo HTTPError Int := do
  let (e, n) ← incidentUploadAccess claims req.eventName req.recordNumber
  let (newFileName, fi, mediaType) ← storeFile svc req.formFile "incident" e n
  let reText := "File Name: " ++ fi.filename ++ ", Size: " ++ svc.humanByteSize fi.size ++ ", Type:" ++
    mediaType
  let created ← inUpload now
  let reID ← createFileEntry
    (fileEntry claims.personID (timeToFloat created) reText newFileName fi.filename mediaType)
    (.internalServerError "Failed to create journal entry")
  inUpload (exec .pool (.attachJournalEntryToIncident e n reID)
    (.internalServerError "Failed to attach journal entry"))
  inUpload (notifyIncidentUpdate e n)
  pure reID

/-! ## Reports -/

/-- The half of the authorization that is about one report, which it returns. -/
def authorizeReportUpload (s : Service) (e n : Int) (perms : EventPermissionMask) (claims : IMSClaims) :
    Go HTTPError ReportRow := do
  let (row, entries) ← fetchReport s s.attachmentsEnabled e n
  Call.ensure (hasBit perms eventReadAllReports ||
      ownsReport row.report entries claims.personID claims.handle)
    (.forbidden "The requestor does not have permission to read this particular Report")
  pure row

/-- Everything before the form is looked at. -/
def reportUploadAccess (svc : UploadService File) (claims : IMSClaims)
    (eventName recordNumber : String) : UploadGo HTTPError (Int × Int × ReportRow) := do
  let (event, perms) ← Call.widen (getEventPermissions eventName claims)
  Call.ensure (hasBit perms (eventWriteAllReports ||| eventWriteOwnReports))
    (.forbidden "The requestor does not have permission to write Reports on this Event")
  let n ← Call.widen (parsePathValue recordNumber "Failed to parse Report number")
  let row ← inUpload (authorizeReportUpload svc.reads event.id n perms claims)
  pure (event.id, n, row)

def attachToReport (svc : UploadService File) (claims : IMSClaims) (req : UploadRequest File) :
    UploadGo HTTPError Int := do
  let (e, n, row) ← reportUploadAccess svc claims req.eventName req.recordNumber
  let (newFileName, fi, mediaType) ← storeFile svc req.formFile "report" e n
  let reText := "File Name: " ++ fi.filename ++ ", Size: " ++ svc.humanByteSize fi.size ++ ", Type: " ++
    mediaType
  let created ← inUpload now
  let reID ← createFileEntry
    (fileEntry claims.personID (timeToFloat created) reText newFileName fi.filename mediaType)
    fun err =>
      if isNoReferencedRow err then .badRequest "No such person for 'on behalf of'" (some err)
      else .internalServerError "Failed to create journal entry" err
  inUpload (exec .pool (.attachJournalEntryToReport e n reID)
    (.internalServerError "Failed to attach journal entry"))
  inUpload (notifyReportUpdate e n)
  inUpload (match row.report.incidentNumber with
    | some i => notifyIncidentUpdate e i
    | none => pure ())
  pure reID

end

end OcfIms
