import OcfIms.IncidentUpdate

/-!
# Writing incidents

The methods that create and edit incidents and manage what hangs off them: the people involved, the
requests for their reports, and the strikes of journal entries. A full edit needs
`EventWriteIncidents`; a caller with only a per-incident grant may append journal entries. A private
incident the caller may not view answers as if it did not exist.
-/

namespace OcfIms

open TxnLib

/-! ## Gates -/

/-- The privacy gate: an unknown or invisible incident is not found. -/
def requireIncidentVisible (e n : Int) (claims : IMSClaims) : Go ConnectError Unit := do
  let row ← select .pool (.incident e n) fun err =>
    if err = .noRows then ⟨.notFound, "incident not found"⟩
    else internalError "failed to fetch incident" err
  if row.incident.isPrivate then do
    let hasGrant ← checkGrant e n claims.personID
    Call.ensure (mayViewIncident true row.incident.createdBy claims.personID claims.admin false
      hasGrant) ⟨.notFound, "incident not found"⟩
  else pure ()

/-- The gate of the sub-resource writes: the write bit, then privacy. -/
def incidentWriteContext (e n : Int) (claims : IMSClaims) : Go ConnectError EventRow := do
  let event ← fetchEvent e
  let perms ← permissionsAt event.id claims
  Call.ensure (hasBit perms eventWriteIncidents) ⟨.permissionDenied,
    "the requestor does not have EventWriteIncidents permission for this Event"⟩
  requireIncidentVisible event.id n claims
  pure event

/-! ## Creating and updating -/

structure CreateIncidentRequest where
  eventId : Int
  incident : Option IncidentUpdate := none
  deriving DecidableEq, Repr

/-- The number is reserved and the row inserted on the pool; the payload is then applied to it as an
update. -/
def insertIncident (s : Service) (event : EventRow) (claims : IMSClaims)
    (payload : Option IncidentUpdate) : Go ConnectError Int := do
  let n ← select .pool (.nextIncidentNumber event.id)
    (internalError "failed to find next incident number")
  let created ← now
  exec .pool (.createIncident event.id n (timeToFloat created) (timeToFloat created)
    incidentPriorityNormal .stateOpen (some claims.personID)) (internalError "failed to create incident")
  Call.mapErr herrToConnect (updateIncident s
    { incidentUpdateToJSON payload with event := event.event.name, eventID := event.id, number := n }
    claims.personID claims.admin)
  emit (.invalidateEvent event.event.name)
  pure n

def createIncident (s : Service) (caller : Option IMSClaims) (req : CreateIncidentRequest) :
    Go ConnectError Int := do
  let claims ← authenticated caller
  let event ← fetchEvent req.eventId
  let perms ← permissionsAt event.id claims
  Call.ensure (hasBit perms eventWriteIncidents) ⟨.permissionDenied,
    "the requestor does not have EventWriteIncidents permission on this Event"⟩
  insertIncident s event claims req.incident

structure UpdateIncidentRequest where
  eventId : Int
  incidentNumber : Int
  update : Option IncidentUpdate := none
  deriving DecidableEq, Repr

/-- Without the write bit, a grant and a journal-only payload are needed. -/
def requireWriteOrGrant (perms : EventPermissionMask) (inc : IncidentJSON) (person : Int) :
    Go ConnectError Unit :=
  if hasBit perms eventWriteIncidents then pure ()
  else do
    let hasGrant ← checkGrant inc.eventID inc.number person
    Call.ensure hasGrant ⟨.permissionDenied,
      "the requestor does not have EventWriteIncidents permission for this Event"⟩
    Call.ensure (isJournalOnly inc) ⟨.permissionDenied,
      "a granted reporter may only add journal entries to this incident"⟩

/-- `UpdateIncident`; named after the RPC, as `updateIncident` is the shared write path. -/
def updateIncidentRPC (s : Service) (caller : Option IMSClaims) (req : UpdateIncidentRequest) :
    Go ConnectError Unit := do
  let claims ← authenticated caller
  let event ← fetchEvent req.eventId
  let perms ← permissionsAt event.id claims
  let inc : IncidentJSON := { incidentUpdateToJSON req.update with
    event := event.event.name, eventID := event.id, number := req.incidentNumber }
  requireWriteOrGrant perms inc claims.personID
  requireIncidentVisible event.id req.incidentNumber claims
  Call.mapErr herrToConnect (updateIncident s inc claims.personID claims.admin)
  emit (.invalidateEvent event.event.name)

/-! ## People -/

/-- The lines an attach or an edit of a person records: what was added, or what changed. -/
def personChangeLog (name : String) (alreadyAttached : Bool)
    (oldInvolvement newInvolvement : Option SqlText) (oldGranted newGranted : Bool) :
    List JournalLine :=
  let involvementText := (newInvolvement.map SqlText.string).getD ""
  if !alreadyAttached then
    [.text ("Added person: " ++ name)] ++
    (if newInvolvement.isSome then
      [.text ("Set involvement for " ++ name ++ ": " ++ involvementText)] else []) ++
    (if newGranted then [.text ("Granted incident access to " ++ name)] else [])
  else
    (if newInvolvement ≠ oldInvolvement then
      if newInvolvement.isSome then
        [.text ("Changed involvement for " ++ name ++ ": " ++ involvementText)]
      else [.text ("Cleared involvement for " ++ name)]
    else []) ++
    (if newGranted ≠ oldGranted then
      if newGranted then [.text ("Granted incident access to " ++ name)]
      else [.text ("Revoked incident access from " ++ name)]
    else [])

structure AttachPersonRequest where
  eventId : Int
  incidentNumber : Int
  personId : Int
  involvement : Option String := none
  grantedAccess : Bool := false
  deriving DecidableEq, Repr

/-- Only a genuine new attach is announced to the person. -/
def notifyIfNew (isNew : Bool) (e n person actor : Int) : Go HTTPError Unit :=
  if isNew then generateAddedToIncidentNotification .txn e n person actor else pure ()

/-- The transaction of an attach: replace the person's row and record what changed. Returns whether
the person is new on the incident. -/
def attachPersonTxn (e n : Int) (person : PersonRow) (involvement : Option SqlText)
    (grantedAccess : Bool) (actor : Int) : Go HTTPError Bool := do
  let existing ← select .txn (.incidentPeople e n)
    (.internalServerError "Failed to fetch incident people")
  let old := (existing.find? (·.incidentPerson.personID = person.id)).map (·.incidentPerson)
  exec .txn (.detachPersonFromIncident e n person.id)
    (.internalServerError "Failed to detach person from Incident")
  exec .txn (.attachPersonToIncident e n person.id involvement grantedAccess
      (old.bind (·.reportRequested)))
    (.internalServerError "Failed to attach person to Incident")
  let lines := personChangeLog (personDisplayName person) old.isSome
    ((old.bind (·.involvement)).map .text) involvement (old.any (·.grantedAccess)) grantedAccess
  addChangeEntry e n actor lines
  notifyIfNew old.isNone e n person.id actor
  pure old.isNone

def attachPersonToIncident (caller : Option IMSClaims) (req : AttachPersonRequest) :
    Go ConnectError Unit := do
  let claims ← authenticated caller
  let event ← incidentWriteContext req.eventId req.incidentNumber claims
  let person ← Call.mapErr herrToConnect (personByID req.personId)
  let newlyAttached ← Call.mapErr herrToConnect (runInTx (attachPersonTxn event.id
    req.incidentNumber person (stringToSql req.involvement 128) req.grantedAccess claims.personID))
  notifyIncidentUpdate event.id req.incidentNumber
  if newlyAttached then
    emit (.notifyAddedToIncident event.event.name req.incidentNumber person.id claims.personID)
  else pure ()

structure PersonOnIncidentRequest where
  eventId : Int
  incidentNumber : Int
  personId : Int
  deriving DecidableEq, Repr

/-- Stamp the request on the person's row, or attach the person with the stamp. -/
def stampRequest (attached : Bool) (e n person requestedAt : Int) : Go HTTPError Unit :=
  if attached then
    exec .txn (.requestReportFromPerson (some requestedAt) e n person)
      (.internalServerError "Failed to request report")
  else
    exec .txn (.attachPersonToIncident e n person none true (some requestedAt))
      (.internalServerError "Failed to attach person to Incident")

def requestReportTxn (e n : Int) (person : PersonRow) (requestedAt actor : Int) :
    Go HTTPError Unit := do
  let existing ← select .txn (.incidentPeople e n)
    (.internalServerError "Failed to fetch incident people")
  let attached := existing.any (·.incidentPerson.personID = person.id)
  stampRequest attached e n person.id requestedAt
  let name := personDisplayName person
  let lines : List JournalLine :=
    (if attached then [] else [.text ("Added person: " ++ name)]) ++
      [.text ("Report requested from " ++ name)]
  let _ ← addIncidentJournalEntry .txn e n actor lines true
  generateReportRequestedNotification .txn e n person.id actor

def requestReport (caller : Option IMSClaims) (req : PersonOnIncidentRequest) :
    Go ConnectError Unit := do
  let claims ← authenticated caller
  let event ← incidentWriteContext req.eventId req.incidentNumber claims
  let person ← Call.mapErr herrToConnect (personByID req.personId)
  let requestedAt ← now
  Call.mapErr herrToConnect (runInTx
    (requestReportTxn event.id req.incidentNumber person (timeToFloat requestedAt) claims.personID))
  notifyIncidentUpdate event.id req.incidentNumber
  emit (.notifyReportRequested event.event.name req.incidentNumber person.id claims.personID
    claims.handle)

def detachPersonTxn (e n : Int) (person : PersonRow) (actor : Int) : Go HTTPError Unit := do
  exec .txn (.detachPersonFromIncident e n person.id)
    (.internalServerError "Failed to detach person from Incident")
  let _ ← addIncidentJournalEntry .txn e n actor
    [.text ("Removed person: " ++ personDisplayName person)] true

def detachPersonFromIncident (caller : Option IMSClaims) (req : PersonOnIncidentRequest) :
    Go ConnectError Unit := do
  let claims ← authenticated caller
  let event ← incidentWriteContext req.eventId req.incidentNumber claims
  let person ← Call.mapErr herrToConnect (personByID req.personId)
  Call.mapErr herrToConnect (runInTx
    (detachPersonTxn event.id req.incidentNumber person claims.personID))
  notifyIncidentUpdate event.id req.incidentNumber

/-! ## Striking an entry -/

structure UpdateJournalEntryRequest where
  eventId : Int
  /-- The number of the incident or the report the entry is on. -/
  recordNumber : Int
  journalEntryId : Int
  stricken : Option Bool := none
  deriving DecidableEq, Repr

/-- The system line a strike leaves behind. -/
def strikeLine (stricken : Bool) (journalEntry : Int) : JournalLine :=
  .text ((if stricken then "Struck" else "Unstruck") ++ " journalEntry " ++ toString journalEntry)

/-- A system entry on an incident. -/
def addGeneratedIncidentEntry (c : Conn) (e n author : Int) (line : JournalLine) :
    Go ConnectError Unit := do
  let _ ← Call.mapErr herrToConnect (addIncidentJournalEntry c e n author [line] true)

def strikeIncidentEntryTxn (e n journalEntry author : Int) (stricken : Bool) :
    Go ConnectError Unit := do
  exec .txn (.setIncidentJournalEntryStricken stricken e n journalEntry)
    (internalError "failed to set journal entry stricken")
  addGeneratedIncidentEntry .txn e n author (strikeLine stricken journalEntry)
  commit (internalError "failed to commit transaction")

def updateIncidentJournalEntry (caller : Option IMSClaims) (req : UpdateJournalEntryRequest) :
    Go ConnectError Unit := do
  let claims ← authenticated caller
  let event ← incidentWriteContext req.eventId req.recordNumber claims
  match req.stricken with
  | none => pure ()
  | some stricken => do
    begin (internalError "failed to begin transaction")
    Call.deferRollback do
      strikeIncidentEntryTxn event.id req.recordNumber req.journalEntryId claims.personID stricken
      notifyIncidentUpdate event.id req.recordNumber

end OcfIms
