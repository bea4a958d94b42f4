import OcfIms.AuthzPermission
import OcfIms.IncidentJson

/-!
# Reading incidents

`GetIncident` and `ListIncidents`, with the helpers that assemble an incident from its rows. Both
methods, and every write, open with the same preamble: the caller must be authenticated, the event
must exist, and the caller's mask at the event is computed.
-/

namespace OcfIms

open TxnLib

/-! ## The preamble -/

def authenticated : Option IMSClaims → Go ConnectError IMSClaims
  | none => throw ⟨.unauthenticated, "authentication required"⟩
  | some claims => pure claims

def fetchEvent (id : Int) : Go ConnectError EventRow :=
  select .pool (.event id) fun err =>
    if err = .noRows then ⟨.notFound, "event not found"⟩
    else internalError "failed to fetch event" err

/-- The caller's mask at an event. -/
def permissionsAt (e : Int) (claims : IMSClaims) : Go ConnectError EventPermissionMask := do
  let perms ← Call.mapErr (internalError "failed to compute permissions")
    (eventPermissions (some e) claims)
  pure (perms.1.get e)

def checkGrant (e n person : Int) : Go ConnectError Bool :=
  select .pool (.incidentPersonHasGrant e n person)
    (internalError "failed to check incident grant")

/-! ## Assembling an incident -/

/-- A private incident is visible only to an admin, its creator or a grant-holder; any other to the
event's incident readers and to grant-holders. -/
def mayViewIncident (isPrivate : Bool) (createdBy : Option Int) (viewerPersonID : Int)
    (viewerIsAdmin hasEventRead hasGrant : Bool) : Bool :=
  if isPrivate then viewerIsAdmin || createdBy == some viewerPersonID || hasGrant
  else hasEventRead || hasGrant

def incidentToJSON (row : IncidentRow) (people : List IncidentPersonJSON)
    (entries : List JournalEntryJSON) (linkedIncidents : List LinkedIncidentRow)
    (event : EventRow) : IncidentJSON where
  event := event.event.name
  eventID := event.id
  number := row.number
  created := floatToTime row.incident.created
  lastModified := entries.foldl (fun t je => max t je.created) (floatToTime row.incident.created)
  createdBy := createdByJSON row.incident.createdBy row.createdByHandle row.createdByName
  state := some row.incident.state
  isPrivate := some row.incident.isPrivate
  outcomeID := row.incident.outcomeID
  started := floatToTime row.incident.started
  closed := nullFloatToTime row.incident.closed
  priority := row.incident.priority
  summary := row.incident.summary
  location := ⟨row.incident.locationAreaSlug, row.incident.locationDescription,
    row.incident.locationBooth⟩
  incidentTypeIDs := some row.incidentTypeIds
  reports := some row.reportNumbers
  visits := some row.visitNumbers
  people := some people
  journalEntries := entries
  linkedIncidents := some (linkedIncidents.map fun li =>
    ⟨li.linkedEventName, li.linkedEvent, li.linkedIncident, li.linkedIncidentSummary.getD ""⟩)

/-- `fetchIncident`: the row, and the journal with its mentions. -/
def fetchIncident (s : Service) (e n : Int) :
    Go HTTPError (IncidentRow × List JournalEntryJSON) := do
  let row ← select .pool (.incident e n) fun err =>
    if err = .noRows then .notFound "Incident not found" (some err)
    else .internalServerError "Failed to fetch Incident" err
  let entryRows ← select .pool (.incidentJournalEntries e n)
    (.internalServerError "Failed to fetch journal entries")
  let mentionRows ← select .pool (.incidentJournalEntryMentions e n)
    (.internalServerError "Failed to fetch journal entry mentions")
  let entries := entryRows.map fun r => journalEntryToJSON s s.attachmentsEnabled r none
  pure (row, withMentions entries mentionRows)

/-- The newest report each person filed against each incident. -/
def deliveredReports (rows : List LinkedReportRow) (incidentNumber personID : Int) : Option Int :=
  rows.foldl (fun best r =>
    if r.incidentNumber = some incidentNumber ∧ r.createdBy = some personID ∧
        r.number > best.getD 0
    then some r.number else best) none

def incidentPersonFromRow (row : IncidentPersonRow) (delivered : Int → Int → Option Int) :
    IncidentPersonJSON where
  personID := row.incidentPerson.personID
  handle := row.handle.getD ""
  name := row.name.getD ""
  involvement := row.incidentPerson.involvement
  grantedAccess := row.incidentPerson.grantedAccess
  hasEventAccess := row.hasEventAccess
  reportRequested := row.incidentPerson.reportRequested.map floatToTime
  reportNumber := delivered row.incidentPerson.incidentNumber row.incidentPerson.personID

/-! ## GetIncident -/

/-- Without event-wide read, the caller needs a grant on the incident. -/
def requireReadOrGrant (hasEventRead : Bool) (e n person : Int) : Go ConnectError Bool :=
  if hasEventRead then pure false
  else do
    let hasGrant ← checkGrant e n person
    Call.ensure hasGrant ⟨.permissionDenied,
      "the requestor does not have EventReadIncidents permission on this Event"⟩
    pure hasGrant

/-- A private incident is not found unless the caller is an admin, its creator or a grant-holder;
the grant is looked up here unless it is known already. -/
def requirePrivateAccess (row : IncidentRow) (hasGrant : Bool) (claims : IMSClaims) :
    Go ConnectError Bool :=
  if row.incident.isPrivate && !hasGrant && !claims.admin &&
      !(row.incident.createdBy == some claims.personID) then do
    let hasGrant ← checkGrant row.event row.number claims.personID
    Call.ensure hasGrant ⟨.notFound, "incident not found"⟩
    pure hasGrant
  else pure hasGrant

/-- Withhold the summary of a linked incident the caller has no event read for, or that is private
and neither the caller's own nor open to an admin. -/
def redactLinkedIncident (permsByEvent : EventMasks) (claims : IMSClaims)
    (li : LinkedIncidentRow) : LinkedIncidentRow :=
  let noEventRead := !hasBit (permsByEvent.get li.linkedEvent) eventReadIncidents
  let privateHidden := li.linkedIncidentPrivate && !claims.admin &&
    !(li.linkedIncidentCreatedBy == some claims.personID)
  if noEventRead || privateHidden then { li with linkedIncidentSummary := none } else li

structure GetIncidentRequest where
  eventId : Int
  incidentNumber : Int
  deriving DecidableEq, Repr

/-- Fetch what hangs off an incident the caller may see, and assemble the view. -/
def assembleIncidentView (event : EventRow) (n : Int) (perms : EventPermissionMask)
    (claims : IMSClaims) (row : IncidentRow) (entries : List JournalEntryJSON) (hasGrant : Bool) :
    Go ConnectError IncidentView := do
  let permsByEvent ← Call.mapErr herrToConnect (permissionsByEvent claims)
  let peopleRows ← select .pool (.incidentPeople event.id n)
    (internalError "failed to fetch people")
  let linkedReports ← select .pool (.reportsLinkedToIncidents event.id)
    (internalError "failed to fetch linked reports")
  let linked ← select .pool (.incidentLinkedIncidents event.id n)
    (internalError "failed to fetch linked incidents")
  let people := peopleRows.map fun r => incidentPersonFromRow r (deliveredReports linkedReports)
  let incJSON := incidentToJSON row people entries
    (linked.map (redactLinkedIncident permsByEvent claims)) event
  pure ⟨incidentJSONToProto incJSON, hasBit perms eventWriteIncidents || hasGrant⟩

/-- The read once the event-level gate is passed: fetch the incident, apply the privacy rule, and
assemble the view. -/
def viewIncident (s : Service) (event : EventRow) (n : Int) (perms : EventPermissionMask)
    (claims : IMSClaims) (granted : Bool) : Go ConnectError IncidentView := do
  let (row, entries) ← Call.mapErr herrToConnect (fetchIncident s event.id n)
  let hasGrant ← requirePrivateAccess row granted claims
  assembleIncidentView event n perms claims row entries hasGrant

def getIncident (s : Service) (caller : Option IMSClaims) (req : GetIncidentRequest) :
    Go ConnectError IncidentView := do
  let claims ← authenticated caller
  let event ← fetchEvent req.eventId
  let perms ← permissionsAt event.id claims
  let n := req.incidentNumber
  let granted ← requireReadOrGrant (hasBit perms eventReadIncidents) event.id n claims.personID
  viewIncident s event n perms claims granted

/-! ## ListIncidents -/

structure ListIncidentsRequest where
  eventId : Int
  excludeSystemEntries : Bool := false
  deriving DecidableEq, Repr

/-- The incidents the caller was granted; an admin needs none, and a caller with neither event-wide
read nor a grant is refused. -/
def listGrants (hasEventRead : Bool) (e : Int) (claims : IMSClaims) : Go ConnectError (List Int) :=
  if claims.admin then pure []
  else do
    let grantedNums ← select .pool (.grantedIncidentNumbersForPerson e claims.personID)
      (internalError "failed to fetch granted incidents")
    Call.ensure (hasEventRead || !grantedNums.isEmpty) ⟨.permissionDenied,
      "the requestor does not have EventReadIncidents permission"⟩
    pure grantedNums

/-- The source runs the middle four queries concurrently; none depends on another. -/
def listIncidents (s : Service) (caller : Option IMSClaims) (req : ListIncidentsRequest) :
    Go ConnectError (List IncidentView) := do
  let claims ← authenticated caller
  let event ← fetchEvent req.eventId
  let perms ← permissionsAt event.id claims
  let hasEventRead := hasBit perms eventReadIncidents
  let granted ← listGrants hasEventRead event.id claims
  let entryRows ← select .pool (.incidentsJournalEntries event.id (!req.excludeSystemEntries))
    (internalError "failed to fetch incident journal entries")
  let peopleRows ← select .pool (.incidentsPeople event.id) (internalError "failed to fetch people")
  let linkedReports ← select .pool (.reportsLinkedToIncidents event.id)
    (internalError "failed to fetch linked reports")
  let rows ← select .pool (.incidents event.id) (internalError "failed to fetch incidents")
  let visible := rows.filter fun r =>
    mayViewIncident r.incident.isPrivate r.incident.createdBy claims.personID claims.admin
      hasEventRead (granted.contains r.number)
  pure (visible.map fun r =>
    let people := (peopleRows.filter (·.incidentPerson.incidentNumber = r.number)).map fun p =>
      incidentPersonFromRow p (deliveredReports linkedReports)
    let entries := (entryRows.filter (·.recordNumber = r.number)).map fun je =>
      journalEntryToJSON s s.attachmentsEnabled je none
    ⟨incidentJSONToProto (incidentToJSON r people entries [] event),
      hasBit perms eventWriteIncidents || granted.contains r.number⟩)

end OcfIms
