import OcfIms.IncidentRead
import OcfIms.Journal

/-!
# The shared write path of an incident

`updateIncident` applies a presence-tracked payload to a stored incident. It reads the stored row
and the lookup tables on the pool, opens a transaction, and there works through the payload: the
scalar fields, whose new values are written back as one whole row, then the four reconciled lists
(types, reports, visits, linked incidents), then one system entry with everything that changed and
the typed entries. Messages to subscribers follow the commit.

The source is one long function; here each section of it is a definition, in the source's order.
-/

namespace OcfIms

open TxnLib

/-- Whether a payload only appends journal entries. -/
def isJournalOnly (inc : IncidentJSON) : Bool :=
  !inc.journalEntries.isEmpty &&
  inc.state.isNone &&
  inc.priority == 0 &&
  inc.outcomeID.isNone &&
  isZero inc.started &&
  inc.summary.isNone &&
  inc.isPrivate.isNone &&
  inc.location.areaSlug.isNone &&
  inc.location.description.isNone &&
  inc.location.booth.isNone &&
  inc.incidentTypeIDs.isNone &&
  inc.reports.isNone &&
  inc.visits.isNone &&
  inc.people.isNone &&
  inc.linkedIncidents.isNone

/-! ## Loading -/

/-- What `updateIncident` reads before it opens its transaction. -/
structure LoadedIncident where
  row : IncidentRow
  events : List EventRow
  allIncidentTypes : List (Int × String)
  allOutcomes : List (Int × String)
  linkedIncidents : List LinkedIncidentRow
  deriving DecidableEq, Repr

def LoadedIncident.eventNameById (st : LoadedIncident) (id : Int) : String :=
  ((st.events.find? (·.id = id)).map (·.event.name)).getD ""

def loadIncidentTypes (inc : IncidentJSON) : Go HTTPError (List (Int × String)) :=
  if inc.incidentTypeIDs.isSome then
    select .pool .incidentTypes (.internalServerError "Failed to get incident types")
  else pure []

/-- Only setting an outcome needs the outcomes; clearing it does not. -/
def loadOutcomes (inc : IncidentJSON) : Go HTTPError (List (Int × String)) :=
  if inc.outcomeID.any (· ≠ 0) then
    select .pool .outcomes (.internalServerError "Failed to get outcomes")
  else pure []

def loadIncident (inc : IncidentJSON) : Go HTTPError LoadedIncident := do
  let row ← select .pool (.incident inc.eventID inc.number)
    (.internalServerError "Failed to fetch incident")
  let events ← select .pool .events (.internalServerError "Failed to fetch events")
  let allIncidentTypes ← loadIncidentTypes inc
  let allOutcomes ← loadOutcomes inc
  let linkedIncidents ← select .pool (.incidentLinkedIncidents row.event row.number)
    (.internalServerError "Failed to fetch linked incidents")
  pure { row, events, allIncidentTypes, allOutcomes, linkedIncidents }

/-! ## Scalar fields

Each edit changes the row to be written and logs a line, but only where the submitted value differs
from the stored one. -/

/-- The row to be written and the log so far. -/
structure Edit where
  update : UpdateIncidentParams
  logs : List JournalLine := []
  deriving DecidableEq, Repr

namespace Edit

/-- The stored row, nothing changed. -/
def ofStored (i : Incident) : Edit where
  update :=
    { priority := i.priority
      state := i.state
      outcomeID := i.outcomeID
      started := i.started
      closed := i.closed
      summary := i.summary
      locationDescription := i.locationDescription
      locationAreaSlug := i.locationAreaSlug
      locationBooth := i.locationBooth.map .text
      isPrivate := i.isPrivate }

def set (ed : Edit) (update : UpdateIncidentParams) (line : String) : Edit :=
  { update, logs := ed.logs ++ [.text line] }

end Edit

section Scalars

variable (inc : IncidentJSON) (stored : Incident)

/-- Privacy may be changed by an admin or the incident's creator only. -/
def editPrivacy (author : Int) (callerIsAdmin : Bool) (ed : Edit) : Go HTTPError Edit :=
  match inc.isPrivate with
  | none => pure ed
  | some p =>
    if !callerIsAdmin && !(stored.createdBy == some author) then
      throw (.forbidden "Only an admin or the incident creator may change incident privacy")
    else if p ≠ stored.isPrivate then
      pure (ed.set { ed.update with isPrivate := p }
        (if p then "Marked incident private" else "Marked incident public"))
    else pure ed

def editPriority (ed : Edit) : Edit :=
  if inc.priority ≠ 0 ∧ inc.priority ≠ stored.priority then
    ed.set { ed.update with priority := inc.priority } ("Changed priority: " ++ toString inc.priority)
  else ed

def formatState : IncidentState → String
  | .stateOpen => "open"
  | .stateClosed => "closed"

/-- Closing stamps the closing time, reopening clears it. -/
def editState (ed : Edit) : Go HTTPError Edit :=
  match inc.state with
  | none => pure ed
  | some newState =>
    if newState = stored.state then pure ed
    else if newState = .stateClosed then do
      let closed ← now
      pure (ed.set { ed.update with state := newState, closed := timeToNullFloat closed }
        ("Changed state: " ++ formatState newState))
    else
      pure (ed.set { ed.update with state := newState, closed := none }
        ("Changed state: " ++ formatState newState))

/-- 0 clears the outcome; any other id must name one. -/
def editOutcome (allOutcomes : List (Int × String)) (ed : Edit) : Go HTTPError Edit :=
  match inc.outcomeID with
  | none => pure ed
  | some id =>
    if id = 0 then
      if stored.outcomeID.isSome then
        pure (ed.set { ed.update with outcomeID := none } "Cleared outcome")
      else pure ed
    else if stored.outcomeID = some id then pure ed
    else
      match allOutcomes.lookup id with
      | none => throw (.badRequest ("Invalid outcome id: " ++ toString id) none)
      | some name =>
        pure (ed.set { ed.update with outcomeID := some id } ("Changed outcome: " ++ name))

def editStarted (s : Service) (ed : Edit) : Edit :=
  if isZero inc.started then ed
  else if timeToFloat inc.started ≠ stored.started then
    ed.set { ed.update with started := timeToFloat inc.started }
      ("Changed start time: " ++ s.formatRFC3339 inc.started)
  else ed

def editSummary (ed : Edit) : Edit :=
  let newSummary := textToSql inc.summary
  if inc.summary.isSome ∧ newSummary ≠ stored.summary then
    ed.set { ed.update with summary := newSummary } ("Changed summary: " ++ newSummary.getD "")
  else ed

def editDescription (ed : Edit) : Edit :=
  let newDescription := textToSql inc.location.description
  if inc.location.description.isSome ∧ newDescription ≠ stored.locationDescription then
    ed.set { ed.update with locationDescription := newDescription }
      ("Changed location description: " ++ newDescription.getD "")
  else ed

def editBooth (ed : Edit) : Edit :=
  let newBooth := stringToSql inc.location.booth 32
  if inc.location.booth.isSome ∧ newBooth ≠ stored.locationBooth.map .text then
    ed.set { ed.update with locationBooth := newBooth }
      ("Changed location booth: " ++ (newBooth.map SqlText.string).getD "")
  else ed

/-- An empty slug clears the area; any other must name an area of the incident's event. -/
def editArea (e : Int) (ed : Edit) : Go HTTPError Edit :=
  match inc.location.areaSlug with
  | none => pure ed
  | some areaSlug =>
    let slug := trimSpace areaSlug
    if slug = "" then
      if stored.locationAreaSlug.isSome then
        pure (ed.set { ed.update with locationAreaSlug := none } "Cleared location area")
      else pure ed
    else if stored.locationAreaSlug = some slug then pure ed
    else do
      select .pool (.area e slug) fun err =>
        if err = .noRows then .badRequest ("Unknown area for this event: " ++ slug) (some err)
        else .internalServerError "Failed to look up area" err
      pure (ed.set { ed.update with locationAreaSlug := some slug }
        ("Changed location area: " ++ slug))

end Scalars

/-- All scalar edits, in the source's order. -/
def scalarEdits (s : Service) (inc : IncidentJSON) (st : LoadedIncident) (author : Int)
    (callerIsAdmin : Bool) : Go HTTPError Edit := do
  let stored := st.row.incident
  let ed ← editPrivacy inc stored author callerIsAdmin (Edit.ofStored stored)
  let ed ← editState inc stored (editPriority inc stored ed)
  let ed ← editOutcome inc stored st.allOutcomes ed
  editArea inc stored st.row.event
    (editBooth inc stored (editDescription inc stored (editSummary inc stored
      (editStarted inc stored s ed))))

/-! ## Reconciled lists

A present list is set exactly: what it has and the stored one lacks is added, what the stored one
has and it lacks is removed. Each section returns the lines it logs; those that touch other records
also return which. -/

def namesForIncidentTypes (rows : List (Int × String)) (typeIDs : List Int) : String :=
  ", ".intercalate ((rows.filter fun r => typeIDs.contains r.1).map (·.2))

def namesForLinkedIncidents (linked : List (Int × Int)) (eventNameById : Int → String) : String :=
  ", ".intercalate (linked.map fun l => eventNameById l.1 ++ " #" ++ toString l.2)

/-- A log line, unless nothing changed. -/
def logUnless {α : Type} (changed : List α) (line : JournalLine) : List JournalLine :=
  if changed.isEmpty then [] else [line]

def reconcileTypes (inc : IncidentJSON) (st : LoadedIncident) : Go HTTPError (List JournalLine) :=
  match inc.incidentTypeIDs with
  | none => pure []
  | some desired => do
    let add := sliceSubtract desired st.row.incidentTypeIds
    let sub := sliceSubtract st.row.incidentTypeIds desired
    add.forM fun itype =>
      exec .txn (.attachIncidentTypeToIncident inc.eventID inc.number itype)
        (.internalServerError "Failed to add Incident Type")
    sub.forM fun itype =>
      exec .txn (.detachIncidentTypeFromIncident inc.eventID inc.number itype)
        (.internalServerError "Failed to detach Incident Type")
    pure (logUnless add (.text ("Added type: " ++ namesForIncidentTypes st.allIncidentTypes add)) ++
      logUnless sub (.text ("Removed type: " ++ namesForIncidentTypes st.allIncidentTypes sub)))

/-- Attach a report to the incident and say so on the report's own timeline. -/
def attachReport (e n author report : Int) : Go HTTPError Unit := do
  exec .txn (.attachReportToIncident e report (some n))
    (.internalServerError "Failed to attach Report")
  let _ ← addJournalEntry .txn e report author [.attachedToIncident n] true none

def detachReport (e n author report : Int) : Go HTTPError Unit := do
  exec .txn (.attachReportToIncident e report none)
    (.internalServerError "Failed to detach Report")
  let _ ← addJournalEntry .txn e report author [.detachedFromIncident n] true none

def reconcileReports (inc : IncidentJSON) (st : LoadedIncident) (author : Int) :
    Go HTTPError (List JournalLine × List Int) :=
  match inc.reports with
  | none => pure ([], [])
  | some desired => do
    let add := sliceSubtract desired st.row.reportNumbers
    let sub := sliceSubtract st.row.reportNumbers desired
    add.forM (attachReport inc.eventID inc.number author)
    sub.forM (detachReport inc.eventID inc.number author)
    pure (logUnless add (.reportsAdded add) ++ logUnless sub (.reportsRemoved sub), add ++ sub)

def reconcileVisits (inc : IncidentJSON) (st : LoadedIncident) :
    Go HTTPError (List JournalLine × List Int) :=
  match inc.visits with
  | none => pure ([], [])
  | some desired => do
    let add := sliceSubtract desired st.row.visitNumbers
    let sub := sliceSubtract st.row.visitNumbers desired
    add.forM fun visit =>
      exec .txn (.attachVisitToIncident inc.eventID visit (some inc.number))
        (.internalServerError "Failed to attach Visit")
    sub.forM fun visit =>
      exec .txn (.attachVisitToIncident inc.eventID visit none)
        (.internalServerError "Failed to detach Visit")
    pure (logUnless add (.text ("Visit added: " ++ formatSlice add)) ++
      logUnless sub (.text ("Visit removed: " ++ formatSlice sub)), add ++ sub)

/-- Link another incident, both ways, and say so on its timeline. A first link that fails is put
down to the other incident not existing. -/
def linkIncident (e n author : Int) (eventName : String) (other : Int × Int) :
    Go HTTPError Unit := do
  exec .txn (.linkIncidents e n other.1 other.2) fun err =>
    .badRequest ("Failed to link Incident. There may be no IMS #" ++ toString other.2 ++
      " for the given event.") (some err)
  exec .txn (.linkIncidents other.1 other.2 e n)
    (.internalServerError "Failed to link Incident")
  let _ ← addIncidentJournalEntry .txn other.1 other.2 author
    [.text ("Incident linked: " ++ eventName ++ " #" ++ toString n)] true

def unlinkIncident (e n author : Int) (eventName : String) (other : Int × Int) :
    Go HTTPError Unit := do
  exec .txn (.unlinkIncidents e n other.1 other.2)
    (.internalServerError "Failed to unlink Incident")
  exec .txn (.unlinkIncidents other.1 other.2 e n)
    (.internalServerError "Failed to unlink Incident")
  let _ ← addIncidentJournalEntry .txn other.1 other.2 author
    [.text ("Incident unlinked: " ++ eventName ++ " #" ++ toString n)] true

def reconcileLinkedIncidents (inc : IncidentJSON) (st : LoadedIncident) (author : Int) :
    Go HTTPError (List JournalLine × List (Int × Int)) :=
  match inc.linkedIncidents with
  | none => pure ([], [])
  | some desired => do
    let current := st.linkedIncidents.map fun cli => (cli.linkedEvent, cli.linkedIncident)
    let desired := desired.map fun dli => (dli.eventID, dli.number)
    let add := sliceSubtract desired current
    let sub := sliceSubtract current desired
    let eventName := st.eventNameById inc.eventID
    add.forM (linkIncident inc.eventID inc.number author eventName)
    sub.forM (unlinkIncident inc.eventID inc.number author eventName)
    pure (logUnless add
        (.text ("Incident linked: " ++ namesForLinkedIncidents add st.eventNameById)) ++
      logUnless sub
        (.text ("Incident unlinked: " ++ namesForLinkedIncidents sub st.eventNameById)),
      add ++ sub)

/-! ## Entries -/

/-- One system entry with everything that changed, if anything did. -/
def addChangeEntry (e n author : Int) (logs : List JournalLine) : Go HTTPError Unit :=
  if logs.isEmpty then pure ()
  else do
    let _ ← addIncidentJournalEntry .txn e n author logs true

/-- A typed entry, its mentions and their notifications; returns the people mentioned. -/
def addTypedEntry (s : Service) (e n author : Int) (entry : JournalEntryJSON) :
    Go HTTPError (List Int) :=
  if entry.text = "" then pure []
  else do
    let entryID ← addIncidentJournalEntry .txn e n author [.text entry.text] false
    addJournalEntryMentions s .txn entryID entry.text entry.mentionedPersonIDs
    generateMentionNotifications .txn e n entryID author

/-! ## The whole update -/

/-- What the transaction changed beyond the incident itself, for the messages that follow it. -/
structure Touched where
  mentionedPersonIDs : List Int
  updatedReports : List Int
  updatedVisits : List Int
  updatedLinkedIncidents : List (Int × Int)
  deriving DecidableEq, Repr

/-- Everything between the row write and the commit. -/
def reconcileAll (s : Service) (inc : IncidentJSON) (st : LoadedIncident) (author : Int)
    (scalarLogs : List JournalLine) : Go HTTPError Touched := do
  let typeLogs ← reconcileTypes inc st
  let (reportLogs, updatedReports) ← reconcileReports inc st author
  let (visitLogs, updatedVisits) ← reconcileVisits inc st
  let (linkLogs, updatedLinkedIncidents) ← reconcileLinkedIncidents inc st author
  addChangeEntry inc.eventID inc.number author
    (scalarLogs ++ typeLogs ++ reportLogs ++ visitLogs ++ linkLogs)
  let mentionedPersonIDs ←
    Call.concatMap (addTypedEntry s inc.eventID inc.number author) inc.journalEntries
  pure { mentionedPersonIDs, updatedReports, updatedVisits, updatedLinkedIncidents }

/-- The messages after the commit. -/
def announceUpdate (inc : IncidentJSON) (st : LoadedIncident) (author : Int) (t : Touched) :
    Go HTTPError Unit := do
  notifyIncidentUpdate inc.eventID inc.number
  emit (.notifyMentionedInIncident (st.eventNameById inc.eventID) inc.number t.mentionedPersonIDs
    author)
  t.updatedReports.forM (notifyReportUpdate inc.eventID)
  t.updatedLinkedIncidents.forM fun l => notifyIncidentUpdate l.1 l.2
  t.updatedVisits.forM (notifyVisitUpdate inc.eventID)

/-- The transaction of an update: scalar edits, the write of the whole row, the lists and entries,
and the commit. -/
def updateIncidentTxn (s : Service) (inc : IncidentJSON) (st : LoadedIncident) (author : Int)
    (callerIsAdmin : Bool) : Go HTTPError Touched := do
  let ed ← scalarEdits s inc st author callerIsAdmin
  exec .txn (.updateIncident st.row.event st.row.number ed.update)
    (.internalServerError "Failed to update incident")
  let touched ← reconcileAll s inc st author ed.logs
  commit (.internalServerError "Failed to commit transaction")
  pure touched

def updateIncident (s : Service) (inc : IncidentJSON) (author : Int) (callerIsAdmin : Bool) :
    Go HTTPError Unit := do
  let st ← loadIncident inc
  begin (.internalServerError "Failed to start transaction")
  Call.deferRollback do
    let touched ← updateIncidentTxn s inc st author callerIsAdmin
    announceUpdate inc st author touched

end OcfIms
