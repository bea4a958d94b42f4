import OcfIms.MetricsStore
import OcfIms.IncidentRead

/-!
# The dashboard

`GetMetrics`: what an event's incidents add up to, for its writers and the administrators. The
aggregate is made once for all of them and kept in a cache by the event's name, so nothing in it may
depend on who asks; of a private incident it withholds the summary from everybody.
-/

namespace OcfIms

open TxnLib

structure MetricCount where
  key : String
  label : String
  count : Int
  deriving DecidableEq, Repr

structure MetricDay where
  date : String
  count : Int
  deriving DecidableEq, Repr

structure MetricIncidentRef where
  number : Int
  summary : String
  deriving DecidableEq, Repr

/-- `imsjson.Metrics`; the average is the quotient of the two numbers the source divides. -/
structure MetricsJSON where
  event : String
  eventID : Int
  total : Int
  «open» : Int
  closed : Int
  byState : List MetricCount
  byPriority : List MetricCount
  byCategory : List MetricCount
  byType : List MetricCount
  byRole : List MetricCount
  byArea : List MetricCount
  byDay : List MetricDay
  openFollowUps : List MetricIncidentRef
  avgTimeToCloseSeconds : Option Rat
  closedCount : Int
  generatedAtMS : Int := 0
  deriving DecidableEq, Repr

/-- `resourcesv1.Metrics`. -/
structure MetricsMsg where
  event : String
  eventId : Int
  total : Int
  «open» : Int
  closed : Int
  byState : List MetricCount
  byPriority : List MetricCount
  byCategory : List MetricCount
  byType : List MetricCount
  byRole : List MetricCount
  byArea : List MetricCount
  byDay : List MetricDay
  openFollowUps : List MetricIncidentRef
  avgTimeToCloseSeconds : Option Rat
  closedCount : Int
  generatedAt : Int
  deriving DecidableEq, Repr

def metricsToProto (m : MetricsJSON) : MetricsMsg where
  event := m.event
  eventId := m.eventID
  total := m.total
  «open» := m.open
  closed := m.closed
  byState := m.byState
  byPriority := m.byPriority
  byCategory := m.byCategory
  byType := m.byType
  byRole := m.byRole
  byArea := m.byArea
  byDay := m.byDay
  openFollowUps := m.openFollowUps
  avgTimeToCloseSeconds := m.avgTimeToCloseSeconds
  closedCount := m.closedCount
  generatedAt := m.generatedAtMS * 1000000

/-! ## The aggregate -/

/-- `outcomeFollowUpRequired`. -/
def outcomeFollowUpRequired : String := "Follow-Up Required"

/-- A Go map from keys to counts; a key that is missing counts nothing. -/
abbrev Counts (κ : Type) : Type := List (κ × Int)

namespace Counts

variable {κ : Type} [DecidableEq κ]

def get (m : Counts κ) (k : κ) : Int := (m.lookup k).getD 0

/-- `m[k]++`. -/
def bump (m : Counts κ) (k : κ) : Counts κ :=
  (k, m.get k + 1) :: m.filter (·.1 ≠ k)

end Counts

def priorityKey (priority : Int) : String :=
  if priority ≥ 4 then "high" else if priority ≤ 2 then "low" else "normal"

def stateKey : IncidentState → String
  | .stateOpen => "open"
  | .stateClosed => "closed"

def stateLabel : IncidentState → String
  | .stateOpen => "Open"
  | .stateClosed => "Closed"

/-- `AllIncidentStateValues`. -/
def allIncidentStateValues : List IncidentState := [.stateOpen, .stateClosed]

/-- A null group is the bucket of the types in no group. -/
def categoryKeyLabel : Option IncidentTypeGroup → String × String
  | none => ("", "Ungrouped")
  | some .safety => ("safety", "Safety")
  | some .conduct => ("conduct", "Conduct")
  | some .operations => ("operations", "Operations")
  | some .compliance => ("compliance", "Compliance")

/-- The rungs, from the most privileged down, with their keys and labels. -/
def participationLadder : List (ParticipationType × String × String) :=
  [(.writer, "writer", "FC/BUM"), (.crewLeader, "crew_leader", "Crew leader"),
    (.reporter, "reporter", "Reporter"), (.volunteer, "volunteer", "Volunteer"),
    (.public, "public", "Public"), (.notPresent, "not_present", "Not present"),
    (.ejected, "ejected", "Booted")]

/-- What the loop over the incidents adds up. -/
structure MetricsTally where
  closed : Int := 0
  stateCounts : Counts IncidentState := []
  priorityCounts : Counts String := []
  dayCounts : Counts String := []
  closedCount : Int := 0
  /-- In nanoseconds. -/
  closeSum : Int := 0
  followUps : List MetricIncidentRef := []
  deriving DecidableEq, Repr

/-- The incident is open and its outcome asks for a follow-up. -/
def needsFollowUp (inc : MetricsIncidentsRow) : Bool :=
  inc.outcomeName == some outcomeFollowUpRequired && inc.state != .stateClosed

/-- One incident of the loop; `localDay` is the server's calendar day of a stored time. -/
def tallyIncident (localDay : Int → String) (t : MetricsTally) (inc : MetricsIncidentsRow) :
    MetricsTally where
  closed := if inc.state = .stateClosed then t.closed + 1 else t.closed
  stateCounts := t.stateCounts.bump inc.state
  priorityCounts := t.priorityCounts.bump (priorityKey inc.priority)
  dayCounts := t.dayCounts.bump (localDay inc.created)
  closedCount := if inc.closed.isSome then t.closedCount + 1 else t.closedCount
  closeSum := t.closeSum + (inc.closed.map (· - inc.created)).getD 0
  followUps :=
    if needsFollowUp inc then
      -- A private incident is listed, but the summary is not for every writer to see.
      t.followUps ++ [⟨inc.number, if inc.isPrivate then "" else inc.summary.getD ""⟩]
    else t.followUps

def buildMetrics (localDay : Int → String) (event : EventRow)
    (incidents : List MetricsIncidentsRow)
    (byCategory : List (GroupCount (Option IncidentTypeGroup)))
    (byType : List (GroupCount TypeKey)) (byArea : List (GroupCount AreaKey))
    (byRole : List (GroupCount ParticipationType)) : MetricsJSON :=
  let t := incidents.foldl (tallyIncident localDay) {}
  let total : Int := incidents.length
  { event := event.event.name
    eventID := event.id
    total
    «open» := total - t.closed
    closed := t.closed
    byState := allIncidentStateValues.map fun st =>
      ⟨stateKey st, stateLabel st, t.stateCounts.get st⟩
    byPriority := [("high", "High"), ("normal", "Normal"), ("low", "Low")].map fun p =>
      ⟨p.1, p.2, t.priorityCounts.get p.1⟩
    byCategory := byCategory.map fun row =>
      ⟨(categoryKeyLabel row.key).1, (categoryKeyLabel row.key).2, row.count⟩
    byType := byType.map fun row => ⟨toString row.key.id, row.key.name, row.count⟩
    byArea := byArea.map fun row =>
      if row.key.slug = none then ⟨"", "Unassigned", row.count⟩
      else ⟨row.key.slug.getD "", row.key.name.getD "", row.count⟩
    byRole := participationLadder.map fun rung =>
      ⟨rung.2.1, rung.2.2,
        ((byRole.map fun row => (row.key, row.count)).lookup rung.1).getD 0⟩
    byDay := (t.dayCounts.map fun d => (⟨d.1, d.2⟩ : MetricDay)).insertionSort
      fun a b => ¬ b.date < a.date
    openFollowUps := t.followUps
    avgTimeToCloseSeconds :=
      if t.closedCount > 0 then some ((t.closeSum : Rat) / storedSecond / t.closedCount) else none
    closedCount := t.closedCount }

/-! ## The service's programs -/

inductive MetricsAsk : Type → Type
  /-- The aggregate the cache holds under a name, if it has not expired. -/
  | cached (eventName : String) : MetricsAsk (Option MetricsJSON)

inductive MetricsEffect
  /-- The cache takes up a new aggregate. -/
  | cache (eventName : String) (metrics : MetricsJSON)
  deriving DecidableEq, Repr

abbrev MetricsOp : Type → Type 1 :=
  DbOp (fun β => Read β ⊕ MetricsRead β) (fun β => Write β ⊕ MetricsWrite β)
    (fun β => Ask β ⊕ MetricsAsk β) SqlErr (Effect ⊕ MetricsEffect)

abbrev MetricsGo (ε α : Type) : Type 1 := Call MetricsOp ε α

abbrev MetricsEnv : Type 1 := Env fun β => Ask β ⊕ MetricsAsk β

abbrev MetricsWorld : Type := World DB (Effect ⊕ MetricsEffect)

/-- Nothing fails, the clock stands at the epoch and the cache is empty. -/
def stillMetricsEnv : MetricsEnv where
  answer := fun n _ q => match q with
    | .inl q => stillEnv.answer n q
    | .inr (.cached _) => none
  fault := fun _ => none

/-- A program of the other services, run by this one. -/
def metricsFromIms {ε α : Type} (x : Go ε α) : MetricsGo ε α := x.widen

section Statements

variable {ε α : Type}

def metricsSelect (q : MetricsRead α) (err : SqlErr → ε) : MetricsGo ε α :=
  Call.mapErr err (Call.attempt (.read .pool (.inr q)))

end Statements

/-- `server.GetEventCtx`. -/
def getEventCtx (eventName : String) : MetricsGo HTTPError EventRow :=
  if eventName = "" then throw (.badRequest "No eventName was provided" none)
  else metricsSelect (.queryEventID eventName) fun err =>
    if err = .noRows then .notFound "Event not found" (some err)
    else .internalServerError "Failed to fetch Event" err

/-- The source runs the five queries concurrently; none depends on another. -/
def computeMetrics (localDay : Int → String) (eventName : String) :
    MetricsGo HTTPError MetricsJSON := do
  let event ← getEventCtx eventName
  let incidents ← metricsSelect (.metricsIncidents event.id)
    (.internalServerError "Failed to fetch incidents")
  let byCategory ← metricsSelect (.metricsIncidentCountByCategory event.id)
    (.internalServerError "Failed to fetch category counts")
  let byType ← metricsSelect (.metricsIncidentCountByType event.id)
    (.internalServerError "Failed to fetch type counts")
  let byArea ← metricsSelect (.metricsIncidentCountByArea event.id)
    (.internalServerError "Failed to fetch area counts")
  let byRole ← metricsSelect (.metricsParticipationCountByEvent event.id)
    (.internalServerError "Failed to fetch role counts")
  let now ← metricsFromIms now
  pure { buildMetrics localDay event incidents byCategory byType byArea byRole with
    generatedAtMS := now / 1000000 }

/-- `Cache.Get`: the aggregate in the cache, or a new one that is cached. -/
def cachedMetrics (localDay : Int → String) (eventName : String) :
    MetricsGo HTTPError MetricsJSON := do
  match ← Call.perform (.ask (.inr (.cached eventName))) with
  | some metrics => pure metrics
  | none => do
    let metrics ← computeMetrics localDay eventName
    Call.perform (.emit (.inr (.cache eventName metrics)))
    pure metrics

/-- `GetMetrics`. -/
def getMetrics (localDay : Int → String) (ctx : Option IMSClaims) (eventId : Int) :
    MetricsGo ConnectError MetricsMsg := do
  let claims ← metricsFromIms (authenticated ctx)
  let perms ← metricsFromIms (permissionsAt eventId claims)
  Call.ensure (hasBit perms eventWriteIncidents) ⟨.permissionDenied,
    "the dashboard is restricted to administrators and event writers"⟩
  let ev ← metricsFromIms (select .pool (.event eventId) fun err =>
    if err = .noRows then (⟨.notFound, "no such event"⟩ : ConnectError)
    else internalError "failed to look up event" err)
  let metrics ← Call.mapErr herrToConnect (cachedMetrics localDay ev.event.name)
  pure (metricsToProto metrics)

end OcfIms
