import OcfIms.PersonnelStore

/-!
# The dashboard's queries

The statements of the metrics service, on top of those of the other services: one row per incident
and four counts. Where a query has no `order by` its groups come in some order. The `GROUP` column of
an incident type is read by nobody else and stands beside the tables.
-/

namespace OcfIms

open TxnLib

/-- What the queries need beside the tables: the sort keys of names, and the group an incident type
is in. -/
structure MetricsColumns where
  sortKey : String → String
  group : Int → Option IncidentTypeGroup

structure MetricsIncidentsRow where
  number : Int
  state : IncidentState
  priority : Int
  created : Int
  closed : Option Int
  outcomeName : Option String
  summary : Option String
  isPrivate : Bool
  deriving DecidableEq, Repr

/-- A group of rows and how many there are. -/
structure GroupCount (κ : Type) where
  key : κ
  count : Int
  deriving DecidableEq, Repr

structure AreaKey where
  slug : Option String
  name : Option String
  deriving DecidableEq, Repr

structure TypeKey where
  id : Int
  name : String
  deriving DecidableEq, Repr

inductive MetricsRead : Type → Type
  | queryEventID (name : String) : MetricsRead EventRow
  | metricsIncidents (event : Int) : MetricsRead (List MetricsIncidentsRow)
  | metricsIncidentCountByCategory (event : Int) :
      MetricsRead (List (GroupCount (Option IncidentTypeGroup)))
  | metricsIncidentCountByType (event : Int) : MetricsRead (List (GroupCount TypeKey))
  | metricsIncidentCountByArea (event : Int) : MetricsRead (List (GroupCount AreaKey))
  | metricsParticipationCountByEvent (event : Int) : MetricsRead (List (GroupCount ParticipationType))

inductive MetricsWrite : Type → Type

namespace DB

/-- `group by`, with the size of each group. -/
def groupCounts {κ : Type} [DecidableEq κ] (keys : List κ) : List (GroupCount κ) :=
  keys.dedup.map fun key => ⟨key, keys.count key⟩

/-- The order of `order by COUNT desc, NAME`; a null name comes first. -/
def busierFirst {κ : Type} (sortKey : String → String) (name : κ → Option String)
    (a b : GroupCount κ) : Prop :=
  b.count < a.count ∨
    a.count = b.count ∧ nameBefore ((name a.key).map sortKey) ((name b.key).map sortKey)

instance {κ : Type} (sortKey : String → String) (name : κ → Option String) :
    DecidableRel (busierFirst sortKey name) :=
  fun _ _ => inferInstanceAs (Decidable (_ ∨ _))

def metricsIncidentsRow (db : DB) (number : Int) (i : Incident) : MetricsIncidentsRow where
  number
  state := i.state
  priority := i.priority
  created := i.created
  closed := i.closed
  outcomeName := i.outcomeID.bind db.outcome.find?
  summary := i.summary
  isPrivate := i.isPrivate

/-- The event's incidents, by number. -/
def metricsIncidents (db : DB) (e : Int) : List MetricsIncidentsRow :=
  (db.incident.rows.filterMap fun r =>
    if r.1.1 = e then some (db.metricsIncidentsRow r.1.2 r.2) else none).insertionSort fun a b =>
      a.number ≤ b.number

/-- The incidents of an event joined with their types, and what `f` makes of each pair. -/
def typedIncidents {κ : Type} (db : DB) (e : Int) (f : Int → String → κ) : List (κ × Int) :=
  db.incidentIncidentType.rows.filterMap fun r =>
    if r.1.1 = e ∧ db.incident.contains (e, r.1.2.1) = true then
      (db.incidentType.find? r.1.2.2).map fun name => (f r.1.2.2 name, r.1.2.1)
    else none

def metricsByCategory (c : MetricsColumns) (db : DB) (e : Int) :
    List (GroupCount (Option IncidentTypeGroup)) :=
  groupCounts ((db.typedIncidents e fun t _ => c.group t).dedup.map Prod.fst)

def metricsByType (c : MetricsColumns) (db : DB) (e : Int) : List (GroupCount TypeKey) :=
  (groupCounts ((db.typedIncidents e TypeKey.mk).dedup.map Prod.fst)).insertionSort
    (busierFirst c.sortKey fun k => some k.name)

def metricsByArea (c : MetricsColumns) (db : DB) (e : Int) : List (GroupCount AreaKey) :=
  (groupCounts (db.incident.rows.filterMap fun r =>
    if r.1.1 = e then
      some ⟨r.2.locationAreaSlug, r.2.locationAreaSlug.bind fun slug =>
        (db.area.find? (e, slug)).map (·.name)⟩
    else none)).insertionSort (busierFirst c.sortKey AreaKey.name)

def metricsByRole (db : DB) (e : Int) : List (GroupCount ParticipationType) :=
  groupCounts (db.personEvent.rows.filterMap fun r =>
    if r.1.2 = e then some r.2.participationType else none)

end DB

def MetricsRead.eval (c : MetricsColumns) : {β : Type} → MetricsRead β → DB → Except SqlErr β
  | _, .queryEventID name, db => DB.one ((db.event.rows.find? fun r =>
      c.sortKey r.2.name == c.sortKey name).map fun r => ⟨r.1, r.2⟩)
  | _, .metricsIncidents e, db => .ok (db.metricsIncidents e)
  | _, .metricsIncidentCountByCategory e, db => .ok (db.metricsByCategory c e)
  | _, .metricsIncidentCountByType e, db => .ok (db.metricsByType c e)
  | _, .metricsIncidentCountByArea e, db => .ok (db.metricsByArea c e)
  | _, .metricsParticipationCountByEvent e, db => .ok (db.metricsByRole e)

/-- The database as the dashboard reads it. -/
def metricsDB (c : MetricsColumns) :
    Store (fun β => Read β ⊕ MetricsRead β) (fun β => Write β ⊕ MetricsWrite β) SqlErr DB :=
  imsDB.extend (MetricsRead.eval c) fun q => nomatch q

end OcfIms
