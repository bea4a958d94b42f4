import OcfIms.AreaStore

/-!
# Incident types and outcomes in the database

The statements of the two reference-data services, on top of those of the other services. The two
tables are alike: a unique name, whether it is hidden and approved, and who proposed it; only an
incident type has a description and a group. Names are unique by the collation, so two of them are
the same name when their sort keys are.
-/

namespace OcfIms

open TxnLib

/-- Which of the two tables. -/
inductive ReferenceKind
  | incidentType
  | outcome
  deriving DecidableEq, Repr

structure ReferenceRow where
  id : Int
  name : String
  columns : ReferenceColumns := {}
  deriving DecidableEq, Repr

/-- The parameters of `CreateIncidentType` and of `CreateOutcome`, which has no group. -/
structure CreateReferenceParams where
  name : String
  hidden : Bool
  group : Option IncidentTypeGroup := none
  approved : Bool
  proposedByPersonID : Option Int
  deriving DecidableEq, Repr

structure UpdateIncidentTypeParams where
  hidden : Bool
  name : String
  description : Option SqlText
  group : Option IncidentTypeGroup
  id : Int
  deriving DecidableEq, Repr

structure UpdateOutcomeParams where
  hidden : Bool
  name : String
  id : Int
  deriving DecidableEq, Repr

inductive ReferenceRead : Type → Type
  /-- `IncidentType` and `Outcome`. -/
  | row (kind : ReferenceKind) (id : Int) : ReferenceRead ReferenceRow
  /-- `IncidentTypeByName` and `OutcomeByName`. -/
  | byName (kind : ReferenceKind) (name : String) : ReferenceRead ReferenceRow

inductive ReferenceWrite : Type → Type
  /-- `CreateIncidentType` and `CreateOutcome`. -/
  | create (kind : ReferenceKind) (params : CreateReferenceParams) : ReferenceWrite Int
  | updateIncidentType (params : UpdateIncidentTypeParams) : ReferenceWrite Unit
  | updateOutcome (params : UpdateOutcomeParams) : ReferenceWrite Unit
  /-- `ApproveIncidentType` and `ApproveOutcome`. -/
  | approve (kind : ReferenceKind) (id : Int) : ReferenceWrite Unit

namespace DB

/-- The names in a table. -/
def referenceNames (db : DB) : ReferenceKind → Table Int String
  | .incidentType => db.incidentType
  | .outcome => db.outcome

/-- The other columns of a table. -/
def referenceColumns (db : DB) : ReferenceKind → Table Int ReferenceColumns
  | .incidentType => db.incidentTypeColumns
  | .outcome => db.outcomeColumns

/-- The database with a table changed. -/
def setReference (db : DB) (kind : ReferenceKind) (names : Table Int String)
    (columns : Table Int ReferenceColumns) : DB :=
  match kind with
  | .incidentType => { db with incidentType := names, incidentTypeColumns := columns }
  | .outcome => { db with outcome := names, outcomeColumns := columns }

theorem referenceNames_setReference (db : DB) (kind kind' : ReferenceKind)
    (names : Table Int String) (columns : Table Int ReferenceColumns) :
    (db.setReference kind names columns).referenceNames kind' =
      if kind' = kind then names else db.referenceNames kind' := by
  cases kind <;> cases kind' <;> rfl

@[simp] theorem setReference_area (db : DB) (kind : ReferenceKind) (names : Table Int String)
    (columns : Table Int ReferenceColumns) : (db.setReference kind names columns).area = db.area := by
  cases kind <;> rfl

@[simp] theorem setReference_crew (db : DB) (kind : ReferenceKind) (names : Table Int String)
    (columns : Table Int ReferenceColumns) : (db.setReference kind names columns).crew = db.crew := by
  cases kind <;> rfl

def reference (db : DB) (kind : ReferenceKind) (id : Int) : Option ReferenceRow :=
  ((db.referenceNames kind).find? id).map fun name =>
    ⟨id, name, ((db.referenceColumns kind).find? id).getD {}⟩

/-- Another row of the table than this one has the name. -/
def takesName (sortKey : String → String) (db : DB) (kind : ReferenceKind) (id : Int)
    (name : String) : Bool :=
  (db.referenceNames kind).rows.any fun r => r.1 != id && sortKey r.2 == sortKey name

def referenceByName (sortKey : String → String) (db : DB) (kind : ReferenceKind) (name : String) :
    Option ReferenceRow :=
  ((db.referenceNames kind).rows.find? fun r => sortKey r.2 == sortKey name).bind fun r =>
    db.reference kind r.1

/-- The table's other columns, after a change to those of one row. -/
def editColumns (db : DB) (kind : ReferenceKind) (id : Int)
    (f : ReferenceColumns → ReferenceColumns) : Table Int ReferenceColumns :=
  (db.referenceColumns kind).put id (f (((db.referenceColumns kind).find? id).getD {}))

/-- Write a new name into a row, and change its other columns. -/
def updateReference (sortKey : String → String) (db : DB) (kind : ReferenceKind) (id : Int)
    (name : String) (f : ReferenceColumns → ReferenceColumns) : Except SqlErr (Unit × DB) :=
  column 128 name <|
  unique (db.takesName sortKey kind id name) <|
  .ok ((), db.setReference kind ((db.referenceNames kind).modify id fun _ => name)
    (db.editColumns kind id f))

end DB

def ReferenceRead.eval (sortKey : String → String) :
    {β : Type} → ReferenceRead β → DB → Except SqlErr β
  | _, .row kind id, db => DB.one (db.reference kind id)
  | _, .byName kind name, db => DB.one (db.referenceByName sortKey kind name)

open DB in
def ReferenceWrite.apply (sortKey : String → String) :
    {β : Type} → ReferenceWrite β → Int → DB → Except SqlErr (β × DB)
  | _, .create kind p, id, db =>
      column 128 p.name <|
      unique (db.takesName sortKey kind id p.name) <|
      references (nullOr db.person p.proposedByPersonID) <|
      .ok (id, db.setReference kind ((db.referenceNames kind).insert id p.name)
        ((db.referenceColumns kind).insert id
          { hidden := p.hidden
            group := p.group
            approved := p.approved
            proposedByPersonID := p.proposedByPersonID }))
  | _, .updateIncidentType p, _, db =>
      match (db.referenceNames .incidentType).find? p.id with
      | none => .ok ((), db)
      | some _ =>
        textColumn p.description fun description =>
        db.updateReference sortKey .incidentType p.id p.name fun c =>
          { c with hidden := p.hidden, description, group := p.group }
  | _, .updateOutcome p, _, db =>
      match (db.referenceNames .outcome).find? p.id with
      | none => .ok ((), db)
      | some _ => db.updateReference sortKey .outcome p.id p.name fun c => { c with hidden := p.hidden }
  | _, .approve kind id, _, db =>
      match (db.referenceNames kind).find? id with
      | none => .ok ((), db)
      | some _ =>
        .ok ((), db.setReference kind (db.referenceNames kind)
          (db.editColumns kind id fun c => { c with approved := true }))

/-- The database as the reference-data services use it. -/
def referenceDB (sortKey : String → String) :
    Store (fun β => Read β ⊕ ReferenceRead β) (fun β => Write β ⊕ ReferenceWrite β) SqlErr DB :=
  imsDB.extend (ReferenceRead.eval sortKey) (ReferenceWrite.apply sortKey)

/-! ## The services' programs -/

inductive ReferenceAsk : Type → Type

inductive ReferenceEffect
  /-- `s.Metrics.InvalidateAll`. -/
  | invalidateMetrics
  | invalidateTypes
  | invalidateOutcomes
  deriving DecidableEq, Repr

abbrev ReferenceOp : Type → Type 1 :=
  DbOp (fun β => Read β ⊕ ReferenceRead β) (fun β => Write β ⊕ ReferenceWrite β)
    (fun β => Ask β ⊕ ReferenceAsk β) SqlErr (Effect ⊕ ReferenceEffect)

abbrev ReferenceGo (ε α : Type) : Type 1 := Call ReferenceOp ε α

abbrev ReferenceEnv : Type 1 := Env fun β => Ask β ⊕ ReferenceAsk β

/-- Nothing fails, the clock stands at the epoch and the directory is empty. -/
def stillReferenceEnv : ReferenceEnv where
  answer := fun n _ q => match q with
    | .inl q => stillEnv.answer n q
  fault := fun _ => none

section Statements

variable {ε α : Type}

def referenceSelect (c : Conn) (q : ReferenceRead α) (err : SqlErr → ε) : ReferenceGo ε α :=
  Call.mapErr err (Call.attempt (.read c (.inr q)))

def referenceExec (c : Conn) (q : ReferenceWrite α) (err : SqlErr → ε) : ReferenceGo ε α :=
  Call.mapErr err (Call.attempt (.write c (.inr q)))

end Statements

end OcfIms
