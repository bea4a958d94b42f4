import Mathlib
import OcfIms.Server

/-!
# Areas in the database

The statements of the area service and of the event service's area set, on top of those of the other
services. An area's slug is made of lower-case letters, digits and hyphens, and is compared as it is;
only the order by name is the collation's. A row that names its own slug as its parent satisfies the
foreign key.
-/

namespace OcfIms

open TxnLib

structure AreaRow where
  slug : String
  area : Area
  deriving DecidableEq, Repr

inductive AreaRead : Type → Type
  | areas (event : Int) : AreaRead (List AreaRow)
  | latestEventWithAreas : AreaRead Int

structure CreateAreaParams where
  event : Int
  slug : String
  area : Area
  deriving DecidableEq, Repr

structure UpdateAreaParams where
  name : String
  parentSlug : Option String
  sortOrder : Int
  event : Int
  slug : String
  deriving DecidableEq, Repr

inductive AreaWrite : Type → Type
  | createArea (params : CreateAreaParams) : AreaWrite Unit
  | approveArea (event : Int) (slug : String) : AreaWrite Unit
  | deleteArea (event : Int) (slug : String) : AreaWrite Unit
  | repointIncidentsArea (toSlug : String) (event : Int) (fromSlug : String) : AreaWrite Unit
  | updateArea (params : UpdateAreaParams) : AreaWrite Unit

namespace DB

/-- The order of `order by SORT_ORDER, NAME`. -/
def areaBefore (sortKey : String → String) (a b : AreaRow) : Prop :=
  a.area.sortOrder < b.area.sortOrder ∨
    a.area.sortOrder = b.area.sortOrder ∧ ¬ sortKey b.area.name < sortKey a.area.name

instance (sortKey : String → String) : DecidableRel (areaBefore sortKey) :=
  fun _ _ => inferInstanceAs (Decidable (_ ∨ _))

def areas (sortKey : String → String) (db : DB) (e : Int) : List AreaRow :=
  (db.area.rows.filterMap fun r => if r.1.1 = e then some ⟨r.1.2, r.2⟩ else none).insertionSort
    (areaBefore sortKey)

def hasAreas (db : DB) (e : Int) : Bool := db.area.rows.any (·.1.1 == e)

/-- The highest number among the real events that have areas. -/
def latestEventWithAreas (db : DB) : Option Int :=
  (db.event.rows.filterMap fun r => if !r.2.isGroup && db.hasAreas r.1 then some r.1 else none).max?

/-- A text of at most so many characters: error 1406 for a longer one. -/
def column {α : Type} (width : Nat) (s : String) (k : Except SqlErr α) : Except SqlErr α :=
  if s.length ≤ width then k else .error (.mysql 1406)

/-- A row that others name stays: error 1451. -/
def unreferenced {α : Type} (named : Bool) (k : Except SqlErr α) : Except SqlErr α :=
  if named then .error (.mysql 1451) else k

@[simp] theorem column_eq_ok {α : Type} {width : Nat} {s : String} {k : Except SqlErr α} {a : α} :
    column width s k = .ok a ↔ s.length ≤ width ∧ k = .ok a := by
  rw [column]
  split <;> simp_all

@[simp] theorem unreferenced_eq_ok {α : Type} {named : Bool} {k : Except SqlErr α} {a : α} :
    unreferenced named k = .ok a ↔ named = false ∧ k = .ok a := by
  cases named <;> simp [unreferenced]

/-- Another area of the event has this one as its parent. -/
def isParentArea (db : DB) (e : Int) (slug : String) : Bool :=
  db.area.rows.any fun r => r.1.1 == e && r.2.parentSlug == some slug

def isIncidentArea (db : DB) (e : Int) (slug : String) : Bool :=
  db.incident.rows.any fun r => r.1.1 == e && r.2.locationAreaSlug == some slug

/-- `CreateArea`. The parent is looked for with the new row in place. -/
def insertArea (p : CreateAreaParams) (db : DB) : Except SqlErr DB :=
  let area := db.area.insert (p.event, p.slug) p.area
  column 128 p.slug <|
  column 255 p.area.name <|
  unique (db.area.contains (p.event, p.slug)) <|
  references (db.event.contains p.event) <|
  references (nullOr area (p.area.parentSlug.map (p.event, ·))) <|
  references (nullOr db.person p.area.proposedByPersonID) <|
  .ok { db with area }

end DB

def AreaRead.eval (sortKey : String → String) : {β : Type} → AreaRead β → DB → Except SqlErr β
  | _, .areas e, db => .ok (db.areas sortKey e)
  | _, .latestEventWithAreas, db => DB.one db.latestEventWithAreas

open DB in
def AreaWrite.apply : {β : Type} → AreaWrite β → Int → DB → Except SqlErr (β × DB)
  | _, .createArea p, _, db => (insertArea p db).map ((), ·)
  | _, .approveArea e slug, _, db =>
      .ok ((), { db with area := db.area.modify (e, slug) fun r => { r with approved := true } })
  | _, .deleteArea e slug, _, db =>
      match db.area.find? (e, slug) with
      | none => .ok ((), db)
      | some _ =>
        unreferenced (db.isParentArea e slug) <|
        unreferenced (db.isIncidentArea e slug) <|
        .ok ((), { db with area := db.area.erase (e, slug) })
  | _, .repointIncidentsArea toSlug e fromSlug, _, db =>
      references (!db.isIncidentArea e fromSlug || db.area.contains (e, toSlug)) <|
      .ok ((), { db with
        incident := db.incident.mapVal fun k r =>
          if k.1 = e ∧ r.locationAreaSlug = some fromSlug then
            { r with locationAreaSlug := some toSlug }
          else r })
  | _, .updateArea p, _, db =>
      match db.area.find? (p.event, p.slug) with
      | none => .ok ((), db)
      | some _ =>
        column 255 p.name <|
        references (nullOr db.area (p.parentSlug.map (p.event, ·))) <|
        .ok ((), { db with
          area := db.area.modify (p.event, p.slug) fun r =>
            { r with name := p.name, parentSlug := p.parentSlug, sortOrder := p.sortOrder } })

theorem AreaWrite.createArea_eq_ok {p : CreateAreaParams} {id : Int} {db db' : DB} {b : Unit} :
    (AreaWrite.createArea p).apply id db = .ok (b, db') ↔ DB.insertArea p db = .ok db' := by
  rw [AreaWrite.apply]
  cases DB.insertArea p db <;> simp [Except.map]

/-- The database as the area service uses it. -/
def areaDB (sortKey : String → String) :
    Store (fun β => Read β ⊕ AreaRead β) (fun β => Write β ⊕ AreaWrite β) SqlErr DB :=
  imsDB.extend (AreaRead.eval sortKey) AreaWrite.apply

/-! ## The service's programs -/

inductive AreaAsk : Type → Type

inductive AreaEffect
  | invalidateAreas (eventID : Int)
  deriving DecidableEq, Repr

abbrev AreaOp : Type → Type 1 :=
  DbOp (fun β => Read β ⊕ AreaRead β) (fun β => Write β ⊕ AreaWrite β)
    (fun β => Ask β ⊕ AreaAsk β) SqlErr (Effect ⊕ AreaEffect)

abbrev AreaGo (ε α : Type) : Type 1 := Call AreaOp ε α

abbrev AreaEnv : Type 1 := Env fun β => Ask β ⊕ AreaAsk β

abbrev AreaWorld : Type := World DB (Effect ⊕ AreaEffect)

/-- Nothing fails, the clock stands at the epoch and the directory is empty. -/
def stillAreaEnv : AreaEnv where
  answer := fun n _ q => match q with
    | .inl q => stillEnv.answer n q
  fault := fun _ => none

section Statements

variable {ε α : Type}

def areaSelect (c : Conn) (q : AreaRead α) (err : SqlErr → ε) : AreaGo ε α :=
  Call.mapErr err (Call.attempt (.read c (.inr q)))

def areaExec (c : Conn) (q : AreaWrite α) (err : SqlErr → ε) : AreaGo ε α :=
  Call.mapErr err (Call.attempt (.write c (.inr q)))

end Statements

end OcfIms
