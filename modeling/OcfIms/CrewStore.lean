import Mathlib
import OcfIms.AreaStore
import OcfIms.PersonStore

/-!
# Crews in the database

The statements of the crew service, on top of those of the personnel service: a crew and its members
are rows of their own, and a membership carries the leader flag.
-/

namespace OcfIms

open TxnLib

structure CrewRow where
  slug : String
  crew : Crew
  deriving DecidableEq, Repr

inductive CrewRead : Type → Type
  | crews (event : Int) : CrewRead (List CrewRow)
  /-- The leader flag of a membership. -/
  | crewMembership (event : Int) (crewSlug : String) (personID : Int) : CrewRead Bool

inductive CrewWrite : Type → Type
  | createCrew (event : Int) (slug : String) (crew : Crew) : CrewWrite Unit
  | updateCrew (crew : Crew) (event : Int) (slug : String) : CrewWrite Unit
  | deleteCrew (event : Int) (slug : String) : CrewWrite Unit
  | addCrewMember (event : Int) (crewSlug : String) (personID : Int) (isLeader : Bool) :
      CrewWrite Unit
  | addCrewMemberIfAbsent (event : Int) (crewSlug : String) (personID : Int) : CrewWrite Unit
  | removeCrewMember (event : Int) (crewSlug : String) (personID : Int) : CrewWrite Unit
  | removeAllCrewMembers (event : Int) (crewSlug : String) : CrewWrite Unit

namespace DB

/-- The order of `order by SORT_ORDER, NAME`. -/
def crewBefore (sortKey : String → String) (a b : CrewRow) : Prop :=
  a.crew.sortOrder < b.crew.sortOrder ∨
    a.crew.sortOrder = b.crew.sortOrder ∧ ¬ sortKey b.crew.name < sortKey a.crew.name

instance (sortKey : String → String) : DecidableRel (crewBefore sortKey) :=
  fun _ _ => inferInstanceAs (Decidable (_ ∨ _))

def crews (sortKey : String → String) (db : DB) (e : Int) : List CrewRow :=
  (db.crew.rows.filterMap fun r => if r.1.1 = e then some ⟨r.1.2, r.2⟩ else none).insertionSort
    (crewBefore sortKey)

/-- The crew has a member. -/
def isCrewOfMember (db : DB) (e : Int) (slug : String) : Bool :=
  db.crewMembership.rows.any fun r => r.1.1 == e && r.1.2.1 == slug

/-- A new membership. -/
def insertMember (e : Int) (slug : String) (person : Int) (isLeader : Bool) (db : DB) :
    Except SqlErr (Unit × DB) :=
  references (db.crew.contains (e, slug)) <|
  references (db.person.contains person) <|
  .ok ((), { db with crewMembership := db.crewMembership.insert (e, slug, person) isLeader })

end DB

def CrewRead.eval (sortKey : String → String) : {β : Type} → CrewRead β → DB → Except SqlErr β
  | _, .crews e, db => .ok (db.crews sortKey e)
  | _, .crewMembership e slug p, db => DB.one (db.crewMembership.find? (e, slug, p))

open DB in
def CrewWrite.apply : {β : Type} → CrewWrite β → Int → DB → Except SqlErr (β × DB)
  | _, .createCrew e slug crew, _, db =>
      column 128 slug <|
      column 255 crew.name <|
      unique (db.crew.contains (e, slug)) <|
      references (db.event.contains e) <|
      .ok ((), { db with crew := db.crew.insert (e, slug) crew })
  | _, .updateCrew crew e slug, _, db =>
      match db.crew.find? (e, slug) with
      | none => .ok ((), db)
      | some _ =>
        column 255 crew.name <|
        .ok ((), { db with crew := db.crew.modify (e, slug) fun _ => crew })
  | _, .deleteCrew e slug, _, db =>
      match db.crew.find? (e, slug) with
      | none => .ok ((), db)
      | some _ =>
        unreferenced (db.isCrewOfMember e slug) <|
        .ok ((), { db with crew := db.crew.erase (e, slug) })
  | _, .addCrewMember e slug person isLeader, _, db =>
      if db.crewMembership.contains (e, slug, person) then
        .ok ((), { db with
          crewMembership := db.crewMembership.modify (e, slug, person) fun _ => isLeader })
      else db.insertMember e slug person isLeader
  | _, .addCrewMemberIfAbsent e slug person, _, db =>
      if db.crewMembership.contains (e, slug, person) then .ok ((), db)
      else db.insertMember e slug person false
  | _, .removeCrewMember e slug person, _, db =>
      .ok ((), { db with crewMembership := db.crewMembership.erase (e, slug, person) })
  | _, .removeAllCrewMembers e slug, _, db =>
      .ok ((), { db with
        crewMembership := db.crewMembership.filter fun k _ => !(k.1 == e && k.2.1 == slug) })

/-- The database as the personnel and crew services use it. -/
def crewDB (sortKey : String → String) :
    Store (fun β => (Read β ⊕ PersonRead β) ⊕ CrewRead β)
      (fun β => (Write β ⊕ PersonWrite β) ⊕ CrewWrite β) SqlErr DB :=
  (personDB sortKey).extend (CrewRead.eval sortKey) CrewWrite.apply

/-! ## The services' programs -/

inductive CrewAsk : Type → Type

inductive CrewEffect
  | invalidateCrews (eventID : Int)
  deriving DecidableEq, Repr

abbrev CrewOp : Type → Type 1 :=
  DbOp (fun β => (Read β ⊕ PersonRead β) ⊕ CrewRead β)
    (fun β => (Write β ⊕ PersonWrite β) ⊕ CrewWrite β)
    (fun β => (Ask β ⊕ PersonAsk β) ⊕ CrewAsk β) SqlErr ((Effect ⊕ PersonEffect) ⊕ CrewEffect)

abbrev CrewGo (ε α : Type) : Type 1 := Call CrewOp ε α

abbrev CrewEnv : Type 1 := Env fun β => (Ask β ⊕ PersonAsk β) ⊕ CrewAsk β

abbrev CrewWorld : Type := World DB ((Effect ⊕ PersonEffect) ⊕ CrewEffect)

/-- Nothing fails, the clock stands at the epoch and every hash is the same. -/
def stillCrewEnv : CrewEnv where
  answer := fun n _ q => match q with
    | .inl q => stillPersonEnv.answer n q
  fault := fun _ => none

/-- A program of the personnel service, run by these. -/
def fromPerson {ε α : Type} (x : PersonGo ε α) : CrewGo ε α := x.widen

section Statements

variable {ε α : Type}

def crewSelect (c : Conn) (q : CrewRead α) (err : SqlErr → ε) : CrewGo ε α :=
  Call.mapErr err (Call.attempt (.read c (.inr q)))

def crewExec (c : Conn) (q : CrewWrite α) (err : SqlErr → ε) : CrewGo ε α :=
  Call.mapErr err (Call.attempt (.write c (.inr q)))

end Statements

end OcfIms
