import OcfIms.AuthLogin
import OcfIms.CrewStore

/-!
# The registry as it is listed

The queries of the personnel listing, on top of those of the other services: everybody or an event's
roster, people by number, and the typeahead. A row carries the columns its query selects, needed or
not. Two things are the collation's: the order of names, and what a pattern matches. People whose
names are equal to it come in the order they are stored.
-/

namespace OcfIms

open TxnLib

/-- The collation of the text columns: the order of texts is that of their sort keys, and
`like s pattern` is `s LIKE pattern`. -/
structure Collation where
  sortKey : String → String
  like : String → String → Bool

structure AllPeopleRow where
  id : Int
  handle : Option String
  name : Option String
  email : Option String
  phone : Option String
  isAdmin : Bool
  hasPassword : Bool
  wristband : Option String
  participationType : Option ParticipationType
  deriving DecidableEq, Repr

structure EventRosterRow where
  id : Int
  handle : Option String
  name : Option String
  email : Option String
  phone : Option String
  isAdmin : Bool
  hasPassword : Bool
  wristband : Option String
  participationType : ParticipationType
  deriving DecidableEq, Repr

structure SearchPeopleRow where
  id : Int
  handle : Option String
  name : Option String
  wristband : Option String
  participationType : Option ParticipationType
  deriving DecidableEq, Repr

structure PersonEventRow where
  personID : Int
  personEvent : PersonEvent
  deriving DecidableEq, Repr

structure EventCrewMembershipsRow where
  personID : Int
  crew : CrewRow
  isLeader : Bool
  deriving DecidableEq, Repr

inductive PersonnelRead : Type → Type
  | allPeople (event : Int) : PersonnelRead (List AllPeopleRow)
  | eventRoster (event : Int) : PersonnelRead (List EventRosterRow)
  | peopleByIDs (ids : List Int) : PersonnelRead (List PersonByIDRow)
  | personEventsForPeople (event : Int) (personIds : List Int) : PersonnelRead (List PersonEventRow)
  | eventCrewMemberships (event : Int) : PersonnelRead (List EventCrewMembershipsRow)
  | searchPeople (event : Int) (query : String) : PersonnelRead (List SearchPeopleRow)

inductive PersonnelWrite : Type → Type

namespace DB

/-- `coalesce(NAME, HANDLE)`, by its sort key. -/
def nameKey (sortKey : String → String) (name handle : Option String) : Option String :=
  (name.orElse fun _ => handle).map sortKey

/-- The order of `order by coalesce(NAME, HANDLE)`: nulls come first. -/
def nameBefore : Option String → Option String → Prop
  | none, _ => True
  | some _, none => False
  | some a, some b => ¬ b < a

instance : DecidableRel nameBefore
  | none, _ => inferInstanceAs (Decidable True)
  | some _, none => inferInstanceAs (Decidable False)
  | some a, some b => inferInstanceAs (Decidable (¬ b < a))

def allPeopleRow (db : DB) (e id : Int) (p : Person) : AllPeopleRow where
  id
  handle := p.handle
  name := p.name
  email := p.email
  phone := p.phone
  isAdmin := p.isAdmin
  hasPassword := p.password.isSome
  wristband := (db.personEvent.find? (id, e)).bind (·.wristband)
  participationType := (db.personEvent.find? (id, e)).map (·.participationType)

def eventRosterRow (id : Int) (p : Person) (pe : PersonEvent) : EventRosterRow where
  id
  handle := p.handle
  name := p.name
  email := p.email
  phone := p.phone
  isAdmin := p.isAdmin
  hasPassword := p.password.isSome
  wristband := pe.wristband
  participationType := pe.participationType

def personByIDRow (id : Int) (p : Person) : PersonByIDRow :=
  ⟨id, p.handle, p.name, p.email, p.phone, p.isAdmin, p.password.isSome, p.profilePicture⟩

def searchPeopleRow (db : DB) (e id : Int) (p : Person) : SearchPeopleRow where
  id
  handle := p.handle
  name := p.name
  wristband := (db.personEvent.find? (id, e)).bind (·.wristband)
  participationType := (db.personEvent.find? (id, e)).map (·.participationType)

/-- One of the three searched columns matches; a null matches as the empty text. -/
def searchMatches (c : Collation) (query : String) (r : SearchPeopleRow) : Bool :=
  c.like (r.handle.getD "") query || c.like (r.name.getD "") query ||
    c.like (r.wristband.getD "") query

def allPeople (c : Collation) (db : DB) (e : Int) : List AllPeopleRow :=
  (db.person.rows.map fun r => db.allPeopleRow e r.1 r.2).insertionSort fun a b =>
    nameBefore (nameKey c.sortKey a.name a.handle) (nameKey c.sortKey b.name b.handle)

def eventRoster (c : Collation) (db : DB) (e : Int) : List EventRosterRow :=
  (db.person.rows.filterMap fun r =>
    (db.personEvent.find? (r.1, e)).map (eventRosterRow r.1 r.2)).insertionSort fun a b =>
      nameBefore (nameKey c.sortKey a.name a.handle) (nameKey c.sortKey b.name b.handle)

def searchPeople (c : Collation) (db : DB) (e : Int) (query : String) : List SearchPeopleRow :=
  (((db.person.rows.map fun r => db.searchPeopleRow e r.1 r.2).filter
    (searchMatches c query)).insertionSort fun a b =>
      nameBefore (nameKey c.sortKey a.name a.handle) (nameKey c.sortKey b.name b.handle)).take 25

/-- The memberships of an event, in the order of the crews. -/
def eventCrewMemberships (c : Collation) (db : DB) (e : Int) : List EventCrewMembershipsRow :=
  (db.crewMembership.rows.filterMap fun r =>
    if r.1.1 = e then (db.crew.find? (e, r.1.2.1)).map fun crew =>
      ⟨r.1.2.2, ⟨r.1.2.1, crew⟩, r.2⟩
    else none).insertionSort fun a b => crewBefore c.sortKey a.crew b.crew

end DB

def PersonnelRead.eval (c : Collation) : {β : Type} → PersonnelRead β → DB → Except SqlErr β
  | _, .allPeople e, db => .ok (db.allPeople c e)
  | _, .eventRoster e, db => .ok (db.eventRoster c e)
  | _, .peopleByIDs ids, db => .ok (db.person.rows.filterMap fun r =>
      if r.1 ∈ ids then some (DB.personByIDRow r.1 r.2) else none)
  | _, .personEventsForPeople e ids, db => .ok (db.personEvent.rows.filterMap fun r =>
      if r.1.2 = e ∧ r.1.1 ∈ ids then some ⟨r.1.1, r.2⟩ else none)
  | _, .eventCrewMemberships e, db => .ok (db.eventCrewMemberships c e)
  | _, .searchPeople e query, db => .ok (db.searchPeople c e query)

/-- The database as the personnel listing reads it. -/
def personnelDB (c : Collation) :
    Store (fun β => Read β ⊕ PersonnelRead β) (fun β => Write β ⊕ PersonnelWrite β) SqlErr DB :=
  imsDB.extend (PersonnelRead.eval c) fun q => nomatch q

/-! ## The service's programs -/

inductive PersonnelAsk : Type → Type
  /-- The directory's users, in the order the map is walked. -/
  | getPeople : PersonnelAsk (Except SqlErr (List DirectoryUser))

inductive PersonnelEffect
  deriving DecidableEq, Repr

abbrev PersonnelOp : Type → Type 1 :=
  DbOp (fun β => Read β ⊕ PersonnelRead β) (fun β => Write β ⊕ PersonnelWrite β)
    (fun β => Ask β ⊕ PersonnelAsk β) SqlErr (Effect ⊕ PersonnelEffect)

abbrev PersonnelGo (ε α : Type) : Type 1 := Call PersonnelOp ε α

abbrev PersonnelEnv : Type 1 := Env fun β => Ask β ⊕ PersonnelAsk β

abbrev PersonnelWorld : Type := World DB (Effect ⊕ PersonnelEffect)

/-- Nothing fails, the clock stands at the epoch and the directory lists these users. -/
def stillPersonnelEnv (users : List DirectoryUser) : PersonnelEnv where
  answer := fun n _ q => match q with
    | .inl q => stillEnv.answer n q
    | .inr .getPeople => .ok users
  fault := fun _ => none

/-- A program of the other services, run by this one. -/
def personnelFromIms {ε α : Type} (x : Go ε α) : PersonnelGo ε α := x.widen

section Statements

variable {ε α : Type}

def personnelSelect (q : PersonnelRead α) (err : SqlErr → ε) : PersonnelGo ε α :=
  Call.mapErr err (Call.attempt (.read .pool (.inr q)))

def getPeople (err : SqlErr → ε) : PersonnelGo ε (List DirectoryUser) := do
  match ← Call.perform (.ask (.inr .getPeople)) with
  | .ok users => pure users
  | .error e => throw (err e)

end Statements

end OcfIms
