import OcfIms.Server

/-!
# The people registry

The statements of the personnel and login services, on top of those of the other services: the same
database, asked and written in more ways. A person's handle and email are each unique among those
who have one, by the collation of their columns; two texts are the same to the collation if they have
the same sort key.
-/

namespace OcfIms

open TxnLib

structure PersonByIDRow where
  id : Int
  handle : Option String
  name : Option String
  email : Option String
  phone : Option String
  isAdmin : Bool
  hasPassword : Bool
  profilePicture : Option String
  deriving DecidableEq, Repr

structure PersonByHandleRow where
  id : Int
  handle : Option String
  email : Option String
  isAdmin : Bool
  deriving DecidableEq, Repr

structure PeopleRow where
  id : Int
  handle : Option String
  email : Option String
  password : Option String
  isAdmin : Bool
  passwordChanged : Bool
  deriving DecidableEq, Repr

inductive PersonRead : Type → Type
  | personByID (id : Int) : PersonRead PersonByIDRow
  | personByHandle (handle : Option SqlText) : PersonRead PersonByHandleRow
  | people : PersonRead (List PeopleRow)
  | countAdmins : PersonRead Int

structure CreatePersonParams where
  handle : Option SqlText
  name : Option SqlText
  email : Option SqlText
  phone : Option SqlText
  password : Option SqlText
  created : Int
  passwordChanged : Bool
  deriving DecidableEq, Repr

structure EditPersonParams where
  handle : Option SqlText
  name : Option SqlText
  email : Option SqlText
  phone : Option SqlText
  deriving DecidableEq, Repr

inductive PersonWrite : Type → Type
  | createPerson (params : CreatePersonParams) : PersonWrite Int
  | editPerson (params : EditPersonParams) (id : Int) : PersonWrite Unit
  | setPersonPassword (password : Option SqlText) (passwordChanged : Bool) (id : Int) :
      PersonWrite Unit
  | setPersonAdmin (isAdmin : Bool) (id : Int) : PersonWrite Unit
  | insertPersonEvent (personID event : Int) (wristband : Option SqlText)
      (participationType : ParticipationType) : PersonWrite Unit
  | updatePersonEvent (wristband : Option SqlText) (participationType : ParticipationType)
      (personID event : Int) : PersonWrite Unit
  | deletePersonEvent (personID event : Int) : PersonWrite Unit
  | setPersonProfilePicture (profilePicture : Option SqlText) (id : Int) : PersonWrite Unit

namespace DB

/-- Another person than `id` has this value in a column. -/
def taken (sortKey : String → String) (column : Person → Option String) (db : DB) (id : Int)
    (value : Option String) : Bool :=
  value.any fun v => db.person.rows.any fun r =>
    r.1 != id && (column r.2).any fun v' => sortKey v' == sortKey v

/-- Another person than `person` has this wristband at the event. -/
def wristbandTaken (sortKey : String → String) (db : DB) (person event : Int)
    (wristband : Option String) : Bool :=
  wristband.any fun v => db.personEvent.rows.any fun r =>
    r.1.1 != person && r.1.2 == event && r.2.wristband.any fun v' => sortKey v' == sortKey v

def countAdmins (db : DB) : Int := (db.person.rows.filter (·.2.isAdmin)).length

end DB

def PersonRead.eval (sortKey : String → String) : {β : Type} → PersonRead β → DB → Except SqlErr β
  | _, .personByID id, db => DB.one ((db.person.find? id).map fun p =>
      ⟨id, p.handle, p.name, p.email, p.phone, p.isAdmin, p.password.isSome, p.profilePicture⟩)
  | _, .personByHandle handle, db => DB.one ((db.person.rows.find? fun r =>
      match handle, r.2.handle with
      | some (.text h), some h' => sortKey h' == sortKey h
      | _, _ => false).map fun r => ⟨r.1, r.2.handle, r.2.email, r.2.isAdmin⟩)
  | _, .people, db => .ok (db.person.rows.map fun r =>
      ⟨r.1, r.2.handle, r.2.email, r.2.password, r.2.isAdmin, r.2.passwordChanged⟩)
  | _, .countAdmins, db => .ok db.countAdmins

open DB in
def PersonWrite.apply (sortKey : String → String) :
    {β : Type} → PersonWrite β → Int → DB → Except SqlErr (β × DB)
  | _, .createPerson p, id, db =>
      textColumn p.handle fun handle =>
      textColumn p.name fun name =>
      textColumn p.email fun email =>
      textColumn p.phone fun phone =>
      textColumn p.password fun password =>
      unique (db.person.contains id) <|
      unique (db.taken sortKey (·.handle) id handle) <|
      unique (db.taken sortKey (·.email) id email) <|
      .ok (id, { db with
        person := db.person.insert id
          { handle, name, email, phone, password, passwordChanged := p.passwordChanged,
            created := p.created } })
  | _, .editPerson p id, _, db =>
      match db.person.find? id with
      | none => .ok ((), db)
      | some _ =>
        textColumn p.handle fun handle =>
        textColumn p.name fun name =>
        textColumn p.email fun email =>
        textColumn p.phone fun phone =>
        unique (db.taken sortKey (·.handle) id handle) <|
        unique (db.taken sortKey (·.email) id email) <|
        .ok ((), { db with
          person := db.person.modify id fun r => { r with handle, name, email, phone } })
  | _, .setPersonPassword password passwordChanged id, _, db =>
      match db.person.find? id with
      | none => .ok ((), db)
      | some _ =>
        textColumn password fun password =>
        .ok ((), { db with person := db.person.modify id fun r => { r with password, passwordChanged } })
  | _, .setPersonAdmin isAdmin id, _, db =>
      .ok ((), { db with person := db.person.modify id fun r => { r with isAdmin } })
  | _, .insertPersonEvent person event wristband participationType, _, db =>
      textColumn wristband fun wristband =>
      unique (db.personEvent.contains (person, event)) <|
      unique (db.wristbandTaken sortKey person event wristband) <|
      references (db.person.contains person) <|
      references (db.event.contains event) <|
      .ok ((), { db with
        personEvent := db.personEvent.insert (person, event) { wristband, participationType } })
  | _, .updatePersonEvent wristband participationType person event, _, db =>
      match db.personEvent.find? (person, event) with
      | none => .ok ((), db)
      | some _ =>
        textColumn wristband fun wristband =>
        unique (db.wristbandTaken sortKey person event wristband) <|
        .ok ((), { db with
          personEvent := db.personEvent.modify (person, event) fun _ =>
            { wristband, participationType } })
  | _, .deletePersonEvent person event, _, db =>
      .ok ((), { db with personEvent := db.personEvent.erase (person, event) })
  | _, .setPersonProfilePicture profilePicture id, _, db =>
      match db.person.find? id with
      | none => .ok ((), db)
      | some _ =>
        textColumn profilePicture fun profilePicture =>
        .ok ((), { db with person := db.person.modify id fun r => { r with profilePicture } })

/-- The database as the personnel and login services use it. -/
def personDB (sortKey : String → String) :
    Store (fun β => Read β ⊕ PersonRead β) (fun β => Write β ⊕ PersonWrite β) SqlErr DB :=
  imsDB.extend (PersonRead.eval sortKey) (PersonWrite.apply sortKey)

/-! ## The services' programs -/

inductive PersonAsk : Type → Type
  /-- `argon2id.CreateHash`, which draws a salt. -/
  | createHash (password : String) : PersonAsk String

inductive PersonEffect
  | invalidateUsers
  /-- A stored file is deleted, or left behind where that fails. -/
  | deleteFile (name : String)
  deriving DecidableEq, Repr

abbrev PersonOp : Type → Type 1 :=
  DbOp (fun β => Read β ⊕ PersonRead β) (fun β => Write β ⊕ PersonWrite β)
    (fun β => Ask β ⊕ PersonAsk β) SqlErr (Effect ⊕ PersonEffect)

abbrev PersonGo (ε α : Type) : Type 1 := Call PersonOp ε α

abbrev PersonEnv : Type 1 := Env fun β => Ask β ⊕ PersonAsk β

abbrev PersonWorld : Type := World DB (Effect ⊕ PersonEffect)

/-- Nothing fails, the clock stands at the epoch and every hash is the same. -/
def stillPersonEnv : PersonEnv where
  answer := fun n _ q => match q with
    | .inl q => stillEnv.answer n q
    | .inr (.createHash _) => "$argon2id$v=19$m=8192,t=4,p=1$c2FsdA$a2V5"
  fault := fun _ => none

/-- A program of the other services, run by these. -/
def fromIms {ε α : Type} (x : Go ε α) : PersonGo ε α := x.widen

section Statements

variable {ε α : Type}

def personSelect (c : Conn) (q : PersonRead α) (err : SqlErr → ε) : PersonGo ε α :=
  Call.mapErr err (Call.attempt (.read c (.inr q)))

def personExec (c : Conn) (q : PersonWrite α) (err : SqlErr → ε) : PersonGo ε α :=
  Call.mapErr err (Call.attempt (.write c (.inr q)))

def createHash (password : String) : PersonGo ε String :=
  Call.perform (.ask (.inr (.createHash password)))

def invalidateUsers : PersonGo ε Unit := Call.perform (.emit (.inr .invalidateUsers))

end Statements

end OcfIms
