import OcfIms.AreaStore

/-!
# Events in the database

The statements of the event service, on top of those of the area service. An event's name is unique
by the collation of its column.
-/

namespace OcfIms

open TxnLib

inductive EventRead : Type → Type

structure CreateEventParams where
  name : String
  isGroup : Bool := false
  parentGroup : Option Int := none
  deriving DecidableEq, Repr

structure UpdateEventParams where
  id : Int
  name : String
  isGroup : Bool
  parentGroup : Option Int
  deriving DecidableEq, Repr

inductive EventWrite : Type → Type
  | createEvent (params : CreateEventParams) : EventWrite Int
  | updateEvent (params : UpdateEventParams) : EventWrite Unit

namespace DB

/-- Another event than `id` has this name. -/
def eventNameTaken (sortKey : String → String) (db : DB) (id : Int) (name : String) : Bool :=
  db.event.rows.any fun r => r.1 != id && sortKey r.2.name == sortKey name

end DB

def EventRead.eval : {β : Type} → EventRead β → DB → Except SqlErr β
  | _, q, _ => nomatch q

open DB in
def EventWrite.apply (sortKey : String → String) :
    {β : Type} → EventWrite β → Int → DB → Except SqlErr (β × DB)
  | _, .createEvent p, id, db =>
      column 128 p.name <|
      unique (db.event.contains id) <|
      unique (db.eventNameTaken sortKey id p.name) <|
      references (nullOr db.event p.parentGroup) <|
      .ok (id, { db with event := db.event.insert id ⟨p.name, p.isGroup, p.parentGroup⟩ })
  | _, .updateEvent p, _, db =>
      match db.event.find? p.id with
      | none => .ok ((), db)
      | some _ =>
        column 128 p.name <|
        unique (db.eventNameTaken sortKey p.id p.name) <|
        references (nullOr db.event p.parentGroup) <|
        .ok ((), { db with
          event := db.event.modify p.id fun _ => ⟨p.name, p.isGroup, p.parentGroup⟩ })

/-- The database as the event service uses it. -/
def eventDB (sortKey : String → String) :
    Store (fun β => (Read β ⊕ AreaRead β) ⊕ EventRead β)
      (fun β => (Write β ⊕ AreaWrite β) ⊕ EventWrite β) SqlErr DB :=
  (areaDB sortKey).extend EventRead.eval (EventWrite.apply sortKey)

/-! ## The service's programs -/

inductive EventAsk : Type → Type

inductive EventEffect
  deriving DecidableEq, Repr

abbrev EventOp : Type → Type 1 :=
  DbOp (fun β => (Read β ⊕ AreaRead β) ⊕ EventRead β)
    (fun β => (Write β ⊕ AreaWrite β) ⊕ EventWrite β)
    (fun β => (Ask β ⊕ AreaAsk β) ⊕ EventAsk β) SqlErr ((Effect ⊕ AreaEffect) ⊕ EventEffect)

abbrev EventGo (ε α : Type) : Type 1 := Call EventOp ε α

abbrev EventEnv : Type 1 := Env fun β => (Ask β ⊕ AreaAsk β) ⊕ EventAsk β

abbrev EventWorld : Type := World DB ((Effect ⊕ AreaEffect) ⊕ EventEffect)

/-- Nothing fails, the clock stands at the epoch and the directory is empty. -/
def stillEventEnv : EventEnv where
  answer := fun n _ q => match q with
    | .inl q => stillAreaEnv.answer n q
  fault := fun _ => none

/-- A program of the area service, run by this one. -/
def fromArea {ε α : Type} (x : AreaGo ε α) : EventGo ε α := x.widen

section Statements

variable {ε α : Type}

def eventSelect (q : Read α) (err : SqlErr → ε) : EventGo ε α :=
  fromArea (Call.widen (select .pool q err))

def eventExec (q : EventWrite α) (err : SqlErr → ε) : EventGo ε α :=
  Call.mapErr err (Call.attempt (.write .pool (.inr q)))

end Statements

end OcfIms
