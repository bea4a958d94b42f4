import OcfIms.AreaStore
import OcfIms.IncidentRead

/-!
# Devices that take pushes

A device is a row of `PUSH_SUBSCRIPTION` and its endpoint is its identity. A browser subscribes and a
phone registers in the same way: the row is looked up by its endpoint and then updated, or inserted
where there was none. It is removed only for the person who owns it.
-/

namespace OcfIms

open TxnLib

/-! ## The statements -/

structure InsertPushSubscriptionParams where
  personID : Int
  endpoint : String
  kind : String
  p256dh : Option SqlText
  auth : Option SqlText
  userAgent : Option String
  created : Int
  deriving DecidableEq, Repr

structure UpdatePushSubscriptionByEndpointParams where
  personID : Int
  kind : String
  p256dh : Option SqlText
  auth : Option SqlText
  userAgent : Option String
  endpoint : String
  deriving DecidableEq, Repr

inductive PushQuery : Type → Type
  | pushSubscriptionByEndpoint (endpoint : String) : PushQuery PushSubscription

inductive PushWrite : Type → Type
  | insertPushSubscription (params : InsertPushSubscriptionParams) : PushWrite Unit
  | updatePushSubscriptionByEndpoint (params : UpdatePushSubscriptionByEndpointParams) :
      PushWrite Unit
  | deletePushSubscription (endpoint : String) (personID : Int) : PushWrite Unit

namespace DB

section Endpoints

variable (sortKey : String → String)

/-- The row of an endpoint, by the collation of the column. -/
def pushSubscriptionAt (db : DB) (endpoint : String) : Option PushSubscription :=
  (db.pushSubscription.rows.find? fun r => sortKey r.2.endpoint = sortKey endpoint).map Prod.snd

/-- The unique key `PUSH_SUBSCRIPTION_BY_ENDPOINT`. -/
def EndpointsUnique (db : DB) : Prop :=
  (db.pushSubscription.rows.map fun r => sortKey r.2.endpoint).Nodup

instance (db : DB) : Decidable (db.EndpointsUnique sortKey) := by
  unfold EndpointsUnique
  infer_instance

end Endpoints

/-- `auto_increment`: a key that no row has. -/
def generatedKey {ρ : Type} (t : Table Int ρ) : Int :=
  t.rows.foldr (fun r n => max (r.1 + 1) n) 1

/-- A nullable `varchar` column. -/
def columnOrNull {α : Type} (width : Nat) (s : Option String) (k : Except SqlErr α) :
    Except SqlErr α :=
  match s with
  | none => k
  | some s => column width s k

end DB

def PushQuery.eval (sortKey : String → String) : {β : Type} → PushQuery β → DB → Except SqlErr β
  | _, .pushSubscriptionByEndpoint endpoint, db => DB.one (db.pushSubscriptionAt sortKey endpoint)

open DB in
def PushWrite.apply (sortKey : String → String) :
    {β : Type} → PushWrite β → Int → DB → Except SqlErr (β × DB)
  | _, .insertPushSubscription p, _, db =>
      column 512 p.endpoint <|
      textColumn p.p256dh fun p256dh =>
      textColumn p.auth fun auth =>
      columnOrNull 512 p.userAgent <|
      unique (db.pushSubscriptionAt sortKey p.endpoint).isSome <|
      references (db.person.contains p.personID) <|
      .ok ((), { db with
        pushSubscription := db.pushSubscription.insert (generatedKey db.pushSubscription)
          { personID := p.personID
            endpoint := p.endpoint
            kind := p.kind
            p256dh
            auth
            userAgent := p.userAgent
            created := p.created } })
  | _, .updatePushSubscriptionByEndpoint p, _, db =>
      match db.pushSubscriptionAt sortKey p.endpoint with
      | none => .ok ((), db)
      | some _ =>
        textColumn p.p256dh fun p256dh =>
        textColumn p.auth fun auth =>
        columnOrNull 512 p.userAgent <|
        references (db.person.contains p.personID) <|
        .ok ((), { db with
          pushSubscription := db.pushSubscription.mapVal fun _ r =>
            if sortKey r.endpoint = sortKey p.endpoint then
              { r with
                personID := p.personID
                kind := p.kind
                p256dh
                auth
                userAgent := p.userAgent }
            else r })
  | _, .deletePushSubscription endpoint person, _, db =>
      .ok ((), { db with
        pushSubscription := db.pushSubscription.filter fun _ r =>
          !(sortKey r.endpoint = sortKey endpoint && r.personID == person) })

/-- The database as the push service uses it. -/
def pushDB (sortKey : String → String) :
    Store (fun β => Read β ⊕ PushQuery β) (fun β => Write β ⊕ PushWrite β) SqlErr DB :=
  imsDB.extend (PushQuery.eval sortKey) (PushWrite.apply sortKey)

inductive PushAsk : Type → Type

inductive PushEffect

abbrev PushOp : Type → Type 1 :=
  DbOp (fun β => Read β ⊕ PushQuery β) (fun β => Write β ⊕ PushWrite β)
    (fun β => Ask β ⊕ PushAsk β) SqlErr (Effect ⊕ PushEffect)

abbrev PushGo (ε α : Type) : Type 1 := Call PushOp ε α

abbrev PushEnv : Type 1 := Env fun β => Ask β ⊕ PushAsk β

abbrev PushWorld : Type := World DB (Effect ⊕ PushEffect)

/-- Nothing fails, and the clock stands at the epoch. -/
def stillPushEnv : PushEnv where
  answer := fun n _ q => match q with
    | .inl q => stillEnv.answer n q
  fault := fun _ => none

/-- A program of the incident service, run by this one. -/
def inPush {ε α : Type} (x : Go ε α) : PushGo ε α := x.widen

def pushExec {ε α : Type} (c : Conn) (q : PushWrite α) (err : SqlErr → ε) : PushGo ε α :=
  Call.mapErr err (Call.attempt (.write c (.inr q)))

/-! ## The methods -/

/-- The texts of the internal errors. -/
structure DeviceErrors where
  lookup : String
  update : String
  store : String

/-- Look the endpoint up, then update its row or insert one; a duplicate key counts as stored. -/
def storeDevice (texts : DeviceErrors) (p : UpdatePushSubscriptionByEndpointParams)
    (created : PushGo ConnectError Int) : PushGo ConnectError Unit := do
  match ← Call.result (Call.attempt (.read .pool (.inr (.pushSubscriptionByEndpoint p.endpoint)))) with
  | .ok _ => pushExec .pool (.updatePushSubscriptionByEndpoint p) (internalError texts.update)
  | .error err =>
    if err = .noRows then do
      let created ← created
      match ← Call.result (Call.attempt (.write .pool (.inr (.insertPushSubscription
          { personID := p.personID
            endpoint := p.endpoint
            kind := p.kind
            p256dh := p.p256dh
            auth := p.auth
            userAgent := p.userAgent
            created := timeToFloat created })))) with
      | .ok () => pure ()
      | .error err => if err = .mysql 1062 then pure () else throw (internalError texts.store err)
    else throw (internalError texts.lookup err)

/-- The device label, null where the request names none. -/
def deviceLabel (userAgent : String) : Option String :=
  if userAgent = "" then none else some userAgent

/-- `SubscribePush`: the time is taken before the row is looked up. -/
def subscribePush (caller : Option IMSClaims) (endpoint p256dh auth userAgent : String) :
    PushGo ConnectError Unit := do
  let claims ← inPush (authenticated caller)
  let created ← inPush now
  storeDevice
    { lookup := "failed to look up push subscription"
      update := "failed to update push subscription"
      store := "failed to store push subscription" }
    { personID := claims.personID
      kind := "web"
      p256dh := stringToSql (some p256dh) 255
      auth := stringToSql (some auth) 255
      userAgent := deviceLabel userAgent
      endpoint } (pure created)

/-- `RegisterPushDevice`: an Expo device has no Web Push keys. -/
def registerPushDevice (caller : Option IMSClaims) (expoPushToken userAgent : String) :
    PushGo ConnectError Unit := do
  let claims ← inPush (authenticated caller)
  storeDevice
    { lookup := "failed to look up push device"
      update := "failed to update push device"
      store := "failed to store push device" }
    { personID := claims.personID
      kind := "expo"
      p256dh := none
      auth := none
      userAgent := deviceLabel userAgent
      endpoint := expoPushToken } (inPush now)

def unsubscribePush (caller : Option IMSClaims) (endpoint : String) : PushGo ConnectError Unit := do
  let claims ← inPush (authenticated caller)
  pushExec .pool (.deletePushSubscription endpoint claims.personID)
    (internalError "failed to remove push subscription")

def unregisterPushDevice (caller : Option IMSClaims) (expoPushToken : String) :
    PushGo ConnectError Unit := do
  let claims ← inPush (authenticated caller)
  pushExec .pool (.deletePushSubscription expoPushToken claims.personID)
    (internalError "failed to remove push device")

end OcfIms
