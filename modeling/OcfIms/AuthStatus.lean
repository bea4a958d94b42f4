import OcfIms.AuthLogin
import OcfIms.LoginIdentity

/-!
# The session status

`GetAuthStatus` tells a caller who they are, what they may do, and whether they are still signed in
with the shared default password. For the last it looks the caller up in the directory, which caches
the people of the registry, and only then verifies the stored hash. Where that is not the default's
but the registry does not say so yet, it records it.

The directory is shared by all calls: what it answers is in its cache, or is read afresh.
-/

namespace OcfIms

open TxnLib

/-! ## Statements -/

inductive AuthRead : Type → Type
  | personHasAnyGrantInEvent (event person : Int) : AuthRead Bool

inductive AuthWrite : Type → Type
  | markPasswordChanged (id : Int) : AuthWrite Unit

inductive AuthAsk : Type → Type
  /-- `UserStore.GetAllUsers`. -/
  | getAllUsers : AuthAsk (Except SqlErr (List DirectoryUser))

def AuthRead.eval : {β : Type} → AuthRead β → DB → Except SqlErr β
  | _, .personHasAnyGrantInEvent event person, db => .ok (db.incidentPerson.rows.any fun r =>
      r.2.event == event && r.2.personID == person && r.2.grantedAccess)

def AuthWrite.apply : {β : Type} → AuthWrite β → Int → DB → Except SqlErr (β × DB)
  | _, .markPasswordChanged id, _, db =>
      .ok ((), { db with person := db.person.modify id fun r => { r with passwordChanged := true } })

/-- The database as the authentication service uses it. -/
def authDB (sortKey : String → String) :
    Store (fun β => (Read β ⊕ PersonRead β) ⊕ AuthRead β)
      (fun β => (Write β ⊕ PersonWrite β) ⊕ AuthWrite β) SqlErr DB :=
  (personDB sortKey).extend AuthRead.eval AuthWrite.apply

abbrev AuthOp : Type → Type 1 :=
  DbOp (fun β => (Read β ⊕ PersonRead β) ⊕ AuthRead β)
    (fun β => (Write β ⊕ PersonWrite β) ⊕ AuthWrite β) (fun β => (Ask β ⊕ PersonAsk β) ⊕ AuthAsk β)
    SqlErr ((Effect ⊕ PersonEffect) ⊕ Empty)

abbrev AuthGo (ε α : Type) : Type 1 := Call AuthOp ε α

abbrev AuthEnv : Type 1 := Env fun β => (Ask β ⊕ PersonAsk β) ⊕ AuthAsk β

abbrev AuthWorld : Type := World DB ((Effect ⊕ PersonEffect) ⊕ Empty)

/-- A program of the personnel service, run by this one. -/
def fromPersonnel {ε α : Type} (x : PersonGo ε α) : AuthGo ε α := x.widen

section Statements

variable {ε α : Type}

def authSelect (c : Conn) (q : AuthRead α) (err : SqlErr → ε) : AuthGo ε α :=
  Call.mapErr err (Call.attempt (.read c (.inr q)))

def authExec (c : Conn) (q : AuthWrite α) (err : SqlErr → ε) : AuthGo ε α :=
  Call.mapErr err (Call.attempt (.write c (.inr q)))

def getDirectory (err : SqlErr → ε) : AuthGo ε (List DirectoryUser) :=
  Call.mapErr err (Call.attempt (.ask (.inr .getAllUsers)))

end Statements

/-! ## GetAuthStatus -/

/-- What of the authentication service's configuration only the session status uses. -/
structure AuthStatusService extends AuthService where
  defaultPassword : String := ""
  pushVAPIDPublicKey : String := ""
  attachmentsEnabled : Bool := false

structure AccessForEvent where
  eventId : Int := 0
  readIncidents : Bool := false
  writeIncidents : Bool := false
  writeReports : Bool := false
  readVisits : Bool := false
  writeVisits : Bool := false
  attachFiles : Bool := false
  readAreas : Bool := false
  readIncidentsViaGrant : Bool := false
  inviteReporters : Bool := false
  deriving DecidableEq, Repr

/-- The server's `GetAuthStatusResponse`. -/
structure AuthStatus where
  authenticated : Bool
  user : String := ""
  personID : Int := 0
  admin : Bool := false
  canManagePersonnel : Bool := false
  pushVapidPublicKey : String := ""
  usingDefaultPassword : Bool := false
  eventAccess : Option (Int × AccessForEvent) := none
  deriving DecidableEq, Repr

/-- Whether the caller is still signed in with the shared default password. A failure to record that
they are not is logged only. -/
def usingDefaultPassword (s : AuthStatusService) (claims : IMSClaims) : AuthGo ConnectError Bool :=
  if s.defaultPassword = "" then pure false else do
    let people ← getDirectory (internalError "failed to fetch personnel")
    match people.find? fun person => person.id == claims.personID with
    | none => pure false
    | some person =>
      if person.passwordChanged || person.password == "" then pure false
      else match verify s.toAuthService s.defaultPassword person.password with
        | .ok true => pure true
        | _ => do
          match ← Call.result (authExec .pool (.markPasswordChanged claims.personID) id) with
          | .ok _ => fromPersonnel invalidateUsers
          | .error _ => pure ()
          pure false

/-- The caller's permissions at an event. One that does not exist looks like one without access. -/
def accessForEvent (s : AuthStatusService) (claims : IMSClaims) (eventID : Int) :
    AuthGo ConnectError AccessForEvent := do
  match ← Call.result (fromPersonnel (fromIms (select .pool (.event eventID) id))) with
  | .error .noRows => pure {}
  | .error err => throw (internalError "failed to fetch event" err)
  | .ok event =>
    let masks ← Call.mapErr (internalError "failed to fetch event permissions")
      (fromPersonnel (fromIms (eventPermissions (some event.id) claims)))
    let perms := masks.1.get event.id
    let readIncidents := hasBit perms eventReadIncidents
    let readIncidentsViaGrant ←
      if readIncidents then pure false
      else
        authSelect .pool (.personHasAnyGrantInEvent event.id claims.personID)
          (internalError "failed to check incident grants")
    pure
      { eventId := event.id
        readIncidents
        writeIncidents := hasBit perms eventWriteIncidents
        writeReports := hasBit perms (eventWriteOwnReports ||| eventWriteAllReports)
        readVisits := hasBit perms eventReadVisits
        writeVisits := hasBit perms eventWriteVisits
        attachFiles := s.attachmentsEnabled
        readAreas := hasBit perms eventReadAreas
        readIncidentsViaGrant
        inviteReporters := hasBit perms eventInviteReporters }

def eventAccess (s : AuthStatusService) (claims : IMSClaims) :
    Option Int → AuthGo ConnectError (Option (Int × AccessForEvent))
  | none => pure none
  | some eventID => do
    let access ← accessForEvent s claims eventID
    pure (some (eventID, access))

def getAuthStatus (s : AuthStatusService) (ctx : Option IMSClaims) (eventID : Option Int) :
    AuthGo ConnectError AuthStatus :=
  match ctx with
  | none => pure { authenticated := false }
  | some claims => do
    let perms ← Call.mapErr (internalError "failed to fetch permissions")
      (fromPersonnel (fromIms (eventPermissions none claims)))
    let usingDefault ← usingDefaultPassword s claims
    let access ← eventAccess s claims eventID
    pure
      { authenticated := true
        user := claims.handle
        personID := claims.personID
        admin := claims.admin
        canManagePersonnel := hasBit perms.2 globalAdministratePersonnel
        pushVapidPublicKey := s.pushVAPIDPublicKey
        usingDefaultPassword := usingDefault
        eventAccess := access }

/-! ## The calls and the directory -/

/-- A call on an account. -/
inductive AccountCall
  | createPerson (ctx : Option IMSClaims) (req : CreatePersonRequest)
  | setPersonPassword (ctx : Option IMSClaims) (personID : Int) (password : String)
      (useDefault : Bool)
  | changeOwnPassword (ctx : Option IMSClaims) (password : String)
  | getAuthStatus (ctx : Option IMSClaims) (eventID : Option Int)

/-- The services as one server runs them: with one default password. -/
structure AccountServices where
  auth : AuthStatusService
  person : PersonService
  sameDefault : person.defaultPassword = auth.defaultPassword

/-- What a call returns: the session status, where it asks for that. -/
abbrev AccountAnswer : Type := Except ConnectError (Option AuthStatus)

def AccountCall.call (s : AccountServices) : AccountCall → AuthGo ConnectError (Option AuthStatus)
  | .createPerson ctx req => do
    let _ ← fromPersonnel (OcfIms.createPerson s.person ctx req)
    pure none
  | .setPersonPassword ctx personID password useDefault => do
    fromPersonnel (OcfIms.setPersonPassword s.person ctx personID password useDefault)
    pure none
  | .changeOwnPassword ctx password => do
    fromPersonnel (OcfIms.changeOwnPassword s.person ctx password)
    pure none
  | .getAuthStatus ctx eventID => do
    let status ← OcfIms.getAuthStatus s.auth ctx eventID
    pure (some status)

/-- Calls under way, the store, and the directory's cache: nothing where it is empty or has
expired. -/
structure Accounts (ι : Type) where
  procs : ι → Prog AuthOp AccountAnswer
  world : AuthWorld
  userCache : Option (List DirectoryUser) := none

inductive AccountAction (ι : Type)
  | call (i : ι)
  /-- The cached people grow older than the cache's TTL. -/
  | expire
  deriving DecidableEq, Repr

/-- What the directory reads from the registry. -/
def directoryUsers (positions : Int → List Nat) (db : DB) : List DirectoryUser :=
  db.person.rows.map fun r => directoryUser r.1 r.2 (positions r.1)

/-- The program stands at the directory, and how it goes on with the answer. -/
def asksDirectory {α : Type} :
    Prog AuthOp α → Option (Except SqlErr (List DirectoryUser) → Prog AuthOp α)
  | .op (.ask (.inr .getAllUsers)) k => some k
  | _ => none

/-- The next operation is to drop the directory's cache. -/
def dropsCache {α : Type} : Prog AuthOp α → Bool
  | .op (.emit (.inl (.inr .invalidateUsers))) _ => true
  | _ => false

namespace Accounts

variable {ι : Type} [DecidableEq ι]

/-- What the directory answers now, and what its cache has afterwards. The lock of the cache makes a
refresh one step; a failed one leaves the cache empty. -/
def directory (positions : Int → List Nat) (sortKey : String → String) (env : AuthEnv)
    (t : Accounts ι) : Except SqlErr (List DirectoryUser) × Option (List DirectoryUser) :=
  match t.userCache with
  | some users => (.ok users, some users)
  | none =>
    match env.fault t.world.tick with
    | some n => (.error ((authDB sortKey).failed n), none)
    | none => (.ok (directoryUsers positions t.world.db),
        some (directoryUsers positions t.world.db))

/-- One step: of a call, up to where it can be interrupted, or of the cache. -/
def step (positions : Int → List Nat) (sortKey : String → String) (env : AuthEnv)
    (t : Accounts ι) : AccountAction ι → Option (Accounts ι)
  | .expire => some { t with userCache := none }
  | .call i =>
    match asksDirectory (t.procs i) with
    | some k =>
      let answered := t.directory positions sortKey env
      some
        { procs := Function.update t.procs i (k answered.1)
          world := t.world.tock
          userCache := answered.2 }
    | none =>
      (Sys.turn (authDB sortKey) env ⟨t.procs, t.world⟩ i).map fun sys =>
        { procs := sys.procs
          world := sys.world
          userCache := if dropsCache (t.procs i) then none else t.userCache }

/-- Calls that have not started yet, on a server that has just started. -/
def start (s : AccountServices) (calls : ι → AccountCall) (w : AuthWorld) : Accounts ι where
  procs i := ((calls i).call s).prog
  world := w

end Accounts

end OcfIms
