import OcfIms.StoreQueries
import OcfIms.Conv

/-!
# The server

What the services share: the caller's claims, the two kinds of error (`herr.HTTPError` inside the
helpers, a Connect error on the wire) and how one becomes the other, the effects that leave the
database alone (stream messages, web push, cache invalidation), and the statements as a service
issues them, each with the error it turns a failure into. `runInTx` is the retrying transaction of
`store/tx.go`.
-/

namespace OcfIms

open TxnLib

/-! ## Claims and errors -/

structure IMSClaims where
  /-- `PersonID()`: the subject, or -1 where it is no `int32`. -/
  personID : Int
  handle : String
  admin : Bool := false
  deriving DecidableEq, Repr

inductive ConnectCode
  | invalidArgument
  | unauthenticated
  | permissionDenied
  | notFound
  | alreadyExists
  | failedPrecondition
  | resourceExhausted
  | unknown
  | internal
  deriving DecidableEq, Repr

/-- A Connect error as the client sees it. -/
structure ConnectError where
  code : ConnectCode
  message : String
  deriving DecidableEq, Repr

/-- `server.InternalError`: the cause stays on the server. -/
def internalError (message : String) (_cause : SqlErr) : ConnectError := ⟨.internal, message⟩

/-- A Connect error with the driver's error behind it, if one caused it. -/
structure CausedError where
  wire : ConnectError
  cause : Option SqlErr := none
  deriving DecidableEq, Repr

/-- `retryableTxErr`, which looks for the driver's error along the chain of causes. -/
def CausedError.retryable (err : CausedError) : Bool :=
  err.cause = some (.mysql 1213) || err.cause = some (.mysql 1205)

structure HTTPError where
  code : Nat
  responseMessage : String
  internalErr : Option SqlErr := none
  deriving DecidableEq, Repr

namespace HTTPError

def internalServerError (message : String) (err : SqlErr) : HTTPError := ⟨500, message, some err⟩
def badRequest (message : String) (err : Option SqlErr) : HTTPError := ⟨400, message, err⟩
def forbidden (message : String) : HTTPError := ⟨403, message, none⟩
def notFound (message : String) (err : Option SqlErr) : HTTPError := ⟨404, message, err⟩

end HTTPError

def herrToConnect (e : HTTPError) : ConnectError :=
  let code : ConnectCode :=
    if e.code = 400 then .invalidArgument
    else if e.code = 401 then .unauthenticated
    else if e.code = 403 then .permissionDenied
    else if e.code = 404 then .notFound
    else if e.code = 409 then .alreadyExists
    else if e.code = 429 then .resourceExhausted
    else .internal
  ⟨code, e.responseMessage⟩

/-- `isNoReferencedRow`: error 1452, a foreign key that names no row. -/
def isNoReferencedRow (err : SqlErr) : Bool := err == .mysql 1452

/-! ## Effects -/

/-- `IMSEventData`, the payload of a server-sent event. -/
structure IMSEventData where
  eventID : Int
  incidentNumber : Int := 0
  updateAllIncidents : Bool := false
  reportNumber : Int := 0
  visitNumber : Int := 0
  deriving DecidableEq, Repr

/-- `Poke`, the unredacted message to the stream's subscribers. -/
structure Poke where
  eventID : Int
  incidentNumber : Int := 0
  reportNumber : Int := 0
  deriving DecidableEq, Repr

inductive Effect
  | sse (data : IMSEventData)
  | watch (poke : Poke)
  | notifyMentionedInIncident (eventName : String) (incidentNumber : Int) (recipients : List Int)
      (actor : Int)
  | notifyMentionedInReport (eventName : String) (reportNumber : Int) (recipients : List Int)
      (actor : Int)
  | notifyAddedToIncident (eventName : String) (incidentNumber recipient actor : Int)
  | notifyReportRequested (eventName : String) (incidentNumber recipient actor : Int)
      (actorHandle : String)
  | invalidateEvent (eventName : String)
  deriving DecidableEq, Repr

/-- A person of the directory. -/
structure User where
  id : Int
  handle : String
  deriving DecidableEq, Repr

/-- What a service asks of its environment. -/
inductive Ask : Type → Type
  | now : Ask Int
  | getAllUsers : Ask (Except SqlErr (List User))

/-- The service's configuration, and the library functions whose tables are not modelled. -/
structure Service where
  attachmentsEnabled : Bool := false
  toLower : String → String := id
  safeToPreviewContentType : String → String := id
  formatRFC3339 : Int → String := toString

/-! ## Statements -/

abbrev Op : Type → Type 1 := DbOp Read Write Ask SqlErr Effect

/-- A helper or a method: a program that ends with an error of type `ε` or a result. -/
abbrev Go (ε α : Type) : Type 1 := Call Op ε α

abbrev ImsEnv : Type 1 := Env Ask

abbrev ImsWorld : Type := World DB Effect

/-- Nothing fails, the clock stands at the epoch and the directory is empty. -/
def stillEnv : ImsEnv where
  answer := fun _ _ q => match q with
    | .now => 0
    | .getAllUsers => .ok []
  fault := fun _ => none

theorem stillEnv_quiet : stillEnv.Quiet := fun _ => rfl

section Statements

variable {ε α : Type}

/-- Issue a read; `err` is the error a failure becomes. -/
def select (c : Conn) (q : Read α) (err : SqlErr → ε) : Go ε α :=
  Call.mapErr err (Call.attempt (.read c q))

/-- Issue a write. -/
def exec (c : Conn) (q : Write α) (err : SqlErr → ε) : Go ε α :=
  Call.mapErr err (Call.attempt (.write c q))

def begin (err : SqlErr → ε) : Go ε Unit :=
  Call.mapErr err (Call.attempt .begin)

def commit (err : SqlErr → ε) : Go ε Unit :=
  Call.mapErr err (Call.attempt .commit)

def now : Go ε Int := Call.perform (.ask .now)

def getAllUsers (err : SqlErr → ε) : Go ε (List User) := do
  match ← Call.perform (.ask .getAllUsers) with
  | .ok users => pure users
  | .error e => throw (err e)

def emit (o : Effect) : Go ε Unit := Call.perform (.emit o)

end Statements

/-- `herr.AsHTTPError` of a driver error. -/
def asHTTPError (err : SqlErr) : HTTPError := .internalServerError "Unknown server error" err

/-- `retryableTxErr`: a deadlock or a lock-wait timeout. -/
def retryableTxErr (err : HTTPError) : Bool :=
  err.internalErr = some (.mysql 1213) || err.internalErr = some (.mysql 1205)

/-- One attempt of `RunInTx`: run the body in a transaction and commit; `again` is what a retryable
failure leads to. -/
def attemptTx {α : Type} (fn : Go HTTPError α) (again : HTTPError → Go HTTPError α) :
    Go HTTPError α := do
  begin asHTTPError
  match ← Call.result fn with
  | .error err => do
    Call.perform .rollback
    if retryableTxErr err then again err else throw err
  | .ok a => do
    match ← Call.result (commit asHTTPError) with
    | .ok () => pure a
    | .error err => if retryableTxErr err then again err else throw err

/-- `RunInTx` with a number of attempts left after the first. -/
def runInTxRetrying {α : Type} (fn : Go HTTPError α) : Nat → Go HTTPError α
  | 0 => attemptTx fn throw
  | retries + 1 => attemptTx fn fun _ => runInTxRetrying fn retries

/-- `maxTxAttempts` is 4. -/
def runInTx {α : Type} (fn : Go HTTPError α) : Go HTTPError α := runInTxRetrying fn 3

/-! ## Notifying subscribers -/

section Notify

variable {ε : Type}

/-- The payload of an incident message: a private incident's number is redacted, and so is one
whose privacy could not be looked up. -/
def incidentEventData (eventID incidentNumber : Int) : Go ε IMSEventData := do
  let row ← Call.result (select .pool (.incident eventID incidentNumber) id)
  match row with
  | .ok r =>
    if r.incident.isPrivate then pure { eventID, updateAllIncidents := true }
    else pure { eventID, incidentNumber }
  | .error _ => pure { eventID, updateAllIncidents := true }

def notifyReportUpdate (eventID reportNumber : Int) : Go ε Unit :=
  if reportNumber = 0 then pure ()
  else do
    emit (.sse { eventID, reportNumber })
    emit (.watch { eventID, reportNumber })

def notifyIncidentUpdate (eventID incidentNumber : Int) : Go ε Unit :=
  if incidentNumber = 0 then pure ()
  else do
    let data ← incidentEventData eventID incidentNumber
    emit (.sse data)
    emit (.watch { eventID, incidentNumber })

def notifyIncidentUpdates (eventID incident1 incident2 : Int) : Go ε Unit := do
  notifyIncidentUpdate eventID incident1
  if incident2 = incident1 then pure () else notifyIncidentUpdate eventID incident2

def notifyVisitUpdate (eventID visitNumber : Int) : Go ε Unit :=
  if visitNumber = 0 then pure () else emit (.sse { eventID, visitNumber })

end Notify

/-! ## People -/

/-- `server.PersonByID`. -/
def personByID (id : Int) : Go HTTPError PersonRow :=
  select .pool (.personByID id) fun err =>
    if err = .noRows then .notFound "Unknown person" none
    else .internalServerError "Failed to look up person" err

/-- `server.PersonDisplayName`. -/
def personDisplayName (p : PersonRow) : String :=
  let fair := trimSpace (p.handle.getD "")
  let legal := trimSpace (p.name.getD "")
  if fair ≠ "" ∧ legal ≠ "" then fair ++ " (" ++ legal ++ ")"
  else if legal ≠ "" then "(" ++ legal ++ ")"
  else fair

end OcfIms
