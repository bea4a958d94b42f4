import Mathlib

/-!
# The client's transport

The parts of the client that every call goes through: the mapping of Connect errors to the errors a
screen shows (`api/errors.ts`), the cache of the access token (`api/tokens.ts`), and what the
single-flight refresher (`api/refresh.ts`) makes of an answer.
-/

namespace OcfIms

/-- `Code` of the Connect library. -/
inductive Code
  | canceled
  | unknown
  | invalidArgument
  | deadlineExceeded
  | notFound
  | alreadyExists
  | permissionDenied
  | resourceExhausted
  | failedPrecondition
  | aborted
  | outOfRange
  | unimplemented
  | internal
  | unavailable
  | dataLoss
  | unauthenticated
  deriving DecidableEq, Repr

inductive AppErrorKind
  | unauthenticated
  | forbidden
  | notFound
  | invalid
  | conflict
  | precondition
  | throttled
  | unavailable
  | canceled
  | unknown
  deriving DecidableEq, Repr

/-- A `ConnectError` as a call throws it; the flag is `cause instanceof TypeError`. -/
structure RpcError where
  code : Code
  causeIsTypeError : Bool := false
  deriving DecidableEq, Repr

/-- The request did not reach the server. -/
def isNetworkFailure (err : RpcError) : Bool :=
  (err.code = .unknown || err.code = .internal) && err.causeIsTypeError

/-- The kind of the error that `toAppError` makes of a `ConnectError`. -/
def toAppErrorKind (err : RpcError) : AppErrorKind :=
  match err.code with
  | .unauthenticated => .unauthenticated
  | .permissionDenied => .forbidden
  | .notFound => .notFound
  | .invalidArgument => .invalid
  | .alreadyExists => .conflict
  | .failedPrecondition => .precondition
  | .resourceExhausted => .throttled
  | .unavailable | .deadlineExceeded => .unavailable
  | .canceled => .canceled
  | _ => if isNetworkFailure err then .unavailable else .unknown

/-- A token and when to consider it expired, in milliseconds: never, where the server has not
said. -/
structure AccessToken where
  token : String
  expiresAt : Option Int
  deriving DecidableEq, Repr

/-- `expiringWithin` of the token cache. Without a token there is nothing to refresh. -/
def expiringWithin (current : Option AccessToken) (now ms : Int) : Bool :=
  match current with
  | none => false
  | some t =>
    match t.expiresAt with
    | none => false
    | some expiresAt => expiresAt - now ≤ ms

/-- There is a token and it has not expired. -/
def unexpired (current : Option AccessToken) (now : Int) : Bool :=
  match current with
  | none => false
  | some t =>
    match t.expiresAt with
    | none => true
    | some expiresAt => now < expiresAt

inductive RefreshOutcome
  | refreshed (token : AccessToken)
  | signedOut (error : RpcError)
  | failed (error : RpcError)
  deriving DecidableEq, Repr

/-- `classifyRefreshError`, on an answer of `RefreshToken`. -/
def classifyRefresh : Except RpcError AccessToken → RefreshOutcome
  | .ok token => .refreshed token
  | .error e => if e.code = .unauthenticated then .signedOut e else .failed e

/-- `PROACTIVE_REFRESH_WINDOW_MS`. -/
def proactiveRefreshWindowMs : Int := 60000

end OcfIms
