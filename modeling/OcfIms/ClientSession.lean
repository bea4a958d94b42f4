import OcfIms.ClientTransport
import OcfIms.LibRun

/-!
# The client's session store

`session/session.ts` with the refresher and the auth interceptor under it. The client runs one
function at a time and lets go at every `await`: an operation in progress is a task that waits for
one thing, and a step is the start of an operation or the piece of one up to its next `await`. The
tasks may be resumed in any order, and the server may answer anything.

A refresh and an end of the session are single-flight: one runs at a time, and whoever asks for
another meanwhile shares it.

A session is what one sign-in starts: sessions are numbered, and a refresh and an end carry the
number of the session they were started in. The numbers, the cause of an end and the two flags about
a sign-out are for the statements; nothing in the client reads them.
-/

namespace OcfIms

inductive SessionPlatform
  | web
  | native
  deriving DecidableEq, Repr

/-- `GetAuthStatusResponse`, as far as the session store reads it, and the user it names. -/
structure GetAuthStatusResponse where
  authenticated : Bool
  user : String := ""
  deriving DecidableEq, Repr

inductive SessionState
  | unknown
  | unreachable (error : AppErrorKind)
  | signedOut
  | signedIn (auth : GetAuthStatusResponse)
  deriving DecidableEq, Repr

/-- The answer to `Login`. -/
structure SignInResponse where
  token : AccessToken
  refreshToken : String := ""
  deriving DecidableEq, Repr

/-- A request as it left: the Bearer it carries, the time, and whether the device could hold a
refresh token then. On the web it is a cookie that the client does not see. -/
structure SentRequest where
  bearer : Option AccessToken
  sentAt : Int
  held : Bool
  deriving DecidableEq, Repr

/-! ## What is in progress -/

/-- Where the refresher's run is. -/
inductive RefreshPhase
  /-- `loadRefreshToken` -/
  | loading
  /-- `RefreshToken`, with the token in the body -/
  | requesting (stored : String)
  /-- the outcome is there, and those who wait for it have not been told -/
  | settled (outcome : RefreshOutcome)
  deriving DecidableEq, Repr

structure RefreshRun where
  phase : RefreshPhase := .loading
  session : Nat
  deriving DecidableEq, Repr

/-- Why the session is ended. -/
inductive EndCause
  | signOut
  | refreshRefused
  | statusRefused (request : SentRequest)
  deriving DecidableEq, Repr

/-- Where `runEnd` is. -/
inductive EndPhase
  /-- `store.clear` -/
  | clearing
  /-- `onSignedOut` -/
  | notifying
  | settled
  deriving DecidableEq, Repr

structure EndRun where
  phase : EndPhase := .clearing
  cause : EndCause
  session : Nat
  deriving DecidableEq, Repr

/-- Who asks `GetAuthStatus`. -/
inductive StatusCaller
  /-- `loadStatus` of a bootstrap -/
  | bootstrap
  | signIn
  | refreshAuthStatus
  deriving DecidableEq, Repr

/-- Whose call goes through the interceptor; a screen's may be a stream. -/
inductive Caller
  | status (caller : StatusCaller)
  | screen (stream : Bool)
  deriving DecidableEq, Repr

/-- A stream cannot be sent again. -/
def Caller.replayable : Caller → Bool
  | .status _ => true
  | .screen stream => !stream

/-- Where a call is in the interceptor. -/
inductive CallPhase
  /-- waits for the refresh that it asked for because the token was about to expire -/
  | proactive
  | proactiveDone
  | sent (request : SentRequest)
  /-- waits for the refresh that it asked for because the answer was Unauthenticated -/
  | reactive (request : SentRequest) (error : RpcError)
  | reactiveDone (request : SentRequest) (error : RpcError) (outcome : RefreshOutcome)
  | resent (request : SentRequest)
  deriving DecidableEq, Repr

/-- An operation at the `await` it waits at. -/
inductive SessionTask
  /-- `bootstrap`: the stored refresh token -/
  | bootLoad
  /-- `bootstrap`: the refresh -/
  | bootRefresh
  | bootOutcome (outcome : RefreshOutcome)
  | call (caller : Caller) (phase : CallPhase)
  /-- `signIn`: the answer of `Login` -/
  | login
  /-- `signIn`: the refresh token is being stored -/
  | save (resp : SignInResponse)
  /-- `signOut`: `beforeSignOut` or its time limit -/
  | beforeSignOut
  /-- `signOut`: the end of the session on this device -/
  | signOutEnd
  /-- `signOut`: the answer of `Logout` -/
  | signOutLogout
  deriving DecidableEq, Repr

/-- What an end of the refresh tells a task that waits for it. -/
def SessionTask.wake (outcome : RefreshOutcome) : SessionTask → SessionTask
  | .bootRefresh => .bootOutcome outcome
  | .call caller .proactive => .call caller .proactiveDone
  | .call caller (.reactive request error) => .call caller (.reactiveDone request error outcome)
  | t => t

/-- What the end of the session tells a task that waits for it. -/
def SessionTask.ended : SessionTask → SessionTask
  | .signOutEnd => .signOutLogout
  | t => t

/-! ## The client -/

structure ClientSession where
  state : SessionState := .unknown
  /-- the access token -/
  tokens : Option AccessToken := none
  /-- the stored refresh token; on the web nothing is stored -/
  stored : Option String := none
  now : Int := 0
  inflight : Option RefreshRun := none
  ending : Option EndRun := none
  tasks : List SessionTask := []
  session : Nat := 0
  /-- a sign-out has begun to end the session, and no sign-in or bootstrap has started since -/
  leaving : Bool := false
  /-- a sign-out has completed, and no sign-in or bootstrap has started since -/
  left : Bool := false
  deriving DecidableEq, Repr

/-- A start of an operation, or the resumption of a task with what it waited for. -/
inductive SessionAction
  | tick (now : Int)
  | bootstrap
  | signIn
  | signOut
  | refreshAuthStatus
  | screenCall (stream : Bool)
  | bootLoaded (failed : Bool)
  | bootResumed (outcome : RefreshOutcome)
  | refreshLoaded (failed : Bool)
  | refreshAnswered (answer : Except RpcError AccessToken)
  | refreshSettled
  | callResumed (caller : Caller) (phase : CallPhase)
  | callAnswered (caller : Caller) (phase : CallPhase)
      (answer : Except RpcError GetAuthStatusResponse)
  | loginAnswered (answer : Except RpcError SignInResponse)
  | saved (resp : SignInResponse) (failed : Bool)
  | signOutReady
  | endCleared (failed : Bool)
  | endNotified
  | endSettled
  | signOutDone
  deriving DecidableEq, Repr

namespace ClientSession

variable (platform : SessionPlatform) (s : ClientSession)

/-- A client that has just started. -/
def launched (stored : Option String) (now : Int) : ClientSession := { stored, now }

def addTask (t : SessionTask) : ClientSession := { s with tasks := t :: s.tasks }

def dropTask (t : SessionTask) : ClientSession := { s with tasks := s.tasks.erase t }

/-- `refresher.refresh()`, which starts a run or shares the one in flight. -/
def refresh : ClientSession :=
  if s.inflight = none then { s with inflight := some { session := s.session } } else s

/-- `endLocally`, up to its first `await`: the access token goes at once. -/
def endLocally (cause : EndCause) : ClientSession :=
  if s.ending = none then
    { s with tokens := none, ending := some { cause, session := s.session } }
  else s

/-- `store.load`, unless it fails. The web has no store. -/
def load : Option String :=
  match platform with
  | .web => none
  | .native => s.stored.filter (· ≠ "")

/-- A request with the Bearer that `attachBearer` finds. -/
def request : SentRequest where
  bearer := s.tokens
  sentAt := s.now
  held := platform = .web || (s.load platform).isSome

/-- A call enters the interceptor. -/
def startCall (caller : Caller) : ClientSession :=
  if expiringWithin s.tokens s.now proactiveRefreshWindowMs then
    s.refresh.addTask (.call caller .proactive)
  else s.addTask (.call caller (.sent (s.request platform)))

section Fields

variable {platform : SessionPlatform} {s : ClientSession} (t : SessionTask) (caller : Caller)

@[simp] theorem addTask_tokens : (s.addTask t).tokens = s.tokens := rfl
@[simp] theorem addTask_stored : (s.addTask t).stored = s.stored := rfl
@[simp] theorem addTask_ending : (s.addTask t).ending = s.ending := rfl
@[simp] theorem dropTask_tokens : (s.dropTask t).tokens = s.tokens := rfl
@[simp] theorem dropTask_stored : (s.dropTask t).stored = s.stored := rfl
@[simp] theorem dropTask_ending : (s.dropTask t).ending = s.ending := rfl

@[simp] theorem refresh_tokens : s.refresh.tokens = s.tokens := by
  unfold refresh; split <;> rfl

@[simp] theorem refresh_stored : s.refresh.stored = s.stored := by
  unfold refresh; split <;> rfl

@[simp] theorem refresh_ending : s.refresh.ending = s.ending := by
  unfold refresh; split <;> rfl

@[simp] theorem startCall_tokens : (s.startCall platform caller).tokens = s.tokens := by
  unfold startCall; split <;> simp

@[simp] theorem startCall_stored : (s.startCall platform caller).stored = s.stored := by
  unfold startCall; split <;> simp

@[simp] theorem startCall_ending : (s.startCall platform caller).ending = s.ending := by
  unfold startCall; split <;> simp

@[simp] theorem endLocally_stored (cause : EndCause) : (s.endLocally cause).stored = s.stored := by
  unfold endLocally; split <;> rfl

end Fields

/-- What `loadStatus`, `signIn` or `refreshAuthStatus` makes of the answer to `GetAuthStatus`, given
the request that it answers. -/
def statusAnswered (request : SentRequest) :
    StatusCaller → Except RpcError GetAuthStatusResponse → ClientSession
  | .bootstrap, .ok auth =>
    if auth.authenticated then { s with state := .signedIn auth }
    else s.endLocally (.statusRefused request)
  | .bootstrap, .error e =>
    if toAppErrorKind e = .unauthenticated then s.endLocally (.statusRefused request)
    else { s with state := .unreachable (toAppErrorKind e) }
  | .signIn, .ok auth => { s with state := .signedIn auth }
  | .signIn, .error e => { s with state := .unreachable (toAppErrorKind e) }
  | .refreshAuthStatus, .ok auth =>
    if auth.authenticated then { s with state := .signedIn auth }
    else s.endLocally (.statusRefused request)
  | .refreshAuthStatus, .error _ => s

/-- A call returns to its caller. What a screen makes of an answer is not the session's. -/
def callReturned (request : SentRequest) (answer : Except RpcError GetAuthStatusResponse) :
    Caller → ClientSession
  | .status caller => s.statusAnswered request caller answer
  | .screen _ => s

/-- The rest of the interceptor after an answer: an Unauthenticated one is refreshed and retried
once. -/
def callAnswered (caller : Caller) (answer : Except RpcError GetAuthStatusResponse) :
    CallPhase → Option ClientSession
  | .sent request =>
    match answer with
    | .error e =>
      if e.code = .unauthenticated && caller.replayable then
        some (s.refresh.addTask (.call caller (.reactive request e)))
      else some (s.callReturned request answer caller)
    | .ok _ => some (s.callReturned request answer caller)
  | .resent request => some (s.callReturned request answer caller)
  | _ => none

/-- The interceptor goes on after a refresh. -/
def callResumed (caller : Caller) : CallPhase → Option ClientSession
  | .proactiveDone => some (s.addTask (.call caller (.sent (s.request platform))))
  | .reactiveDone request error outcome =>
    match outcome with
    | .refreshed _ => some (s.addTask (.call caller (.resent (s.request platform))))
    | _ => some (s.callReturned request (.error error) caller)
  | _ => none

/-- `signIn` has its tokens and asks who we are. -/
def signedIn (resp : SignInResponse) : ClientSession :=
  { s with tokens := some resp.token, session := s.session + 1 }.startCall platform
    (.status .signIn)

/-- `SecureStore` refuses an empty token, and one over its limit. -/
def storable (token : String) : Bool := token ≠ "" && token.utf8ByteSize ≤ 2048

def bootstrap : ClientSession :=
  match s.state with
  | .signedIn _ => s
  | _ =>
    let s := { s with state := .unknown, leaving := false, left := false }
    match platform with
    | .native => s.addTask .bootLoad
    | .web => s.refresh.addTask .bootRefresh

def bootLoaded (failed : Bool) : ClientSession :=
  match if failed then none else s.load platform with
  | some _ => s.refresh.addTask .bootRefresh
  | none => { s with state := .signedOut }

def bootResumed : RefreshOutcome → ClientSession
  | .signedOut _ => s
  | .failed e => { s with state := .unreachable (toAppErrorKind e) }
  | .refreshed _ => s.startCall platform (.status .bootstrap)

/-- The refresher after `loadRefreshToken`. -/
def refreshLoaded (failed : Bool) (run : RefreshRun) : ClientSession :=
  let phase := if failed then .settled (.failed { code := .unavailable })
    else .requesting ((s.load platform).getD "")
  { s with inflight := some { run with phase } }

/-- The refresher after `RefreshToken`: a refusal ends the session. -/
def refreshAnswered (answer : Except RpcError AccessToken) (run : RefreshRun) : ClientSession :=
  let outcome := classifyRefresh answer
  let s := { s with inflight := some { run with phase := .settled outcome } }
  match outcome with
  | .refreshed token => { s with tokens := some token }
  | .signedOut _ => { s with tokens := none }.endLocally .refreshRefused
  | .failed _ => s

/-- One step of the client. -/
def step : SessionAction → Option ClientSession
  | .tick now => if s.now ≤ now then some { s with now } else none
  | .bootstrap => some (s.bootstrap platform)
  | .signIn => some ({ s with leaving := false, left := false }.addTask .login)
  | .signOut => some (s.addTask .beforeSignOut)
  | .refreshAuthStatus =>
    match s.state with
    | .signedIn _ => some (s.startCall platform (.status .refreshAuthStatus))
    | _ => some s
  | .screenCall stream => some (s.startCall platform (.screen stream))
  | .bootLoaded failed =>
    if .bootLoad ∈ s.tasks then
      some ((s.dropTask .bootLoad).bootLoaded platform failed)
    else none
  | .bootResumed outcome =>
    if .bootOutcome outcome ∈ s.tasks then
      some ((s.dropTask (.bootOutcome outcome)).bootResumed platform outcome)
    else none
  | .refreshLoaded failed =>
    match s.inflight with
    | some run =>
      if run.phase = .loading then some (s.refreshLoaded platform failed run) else none
    | none => none
  | .refreshAnswered answer =>
    match s.inflight with
    | some run =>
      match run.phase with
      | .requesting _ => some (s.refreshAnswered answer run)
      | _ => none
    | none => none
  | .refreshSettled =>
    match s.inflight with
    | some run =>
      match run.phase with
      | .settled outcome =>
        some { s with inflight := none, tasks := s.tasks.map (SessionTask.wake outcome) }
      | _ => none
    | none => none
  | .callResumed caller phase =>
    if .call caller phase ∈ s.tasks then
      (s.dropTask (.call caller phase)).callResumed platform caller phase
    else none
  | .callAnswered caller phase answer =>
    if .call caller phase ∈ s.tasks then
      (s.dropTask (.call caller phase)).callAnswered caller answer phase
    else none
  | .loginAnswered answer =>
    if .login ∈ s.tasks then
      let s := s.dropTask .login
      match answer, platform with
      | .error _, _ => some s
      | .ok resp, .native => some (s.addTask (.save resp))
      | .ok resp, .web => some (s.signedIn .web resp)
    else none
  | .saved resp failed =>
    if .save resp ∈ s.tasks then
      let s := s.dropTask (.save resp)
      if failed || !storable resp.refreshToken then some s
      else some ({ s with stored := some resp.refreshToken }.signedIn platform resp)
    else none
  | .signOutReady =>
    if .beforeSignOut ∈ s.tasks then
      some (({ s.dropTask .beforeSignOut with leaving := true }.endLocally .signOut).addTask
        .signOutEnd)
    else none
  | .endCleared failed =>
    match s.ending with
    | some run =>
      if run.phase = .clearing then
        some { s with
          stored := if failed then s.stored else none
          ending := some { run with phase := .notifying } }
      else none
    | none => none
  | .endNotified =>
    match s.ending with
    | some run =>
      if run.phase = .notifying then
        some { s with state := .signedOut, ending := some { run with phase := .settled } }
      else none
    | none => none
  | .endSettled =>
    match s.ending with
    | some run =>
      if run.phase = .settled then
        some { s with ending := none, tasks := s.tasks.map SessionTask.ended }
      else none
    | none => none
  | .signOutDone =>
    if .signOutLogout ∈ s.tasks then some { s.dropTask .signOutLogout with left := true } else none

end ClientSession

end OcfIms
