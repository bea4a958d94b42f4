import OcfIms.Personnel
import OcfIms.TokenRoles
import OcfIms.LibHistory
import OcfIms.LibQueue

/-!
# The interceptor spine and the audit log

Every call runs inside the chain that `Interceptors` declares: `Recovery`, `RequestID`, `Auth`,
`Slog`, `ActionLog`, `Validate`, outermost first. The action log hands its rows to a `Logger`, whose
queue of 1024 rows one worker writes to the `ACTION_LOG` table. Calls run at the same time, and wait
while the queue is full.

A handler is any program over operations of its own, which may panic. Tokens, the directory's cache
and protovalidate are parameters or answers; so are Connect's errors, of which the chain uses only
the code, the text and the cause.
-/

namespace OcfIms.AuditTrail

open TxnLib RunLib QueueLib

/-! ## Requests, lines and rows -/

inductive IdempotencyLevel
  | unknown
  | noSideEffects
  | idempotent
  deriving DecidableEq, Repr

structure RpcSpec where
  procedure : String
  idempotencyLevel : IdempotencyLevel
  deriving DecidableEq, Repr

/-- What `header.Get` finds: the empty text where there is none. -/
structure RequestHeader where
  xRequestId : String := ""
  authorization : String := ""
  deriving DecidableEq, Repr

/-- `connect.AnyRequest`. -/
structure AnyRequest (M : Type) where
  spec : RpcSpec
  httpMethod : String
  peerAddr : String
  header : RequestHeader
  message : M

/-- `connect.StreamingHandlerConn`, which validates what it receives once it is wrapped. -/
structure StreamingHandlerConn where
  spec : RpcSpec
  peerAddr : String
  requestHeader : RequestHeader
  validates : Bool := false

/-- What the chain knows of a call without its message. -/
structure RpcMeta where
  spec : RpcSpec
  httpMethod : String
  peerAddr : String
  header : RequestHeader
  stream : Bool
  deriving DecidableEq, Repr

def AnyRequest.rpcMeta {M : Type} (req : AnyRequest M) : RpcMeta :=
  ⟨req.spec, req.httpMethod, req.peerAddr, req.header, false⟩

def methodPost : String := "POST"

/-- A Connect stream is always a POST. -/
def StreamingHandlerConn.rpcMeta (conn : StreamingHandlerConn) : RpcMeta :=
  ⟨conn.spec, methodPost, conn.peerAddr, conn.requestHeader, true⟩

/-- `connect.AnyResponse`, with the id in its header. -/
structure AnyResponse (R : Type) where
  message : R
  xRequestId : Option String := none

structure JWTContext where
  claims : Option TokenClaims
  error : Option String

structure RpcContext where
  requestID : Option String := none
  jwt : Option JWTContext := none

/-- `ClaimsFromContext`. -/
def RpcContext.claims (ctx : RpcContext) : Option TokenClaims := ctx.jwt.bind (·.claims)

inductive SlogLevel
  | debug
  | warn
  | error
  deriving DecidableEq, Repr

structure SlogLine where
  level : SlogLevel
  message : String
  procedure : String
  durationMicros : Option Int := none
  user : Option String := none
  code : Option Nat := none
  stream : Bool := false
  requestID : Option String := none
  err : Option String := none
  cause : Option String := none
  deriving DecidableEq, Repr

/-- `imsdb.AddActionLogParams`. -/
structure AddActionLogParams where
  createdAt : Int
  actionType : String
  method : Option SqlText
  path : Option SqlText
  referrer : Option SqlText := none
  userID : Option Int
  userName : Option SqlText
  positionID : Option Int
  positionName : Option SqlText
  clientAddress : Option SqlText
  httpStatus : Option Nat
  durationMicros : Option Int
  deriving DecidableEq, Repr

/-- The parameters: the token library and its key, and Connect's errors. -/
structure RpcServer (E : Type) where
  jwt : JWTLibrary
  jwtSecret : String
  newError : Nat → String → E
  /-- `connect.CodeOf` of an error. -/
  errorCode : E → Nat
  errorText : E → String
  /-- `ErrorCause`. -/
  errorCause : E → Option String

def codeUnknown : Nat := 2
def codeInternal : Nat := 13
def codeUnavailable : Nat := 14
def codeDataLoss : Nat := 15

/-- `connect.CodeOf`, which is asked of no error too. -/
def RpcServer.codeOf {E : Type} (srv : RpcServer E) : Option E → Nat
  | none => codeUnknown
  | some err => srv.errorCode err

/-! ## The interceptors -/

/-- What the chain and the handler under it do. -/
inductive RpcOp (H : Type → Type 1) (M E : Type) : Type → Type 1
  /-- An operation of the handler. -/
  | serve {β : Type} (o : H β) : RpcOp H M E β
  | validate (message : M) : RpcOp H M E (Option E)
  | now : RpcOp H M E Int
  /-- `rand.Text`. -/
  | text : RpcOp H M E String
  /-- `GetPositions`, whose error is dropped. -/
  | positions : RpcOp H M E (Option (List (Int × String)))
  | setResponseHeader (id : String) : RpcOp H M E Unit
  | slog (line : SlogLine) : RpcOp H M E Unit
  /-- `ActionLogger.Log`. -/
  | log (record : AddActionLogParams) : RpcOp H M E Unit

/-- A call ends with a value, or panics with one that is recovered. -/
abbrev Rpc (Op : Type → Type 1) (α : Type) : Type 1 := Call Op String α

abbrev UnaryFunc (Op : Type → Type 1) (M R E : Type) : Type 1 :=
  RpcContext → AnyRequest M → Rpc Op (Option (AnyResponse R) × Option E)

abbrev StreamingHandlerFunc (Op : Type → Type 1) (E : Type) : Type 1 :=
  RpcContext → StreamingHandlerConn → Rpc Op (Option E)

structure Interceptor (Op : Type → Type 1) (M R E : Type) where
  wrapUnary : UnaryFunc Op M R E → UnaryFunc Op M R E
  wrapStreamingHandler : StreamingHandlerFunc Op E → StreamingHandlerFunc Op E

section Interceptors

variable {H : Type → Type 1} {M R E : Type} (srv : RpcServer E)

def recoveredLine (recovered procedure : String) : SlogLine where
  level := .error
  message := "Recovered from panic in RPC handler"
  procedure := procedure
  err := some recovered

def RpcServer.malfunctioned : E := srv.newError codeInternal "the server malfunctioned"

/-- `recoverRPC`, where something panicked. -/
def recoverRPC (recovered procedure : String) : Rpc (RpcOp H M E) E := do
  Call.perform (.slog (recoveredLine recovered procedure))
  pure srv.malfunctioned

def recoveryInterceptor : Interceptor (RpcOp H M E) M R E where
  wrapUnary next ctx req := do
    match ← Call.result (next ctx req) with
    | .ok out => pure out
    | .error recovered => do
      let err ← recoverRPC srv recovered req.spec.procedure
      pure (none, some err)
  wrapStreamingHandler next ctx conn := do
    match ← Call.result (next ctx conn) with
    | .ok err => pure err
    | .error recovered => do
      let err ← recoverRPC srv recovered conn.spec.procedure
      pure (some err)

def withRequestID (ctx : RpcContext) (header : RequestHeader) :
    Rpc (RpcOp H M E) (RpcContext × String) := do
  let id ← if header.xRequestId = "" then Call.perform .text else pure header.xRequestId
  pure ({ ctx with requestID := some id }, id)

def requestIDInterceptor : Interceptor (RpcOp H M E) M R E where
  wrapUnary next ctx req := do
    let (ctx, id) ← withRequestID ctx req.header
    let (resp, err) ← next ctx req
    pure (resp.map fun r => { r with xRequestId := some id }, err)
  wrapStreamingHandler next ctx conn := do
    let (ctx, id) ← withRequestID ctx conn.requestHeader
    Call.perform (.setResponseHeader id)
    next ctx conn

/-- `strings.TrimPrefix`. -/
def trimPrefix (s p : String) : String :=
  if p.toList.isPrefixOf s.toList then String.ofList (s.toList.drop p.length) else s

def bearerToken (header : RequestHeader) : String := trimPrefix header.authorization "Bearer "

/-- The claims of the token, or why there are none. -/
def jwtContext (now : Int) (header : RequestHeader) : JWTContext :=
  match authenticateJWT srv.jwt srv.jwtSecret now (bearerToken header) with
  | .ok claims => ⟨some claims, none⟩
  | .error e => ⟨none, some e⟩

def authenticate (ctx : RpcContext) (header : RequestHeader) :
    Rpc (RpcOp H M E) RpcContext := do
  let now ← Call.perform .now
  pure { ctx with jwt := some (jwtContext srv now header) }

def authInterceptor : Interceptor (RpcOp H M E) M R E where
  wrapUnary next ctx req := do
    let ctx ← authenticate srv ctx req.header
    next ctx req
  wrapStreamingHandler next ctx conn := do
    let ctx ← authenticate srv ctx conn.requestHeader
    next ctx conn

def rpcErrorLevel (code : Nat) : SlogLevel :=
  if code = codeInternal ∨ code = codeUnknown ∨ code = codeDataLoss ∨ code = codeUnavailable
  then .error else .warn

/-- `duration.Microseconds`, of nanoseconds. -/
def microseconds (d : Int) : Int := d.tdiv 1000

/-- A line with the attributes of `rpcAttrs`. -/
def rpcAttrs (ctx : RpcContext) (level : SlogLevel) (message procedure : String) (duration : Int)
    (err : Option E) (stream : Bool) : SlogLine where
  level := level
  message := message ++ procedure
  procedure := procedure
  durationMicros := some (microseconds duration)
  user := some ((ctx.claims.map (·.handle)).getD "")
  code := some (srv.codeOf err)
  stream := stream
  requestID := ctx.requestID

/-- The line `logRPC` writes. -/
def closingLine (ctx : RpcContext) (procedure : String) (duration : Int) (err : Option E)
    (stream : Bool) : SlogLine :=
  match err with
  | none => rpcAttrs srv ctx .debug "Served RPC: " procedure duration none stream
  | some e =>
    { rpcAttrs srv ctx (rpcErrorLevel (srv.codeOf (some e))) "RPC failed: " procedure duration
        (some e) stream with
      err := some (srv.errorText e)
      cause := srv.errorCause e }

def logRPC (ctx : RpcContext) (procedure : String) (start : Int) (err : Option E)
    (stream : Bool) : Rpc (RpcOp H M E) Unit := do
  let now ← Call.perform .now
  Call.perform (.slog (closingLine srv ctx procedure (now - start) err stream))

def slogInterceptor : Interceptor (RpcOp H M E) M R E where
  wrapUnary next ctx req := do
    let start ← Call.perform .now
    let (resp, err) ← next ctx req
    logRPC srv ctx req.spec.procedure start err false
    pure (resp, err)
  wrapStreamingHandler next ctx conn := do
    let start ← Call.perform .now
    let now ← Call.perform .now
    Call.perform (.slog (rpcAttrs srv ctx .debug "Opened RPC stream: " conn.spec.procedure
      (now - start) none true))
    let err ← next ctx conn
    logRPC srv ctx conn.spec.procedure start err true
    pure err

def actionTypeRPC : String := "rpc"
def actionTypeStreamOpen : String := "rpc_stream_open"
def actionTypeStreamClose : String := "rpc_stream_close"

/-- The position's name, if the positions could be read. -/
def positionName (positions : Option (List (Int × String))) (posID : Int) : Option SqlText :=
  positions.bind fun names => stringToSql (emptyToNil ((names.lookup posID).getD "")) 128

/-- The row of a call, from its metadata and what was read when it was written. -/
def actionLogRow (ctx : RpcContext) (actionType method procedure remoteAddr : String)
    (err : Option E) (duration now : Int) (positions : Option (List (Int × String))) :
    AddActionLogParams where
  createdAt := timeToFloat now
  actionType := actionType
  method := stringToSql (some method) 128
  path := stringToSql (some procedure) 128
  userID := ctx.claims.map (·.personID)
  userName := ctx.claims.bind fun claims => stringToSql (some claims.handle) 128
  positionID := ctx.claims.bind (·.onDutyPosition)
  positionName := (ctx.claims.bind (·.onDutyPosition)).bind (positionName positions)
  clientAddress := stringToSql (some remoteAddr) 128
  httpStatus := some (srv.codeOf err)
  durationMicros := some (microseconds duration)

def record (ctx : RpcContext) (actionType method procedure remoteAddr : String)
    (err : Option E) (duration : Int) : Rpc (RpcOp H M E) Unit := do
  let positions ← match ctx.claims.bind (·.onDutyPosition) with
    | none => pure none
    | some _ => Call.perform .positions
  let now ← Call.perform .now
  Call.perform (.log (actionLogRow srv ctx actionType method procedure remoteAddr err duration now
    positions))

def actionLogInterceptor : Interceptor (RpcOp H M E) M R E where
  wrapUnary next ctx req := do
    let start ← Call.perform .now
    let (resp, err) ← next ctx req
    if req.spec.idempotencyLevel ≠ .noSideEffects then do
      let now ← Call.perform .now
      record srv ctx actionTypeRPC req.httpMethod req.spec.procedure req.peerAddr err (now - start)
      pure (resp, err)
    else pure (resp, err)
  wrapStreamingHandler next ctx conn := do
    if conn.spec.idempotencyLevel = .noSideEffects then next ctx conn
    else do
      let start ← Call.perform .now
      record srv ctx actionTypeStreamOpen methodPost conn.spec.procedure conn.peerAddr none 0
      let err ← next ctx conn
      let now ← Call.perform .now
      record srv ctx actionTypeStreamClose methodPost conn.spec.procedure conn.peerAddr err
        (now - start)
      pure err

/-- `validate.NewInterceptor`: a request that violates its constraints does not get to the handler. -/
def validateInterceptor : Interceptor (RpcOp H M E) M R E where
  wrapUnary next ctx req := do
    match ← Call.perform (.validate req.message) with
    | some violation => pure (none, some violation)
    | none => next ctx req
  wrapStreamingHandler next ctx conn := next ctx { conn with validates := true }

/-- `Interceptors`, outermost first. -/
def interceptors : List (Interceptor (RpcOp H M E) M R E) :=
  [recoveryInterceptor srv, requestIDInterceptor, authInterceptor srv, slogInterceptor srv,
    actionLogInterceptor srv, validateInterceptor]

def chainUnary (is : List (Interceptor (RpcOp H M E) M R E)) (f : UnaryFunc (RpcOp H M E) M R E) :
    UnaryFunc (RpcOp H M E) M R E :=
  is.foldr (fun i next => i.wrapUnary next) f

def chainStreaming (is : List (Interceptor (RpcOp H M E) M R E))
    (f : StreamingHandlerFunc (RpcOp H M E) E) : StreamingHandlerFunc (RpcOp H M E) E :=
  is.foldr (fun i next => i.wrapStreamingHandler next) f

end Interceptors

/-! ## Calls -/

/-- A call of a method, with its handler. -/
inductive RpcCall (H : Type → Type 1) (M R E : Type) : Type 1
  | unary (req : AnyRequest M) (handler : UnaryFunc H M R E)
  | streaming (conn : StreamingHandlerConn) (handler : StreamingHandlerFunc H E)

/-- The handler's program, under the chain. -/
def handled {H : Type → Type 1} {M E α : Type} (x : Rpc H α) : Rpc (RpcOp H M E) α :=
  x.prog.mapOp fun _ => .serve

namespace RpcCall

variable {H : Type → Type 1} {M R E : Type}

def rpcMeta : RpcCall H M R E → RpcMeta
  | .unary req _ => req.rpcMeta
  | .streaming conn _ => conn.rpcMeta

/-- The call as it is served: what the client gets is a response or an error. -/
def serve (srv : RpcServer E) : RpcCall H M R E →
    Rpc (RpcOp H M E) (Option (AnyResponse R) × Option E)
  | .unary req handler =>
    chainUnary (interceptors srv) (fun ctx req => handled (handler ctx req)) {} req
  | .streaming conn handler => do
    let err ← chainStreaming (R := R) (interceptors srv)
      (fun ctx conn => handled (handler ctx conn)) {} conn
    pure (none, err)

end RpcCall

/-! ## What a call leaves behind -/

inductive ServerEvent
  | served
  | header (id : String)
  | line (line : SlogLine)
  | row (row : AddActionLogParams)
  deriving DecidableEq, Repr

/-- The events among the operations. -/
def serverEvents {H : Type → Type 1} {M E : Type} : ∀ β : Type, RpcOp H M E β → List ServerEvent
  | _, .serve _ => [.served]
  | _, .setResponseHeader id => [.header id]
  | _, .slog line => [.line line]
  | _, .log row => [.row row]
  | _, _ => []

/-- What is read when a row and a line are written. -/
structure Readings where
  now : Int := 0
  duration : Int := 0
  lineDuration : Int := 0
  positions : Option (List (Int × String)) := none

section Trails

variable {R E : Type} (srv : RpcServer E)

/-- The id and the claims that the chain gives a call: its own id, or a new one; the claims of its
token as they were found at some time. -/
structure Entered (header : RequestHeader) (id : String) (ctx : RpcContext) : Prop where
  requestID : ctx.requestID = some id
  adopted : header.xRequestId ≠ "" → id = header.xRequestId
  jwt : ∃ now, ctx.jwt = some (jwtContext srv now header)

def rowOf (ctx : RpcContext) (m : RpcMeta) (actionType : String) (err : Option E)
    (duration : Int) (r : Readings) : List ServerEvent :=
  if m.spec.idempotencyLevel = .noSideEffects then []
  else [.row (actionLogRow srv ctx actionType m.httpMethod m.spec.procedure m.peerAddr err duration
    r.now r.positions)]

/-- What is left before the handler runs: for a stream, its header, a line and a row. -/
def opening (id : String) (ctx : RpcContext) (m : RpcMeta) (r : Readings) : List ServerEvent :=
  if m.stream then
    .header id :: .line (rpcAttrs srv ctx .debug "Opened RPC stream: " m.spec.procedure
      r.lineDuration none true) :: rowOf srv ctx m actionTypeStreamOpen none 0 r
  else []

/-- What is left after it has returned: a row and a line. -/
def closing (ctx : RpcContext) (m : RpcMeta) (err : Option E) (r : Readings) : List ServerEvent :=
  rowOf srv ctx m (if m.stream then actionTypeStreamClose else actionTypeRPC) err r.duration r ++
    [.line (closingLine srv ctx m.spec.procedure r.lineDuration err m.stream)]

/-- The whole of it: the opening, the handler's operations, and the closing; or, where something
panicked, a line that says so. The response carries the id in its header. -/
inductive Trail (m : RpcMeta) :
    List ServerEvent → Option (AnyResponse R) × Option E → Prop
  | returned {id : String} {ctx : RpcContext} (h : Entered srv m.header id ctx) (o c : Readings)
      (n : Nat) (resp : Option (AnyResponse R)) (err : Option E)
      (hresp : ∀ r, resp = some r → r.xRequestId = some id) :
      Trail m (opening srv id ctx m o ++ List.replicate n .served ++ closing srv ctx m err c)
        (resp, err)
  | panicked {id : String} {ctx : RpcContext} (h : Entered srv m.header id ctx) (o : Readings)
      (n : Nat) (recovered : String) :
      Trail m (opening srv id ctx m o ++ List.replicate n .served ++
        [.line (recoveredLine recovered m.spec.procedure)]) (none, some srv.malfunctioned)

/-- What a call that is still being served has left. -/
def UnderWay (m : RpcMeta) (h : List ServerEvent) : Prop :=
  ∃ (full : List ServerEvent) (out : Option (AnyResponse R) × Option E),
    Trail srv m full out ∧ h <+: full

end Trails

/-! ## What each interceptor leaves -/

section Stages

variable {H : Type → Type 1} {M R E α β : Type} {srv : RpcServer E} {I : List ServerEvent → Prop}
  {ctx : RpcContext} {m : RpcMeta} {rest h : List ServerEvent}

/-- The handler has run, or is running. -/
def Served (rest h : List ServerEvent) : Prop := ∃ n, h = rest ++ List.replicate n .served

theorem handled_unfolds (x : Rpc H α) (hI : ∀ n, I (rest ++ List.replicate n .served)) :
    (handled x : Rpc (RpcOp H M E) α).Unfolds serverEvents I (fun h _ => Served rest h) rest := by
  have hserve : ∀ (β : Type) (o : H β),
      serverEvents β (.serve o : RpcOp H M E β) = [.served] := fun _ _ => rfl
  have hx := Prog.unfolds_mapOp (Q := fun h (_ : Except String α) => Served rest h) hserve hI
    (fun n _ => ⟨n, rfl⟩) x.prog 0
  rwa [List.replicate_zero, List.append_nil] at hx

/-- An operation that is no event. -/
theorem unfolds_silent_bind {o : RpcOp H M E β} {f : β → Rpc (RpcOp H M E) α}
    {Q : List ServerEvent → Except String α → Prop} (ho : serverEvents β o = []) (hI : I h)
    (hf : ∀ b, (f b).Unfolds serverEvents I Q h) :
    (Call.perform o >>= f).Unfolds serverEvents I Q h := by
  have hsame : h ++ serverEvents β o = h := by rw [ho, List.append_nil]
  refine Call.unfolds_perform_bind ?_ fun b => ?_
  · rwa [hsame]
  · rw [hsame]
    exact hf b

theorem record_bind {actionType method procedure addr : String} {err : Option E} {duration : Int}
    {f : Unit → Rpc (RpcOp H M E) α} {Q : List ServerEvent → Except String α → Prop} (hI : I h)
    (hf : ∀ now positions,
      I (h ++ [.row (actionLogRow srv ctx actionType method procedure addr err duration now
        positions)]) ∧
      (f ()).Unfolds serverEvents I Q (h ++ [.row (actionLogRow srv ctx actionType method procedure
        addr err duration now positions)])) :
    (record srv ctx actionType method procedure addr err duration >>= f).Unfolds serverEvents I Q
      h := by
  have hlog : ∀ positions, ((do
      let now ← Call.perform .now
      Call.perform (.log (actionLogRow srv ctx actionType method procedure addr err duration now
        positions)) : Rpc (RpcOp H M E) Unit) >>= f).Unfolds serverEvents I Q h := fun positions => by
    rw [bind_assoc]
    refine unfolds_silent_bind rfl hI fun now => ?_
    exact Call.unfolds_perform_bind (hf now positions).1 fun _ => (hf now positions).2
  rw [record]
  cases ctx.claims.bind (·.onDutyPosition) with
  | none => exact hlog none
  | some posID =>
      dsimp only
      rw [bind_assoc]
      exact unfolds_silent_bind rfl hI hlog

theorem logRPC_bind {procedure : String} {start : Int} {err : Option E} {stream : Bool}
    {f : Unit → Rpc (RpcOp H M E) α} {Q : List ServerEvent → Except String α → Prop} (hI : I h)
    (hf : ∀ duration,
      I (h ++ [.line (closingLine srv ctx procedure duration err stream)]) ∧
      (f ()).Unfolds serverEvents I Q
        (h ++ [.line (closingLine srv ctx procedure duration err stream)])) :
    (logRPC srv ctx procedure start err stream >>= f).Unfolds serverEvents I Q h := by
  rw [logRPC, bind_assoc]
  refine unfolds_silent_bind rfl hI fun now => ?_
  exact Call.unfolds_perform_bind (hf (now - start)).1 fun _ => (hf (now - start)).2

theorem withRequestID_bind {header : RequestHeader} {f : RpcContext × String → Rpc (RpcOp H M E) α}
    {Q : List ServerEvent → Except String α → Prop} (hI : I h)
    (hf : ∀ id, (header.xRequestId ≠ "" → id = header.xRequestId) →
      (f ({ ctx with requestID := some id }, id)).Unfolds serverEvents I Q h) :
    (withRequestID ctx header >>= f).Unfolds serverEvents I Q h := by
  rw [withRequestID]
  split
  · rename_i hempty
    rw [bind_assoc]
    exact unfolds_silent_bind rfl hI fun id => hf id fun hne => (hne hempty).elim
  · exact hf header.xRequestId fun _ => rfl

theorem authenticate_bind {header : RequestHeader} {f : RpcContext → Rpc (RpcOp H M E) α}
    {Q : List ServerEvent → Except String α → Prop} (hI : I h)
    (hf : ∀ now, (f { ctx with jwt := some (jwtContext srv now header) }).Unfolds serverEvents I Q
      h) :
    (authenticate srv ctx header >>= f).Unfolds serverEvents I Q h := by
  rw [authenticate, bind_assoc]
  exact unfolds_silent_bind rfl hI hf

/-- The action log's part is done: with a result, its row is left. -/
def Audited (srv : RpcServer E) (ctx : RpcContext) (m : RpcMeta) (actionType : String)
    (rest : List ServerEvent) (errOf : α → Option E) (h : List ServerEvent) :
    Except String α → Prop
  | .ok a => ∃ n d r, h = rest ++ List.replicate n .served ++
      rowOf srv ctx m actionType (errOf a) d r
  | .error _ => Served rest h

/-- The line that closes the call is left too. -/
def Closed (srv : RpcServer E) (ctx : RpcContext) (m : RpcMeta) (rest : List ServerEvent)
    (errOf : α → Option E) (h : List ServerEvent) : Except String α → Prop
  | .ok a => ∃ n r, h = rest ++ List.replicate n .served ++ closing srv ctx m (errOf a) r
  | .error _ => Served rest h

theorem rowOf_read (hread : m.spec.idempotencyLevel = .noSideEffects) {actionType : String}
    {err : Option E} {d : Int} {r : Readings} : rowOf srv ctx m actionType err d r = [] :=
  if_pos hread

theorem row_unary {req : AnyRequest M} (hread : req.spec.idempotencyLevel ≠ .noSideEffects)
    {actionType : String} {err : Option E} {d now : Int}
    {positions : Option (List (Int × String))} :
    [.row (actionLogRow srv ctx actionType req.httpMethod req.spec.procedure req.peerAddr err d now
      positions)] = rowOf srv ctx req.rpcMeta actionType err d { now, positions } :=
  (if_neg hread).symm

theorem row_streaming {conn : StreamingHandlerConn}
    (hread : conn.spec.idempotencyLevel ≠ .noSideEffects) {actionType : String} {err : Option E}
    {d now : Int} {positions : Option (List (Int × String))} :
    [.row (actionLogRow srv ctx actionType methodPost conn.spec.procedure conn.peerAddr err d now
      positions)] = rowOf srv ctx conn.rpcMeta actionType err d { now, positions } :=
  (if_neg hread).symm

theorem actionLog_unary {next : UnaryFunc (RpcOp H M E) M R E} {req : AnyRequest M}
    (hI : ∀ n, I (rest ++ List.replicate n .served))
    (hrow : ∀ n err d r,
      I (rest ++ List.replicate n .served ++ rowOf srv ctx req.rpcMeta actionTypeRPC err d r))
    (hnext : (next ctx req).Unfolds serverEvents I (fun h _ => Served rest h) rest) :
    ((actionLogInterceptor srv).wrapUnary next ctx req).Unfolds serverEvents I
      (Audited srv ctx req.rpcMeta actionTypeRPC rest Prod.snd) rest := by
  have hstart : I rest := by simpa using hI 0
  refine unfolds_silent_bind rfl hstart fun start => ?_
  refine hnext.bind ?_ fun h e hserved => hserved
  rintro h ⟨resp, err⟩ ⟨n, rfl⟩
  dsimp only
  split
  · rename_i hread
    refine unfolds_silent_bind rfl (hI n) fun now => record_bind (hI n) fun now positions => ?_
    rw [row_unary hread]
    exact ⟨hrow n err _ _, n, _, _, rfl⟩
  · rename_i hread
    refine ⟨n, 0, {}, ?_⟩
    rw [rowOf_read (not_not.mp hread), List.append_nil]

theorem slog_unary {next : UnaryFunc (RpcOp H M E) M R E} {req : AnyRequest M} (hstart : I rest)
    (hrow : ∀ n err d r,
      I (rest ++ List.replicate n .served ++ rowOf srv ctx req.rpcMeta actionTypeRPC err d r))
    (hclosing : ∀ n err r,
      I (rest ++ List.replicate n .served ++ closing srv ctx req.rpcMeta err r))
    (hnext : (next ctx req).Unfolds serverEvents I
      (Audited srv ctx req.rpcMeta actionTypeRPC rest Prod.snd) rest) :
    ((slogInterceptor srv).wrapUnary next ctx req).Unfolds serverEvents I
      (Closed srv ctx req.rpcMeta rest Prod.snd) rest := by
  refine unfolds_silent_bind rfl hstart fun start => ?_
  refine hnext.bind ?_ fun h e hserved => hserved
  rintro h ⟨resp, err⟩ ⟨n, d, r, rfl⟩
  refine logRPC_bind (hrow n err d r) fun duration => ?_
  have hline : rest ++ List.replicate n .served ++ rowOf srv ctx req.rpcMeta actionTypeRPC err d r ++
      [.line (closingLine srv ctx req.spec.procedure duration err false)] =
      rest ++ List.replicate n .served ++
        closing srv ctx req.rpcMeta err { r with duration := d, lineDuration := duration } :=
    List.append_assoc _ _ _
  dsimp only
  rw [hline]
  exact ⟨hclosing n err _, n, _, rfl⟩

theorem actionLog_streaming {next : StreamingHandlerFunc (RpcOp H M E) E}
    {conn : StreamingHandlerConn} (hstart : I rest)
    (hI : ∀ o n, I (rest ++ rowOf srv ctx conn.rpcMeta actionTypeStreamOpen none 0 o ++
      List.replicate n .served))
    (hrow : ∀ o n err d r, I (rest ++ rowOf srv ctx conn.rpcMeta actionTypeStreamOpen none 0 o ++
      List.replicate n .served ++ rowOf srv ctx conn.rpcMeta actionTypeStreamClose err d r))
    (hnext : ∀ o, (next ctx conn).Unfolds serverEvents I
      (fun h _ => Served (rest ++ rowOf srv ctx conn.rpcMeta actionTypeStreamOpen none 0 o) h)
      (rest ++ rowOf srv ctx conn.rpcMeta actionTypeStreamOpen none 0 o)) :
    ((actionLogInterceptor (M := M) (R := R) srv).wrapStreamingHandler next ctx conn).Unfolds
      serverEvents I (fun h out => ∃ o, Audited srv ctx conn.rpcMeta actionTypeStreamClose
        (rest ++ rowOf srv ctx conn.rpcMeta actionTypeStreamOpen none 0 o) (fun err => err) h out)
      rest := by
  simp only [actionLogInterceptor]
  split
  · rename_i hread
    have hopen : rest ++ rowOf srv ctx conn.rpcMeta actionTypeStreamOpen none 0 {} = rest := by
      rw [rowOf_read hread, List.append_nil]
    have hx := hnext {}
    rw [hopen] at hx
    refine hx.mono fun h out hserved => ⟨{}, ?_⟩
    rw [hopen]
    cases out with
    | error e => exact hserved
    | ok err =>
        obtain ⟨n, rfl⟩ := hserved
        refine ⟨n, 0, {}, ?_⟩
        rw [rowOf_read hread, List.append_nil]
  · rename_i hread
    refine unfolds_silent_bind rfl hstart fun start => record_bind hstart fun now positions => ?_
    rw [row_streaming hread]
    have hopened := hI { now, positions } 0
    rw [List.replicate_zero, List.append_nil] at hopened
    refine ⟨hopened, (hnext { now, positions }).bind ?_ fun h e hserved => ⟨_, hserved⟩⟩
    rintro h err ⟨n, rfl⟩
    refine unfolds_silent_bind rfl (hI _ n) fun now' => record_bind (hI _ n) fun now' positions' => ?_
    rw [row_streaming hread]
    exact ⟨hrow _ n err _ _, _, n, _, _, rfl⟩

/-- The line a stream is opened with. -/
def openedLine (srv : RpcServer E) (ctx : RpcContext) (procedure : String) (d : Int) : SlogLine :=
  rpcAttrs srv ctx .debug "Opened RPC stream: " procedure d none true

theorem slog_streaming {next : StreamingHandlerFunc (RpcOp H M E) E} {conn : StreamingHandlerConn}
    {id : String} (hstart : I [.header id])
    (hopened : ∀ d, I [.header id, .line (openedLine srv ctx conn.spec.procedure d)])
    (hrow : ∀ o n err d r, I (opening srv id ctx conn.rpcMeta o ++ List.replicate n .served ++
      rowOf srv ctx conn.rpcMeta actionTypeStreamClose err d r))
    (hclosing : ∀ o n err r, I (opening srv id ctx conn.rpcMeta o ++ List.replicate n .served ++
      closing srv ctx conn.rpcMeta err r))
    (hnext : ∀ d, (next ctx conn).Unfolds serverEvents I (fun h out => ∃ o,
      Audited srv ctx conn.rpcMeta actionTypeStreamClose
        ([.header id, .line (openedLine srv ctx conn.spec.procedure d)] ++
          rowOf srv ctx conn.rpcMeta actionTypeStreamOpen none 0 o) (fun err => err) h out)
      [.header id, .line (openedLine srv ctx conn.spec.procedure d)]) :
    ((slogInterceptor (M := M) (R := R) srv).wrapStreamingHandler next ctx conn).Unfolds
      serverEvents I (fun h out => ∃ o, Closed srv ctx conn.rpcMeta
        (opening srv id ctx conn.rpcMeta o) (fun err => err) h out) [.header id] := by
  refine unfolds_silent_bind rfl hstart fun start => unfolds_silent_bind rfl hstart fun now => ?_
  refine Call.unfolds_perform_bind (hopened _) fun _ => ?_
  have hopening : ∀ (d : Int) (o : Readings),
      [.header id, .line (openedLine srv ctx conn.spec.procedure d)] ++
        rowOf srv ctx conn.rpcMeta actionTypeStreamOpen none 0 o =
      opening srv id ctx conn.rpcMeta { o with lineDuration := d } := fun _ _ => rfl
  refine (hnext _).bind ?_ ?_
  · rintro h err ⟨o, n, d, r, rfl⟩
    rw [hopening]
    refine logRPC_bind (hrow _ n err d r) fun duration => ?_
    have hline : ∀ o, opening srv id ctx conn.rpcMeta o ++ List.replicate n .served ++
        rowOf srv ctx conn.rpcMeta actionTypeStreamClose err d r ++
        [.line (closingLine srv ctx conn.spec.procedure duration err true)] =
        opening srv id ctx conn.rpcMeta o ++ List.replicate n .served ++
          closing srv ctx conn.rpcMeta err { r with duration := d, lineDuration := duration } :=
      fun _ => List.append_assoc _ _ _
    rw [hline]
    exact ⟨hclosing _ n err _, _, n, _, rfl⟩
  · rintro h e ⟨o, hserved⟩
    rw [hopening] at hserved
    exact ⟨_, hserved⟩

end Stages

/-! ## What a call leaves -/

section Serve

variable {H : Type → Type 1} {M R E α : Type} {srv : RpcServer E} {m : RpcMeta} {id : String}
  {ctx : RpcContext} {h : List ServerEvent}

theorem entered_claims (srv : RpcServer E) {header : RequestHeader} (id : String)
    (hid : header.xRequestId ≠ "" → id = header.xRequestId) (now : Int) :
    Entered srv header id { requestID := some id, jwt := some (jwtContext srv now header) } :=
  ⟨rfl, hid, now, rfl⟩

theorem underWay_panic (hctx : Entered srv m.header id ctx) (o : Readings) (n : Nat)
    (hpre : h <+: opening srv id ctx m o ++ List.replicate n .served) :
    UnderWay (R := R) srv m h :=
  ⟨_, _, .panicked hctx o n "", hpre.trans (List.prefix_append _ _)⟩

theorem underWay_closing (hctx : Entered srv m.header id ctx) (o c : Readings) (n : Nat)
    (err : Option E) (hpre : h <+: opening srv id ctx m o ++ List.replicate n .served ++
      closing srv ctx m err c) : UnderWay (R := R) srv m h :=
  ⟨_, _, .returned hctx o c n none err (fun _ hr => nomatch hr), hpre⟩

theorem underWay_row (hctx : Entered srv m.header id ctx) (o r : Readings) (n : Nat) (d : Int)
    (err : Option E) : UnderWay (R := R) srv m (opening srv id ctx m o ++
      List.replicate n .served ++
      rowOf srv ctx m (if m.stream then actionTypeStreamClose else actionTypeRPC) err d r) := by
  refine underWay_closing hctx o { r with duration := d } n err ?_
  exact (List.prefix_append_right_inj _).mpr (List.prefix_append _ _)

/-- The call has come back to `Recovery`. -/
def Passed (srv : RpcServer E) (m : RpcMeta) (outOf : α → Option (AnyResponse R) × Option E)
    (h : List ServerEvent) : Except String α → Prop
  | .ok a => Trail srv m h (outOf a)
  | .error _ => ∃ id ctx o, Entered srv m.header id ctx ∧ Served (opening srv id ctx m o) h

/-- A call leaves a whole trail, and never panics. -/
def Finished (srv : RpcServer E) (m : RpcMeta) (h : List ServerEvent)
    (out : Except String (Option (AnyResponse R) × Option E)) : Prop :=
  ∃ reply, out = .ok reply ∧ Trail srv m h reply

theorem recoverRPC_bind {recovered : String} {f : E → Rpc (RpcOp H M E) α}
    {Q : List ServerEvent → Except String α → Prop} {o : Readings}
    (hctx : Entered srv m.header id ctx) (hserved : Served (opening srv id ctx m o) h)
    (hf : ∀ h', Trail (R := R) srv m h' (none, some srv.malfunctioned) →
      (f srv.malfunctioned).Unfolds serverEvents (UnderWay (R := R) srv m) Q h') :
    (recoverRPC srv recovered m.spec.procedure >>= f).Unfolds serverEvents
      (UnderWay (R := R) srv m) Q h := by
  obtain ⟨n, rfl⟩ := hserved
  rw [recoverRPC, bind_assoc]
  have htrail := Trail.panicked (R := R) hctx o n recovered
  exact Call.unfolds_perform_bind ⟨_, _, htrail, List.prefix_rfl⟩ fun _ => hf _ htrail

theorem recovery_unary {next : UnaryFunc (RpcOp H M E) M R E} {req : AnyRequest M}
    (hnext : (next ctx req).Unfolds serverEvents (UnderWay (R := R) srv req.rpcMeta)
      (Passed srv req.rpcMeta fun out => out) h) :
    ((recoveryInterceptor srv).wrapUnary next ctx req).Unfolds serverEvents
      (UnderWay (R := R) srv req.rpcMeta) (Finished srv req.rpcMeta) h := by
  refine hnext.result_bind fun h r hr => ?_
  cases r with
  | ok out => exact ⟨out, rfl, hr⟩
  | error recovered =>
      obtain ⟨id, ctx, o, hctx, hserved⟩ := hr
      exact recoverRPC_bind (m := req.rpcMeta) hctx hserved fun _ htrail => ⟨_, rfl, htrail⟩

theorem recovery_streaming {next : StreamingHandlerFunc (RpcOp H M E) E}
    {conn : StreamingHandlerConn}
    (hnext : (next ctx conn).Unfolds serverEvents (UnderWay (R := R) srv conn.rpcMeta)
      (Passed (R := R) srv conn.rpcMeta fun err => (none, err)) h) :
    ((recoveryInterceptor (M := M) (R := R) srv).wrapStreamingHandler next ctx conn >>=
      fun err => pure ((none : Option (AnyResponse R)), err)).Unfolds serverEvents
      (UnderWay (R := R) srv conn.rpcMeta) (Finished srv conn.rpcMeta) h := by
  simp only [recoveryInterceptor, bind_assoc]
  refine hnext.result_bind fun h r hr => ?_
  cases r with
  | ok err => exact ⟨(none, err), rfl, hr⟩
  | error recovered =>
      obtain ⟨id, ctx, o, hctx, hserved⟩ := hr
      dsimp only
      rw [bind_assoc]
      exact recoverRPC_bind (m := conn.rpcMeta) hctx hserved fun _ htrail => ⟨_, rfl, htrail⟩

theorem serve_unary (req : AnyRequest M) (handler : UnaryFunc H M R E) :
    ((RpcCall.unary req handler).serve srv).Unfolds serverEvents
      (UnderWay (R := R) srv req.rpcMeta) (Finished srv req.rpcMeta) [] := by
  have hpanic : ∀ {id ctx}, Entered srv req.header id ctx → ∀ n,
      UnderWay (R := R) srv req.rpcMeta ([] ++ List.replicate n .served) :=
    fun hctx n => underWay_panic (m := req.rpcMeta) hctx {} n List.prefix_rfl
  refine recovery_unary (withRequestID_bind ?_ fun id hid => ?_)
  · exact hpanic (entered_claims srv req.header.xRequestId (fun _ => rfl) 0) 0
  have hstart := hpanic (entered_claims srv id hid 0) 0
  refine Call.Unfolds.bind (authenticate_bind (Q := fun h out => ∃ now, Closed srv
    { requestID := some id, jwt := some (jwtContext srv now req.header) } req.rpcMeta [] Prod.snd h
    out) hstart fun now => ?_) ?_ ?_
  · have hctx := entered_claims srv id hid now
    have hrow := fun n err d r => underWay_row (R := R) (m := req.rpcMeta) hctx {} r n d err
    refine (slog_unary hstart hrow
      (fun n err r => underWay_closing (m := req.rpcMeta) hctx {} r n err List.prefix_rfl)
      (actionLog_unary (hpanic hctx) hrow ?_)).mono fun h out hclosed => ⟨now, hclosed⟩
    refine unfolds_silent_bind rfl hstart fun violation => ?_
    cases violation with
    | some violation => exact ⟨0, rfl⟩
    | none => exact handled_unfolds _ (hpanic hctx)
  · rintro h ⟨resp, err⟩ ⟨now, n, r, rfl⟩
    refine Trail.returned (entered_claims srv id hid now) {} r n _ err fun resp' hresp => ?_
    obtain ⟨r', -, rfl⟩ := Option.map_eq_some_iff.mp hresp
    rfl
  · rintro h e ⟨now, hserved⟩
    exact ⟨id, _, {}, entered_claims srv id hid now, hserved⟩

theorem serve_streaming (conn : StreamingHandlerConn) (handler : StreamingHandlerFunc H E) :
    ((RpcCall.streaming (M := M) (R := R) conn handler).serve srv).Unfolds serverEvents
      (UnderWay (R := R) srv conn.rpcMeta) (Finished srv conn.rpcMeta) [] := by
  -- Whatever the handler has done so far, the stream can still be brought to an end.
  have hpanic : ∀ {id ctx}, Entered srv conn.requestHeader id ctx → ∀ o n,
      UnderWay (R := R) srv conn.rpcMeta
        (opening srv id ctx conn.rpcMeta o ++ List.replicate n .served) :=
    fun hctx o n => underWay_panic (m := conn.rpcMeta) hctx o n List.prefix_rfl
  have hopened : ∀ {id ctx}, Entered srv conn.requestHeader id ctx → ∀ d,
      UnderWay (R := R) srv conn.rpcMeta
        [.header id, .line (openedLine srv ctx conn.spec.procedure d)] := by
    intro id ctx hctx d
    refine underWay_panic (m := conn.rpcMeta) hctx { lineDuration := d } 0 ?_
    exact (List.prefix_append [_, _] _).trans (List.prefix_append _ _)
  have hheader : ∀ id, (conn.requestHeader.xRequestId ≠ "" →
      id = conn.requestHeader.xRequestId) → UnderWay (R := R) srv conn.rpcMeta [.header id] := by
    intro id hid
    obtain ⟨full, out, htrail, hpre⟩ := hopened (entered_claims srv id hid 0) 0
    exact ⟨full, out, htrail, (List.prefix_append [_] [_]).trans hpre⟩
  refine recovery_streaming (withRequestID_bind ?_ fun id hid => ?_)
  · obtain ⟨full, out, htrail, -⟩ := hheader conn.requestHeader.xRequestId fun _ => rfl
    exact ⟨full, out, htrail, List.nil_prefix⟩
  refine Call.unfolds_perform_bind (hheader id hid) fun _ => ?_
  refine authenticate_bind (hheader id hid) fun now => ?_
  have hctx := entered_claims srv id hid now
  have hrow := fun o n err d r => underWay_row (R := R) (m := conn.rpcMeta) hctx o r n d err
  refine (slog_streaming (M := M) (R := R) (hheader id hid) (hopened hctx) hrow
    (fun o n err r => underWay_closing (m := conn.rpcMeta) hctx o r n err List.prefix_rfl)
    fun d => actionLog_streaming (hopened hctx d) (fun o => hpanic hctx { o with lineDuration := d })
      (fun o => hrow { o with lineDuration := d }) fun o => handled_unfolds _
        (hpanic hctx { o with lineDuration := d })).mono fun h out hclosed => ?_
  obtain ⟨o, hclosed⟩ := hclosed
  cases out with
  | error e => exact ⟨id, _, o, hctx, hclosed⟩
  | ok err =>
      obtain ⟨n, r, rfl⟩ := hclosed
      exact Trail.returned hctx o r n none err fun _ hresp => nomatch hresp

/-- Every call leaves a whole trail by the time it returns, and the beginning of one before. -/
theorem serve_unfolds (srv : RpcServer E) (call : RpcCall H M R E) : (call.serve srv).Unfolds serverEvents
    (UnderWay (R := R) srv call.rpcMeta) (Finished srv call.rpcMeta) [] := by
  cases call with
  | unary req handler => exact serve_unary req handler
  | streaming conn handler => exact serve_streaming conn handler

end Serve

/-! ## The log -/

/-- `workQueueMaxLength`. -/
def workQueueMaxLength : Nat := 1024

/-- The calls that are served, the logger's queue and worker, and the `ACTION_LOG` table. -/
structure AuditedServer (H : Type → Type 1) (M R E ι : Type) where
  calls : Chronicle (RpcOp H M E) (Except String (Option (AnyResponse R) × Option E)) ServerEvent ι
  work : Pipe AddActionLogParams := {}
  actionLog : List AddActionLogParams

/-- The rows among the events. -/
def ServerEvent.toRow : ServerEvent → Option AddActionLogParams
  | .row r => some r
  | _ => none

def rowsOf (events : List ServerEvent) : List AddActionLogParams :=
  events.filterMap ServerEvent.toRow

/-- A call's next operation, with the answer it is given; or a step of the worker, whose insert the
database may refuse. -/
inductive ServerStep (H : Type → Type 1) (M E ι : Type) : Type 1
  | turn (i : ι) (answer : ∀ β : Type, RpcOp H M E β → β)
  | take
  | writeRow (ok : Bool)

namespace AuditedServer

variable {H : Type → Type 1} {M R E ι : Type} [DecidableEq ι]

/-- `Logger.Log` of the rows among the events: nothing if the log is off. -/
def logRows (enabled : Bool) (work : Pipe AddActionLogParams) (rows : List AddActionLogParams) :
    Option (Pipe AddActionLogParams) :=
  if enabled then rows.foldlM (fun p row => p.send workQueueMaxLength row) work else some work

/-- What the next operation of `i` leaves. -/
def nextEvents (s : AuditedServer H M R E ι) (i : ι) : List ServerEvent :=
  match s.calls.procs i with
  | .ret _ => []
  | .op o _ => serverEvents _ o

def step (enabled : Bool) (s : AuditedServer H M R E ι) :
    ServerStep H M E ι → Option (AuditedServer H M R E ι)
  | .turn i answer =>
    (s.calls.turn serverEvents answer i).bind fun calls =>
      (logRows enabled s.work (rowsOf (s.nextEvents i))).map fun work => { s with calls, work }
  | .take => s.work.take.map fun work => { s with work }
  | .writeRow ok => (s.work.settle ok).map fun work =>
      { s with work, actionLog := s.actionLog ++ if ok then s.work.inHand.toList else [] }

/-- No call has begun, and the worker is idle. -/
def start (srv : RpcServer E) (calls : ι → RpcCall H M R E) (actionLog : List AddActionLogParams) :
    AuditedServer H M R E ι where
  calls := { procs := fun i => ((calls i).serve srv).prog }
  actionLog := actionLog

end AuditedServer

section System

variable {H : Type → Type 1} {M R E ι : Type} [DecidableEq ι] {srv : RpcServer E}
  {calls : ι → RpcCall H M R E} {enabled : Bool} {before : List AddActionLogParams}
  {s s' : AuditedServer H M R E ι}

/-- What the log is worth: each call leaves its own trail; a read leaves no row; and all rows, in the
order they were left, are in the table unless the database refused them, in the worker's hand, or in
the queue. -/
structure Accounted (srv : RpcServer E) (calls : ι → RpcCall H M R E) (enabled : Bool)
    (before : List AddActionLogParams) (s : AuditedServer H M R E ι) : Prop where
  finished : ∀ i out, s.calls.procs i = .ret out →
    Finished srv (calls i).rpcMeta (s.calls.of i) out
  underWay : ∀ i, UnderWay (R := R) srv (calls i).rpcMeta (s.calls.of i)
  reads : ∀ i, (calls i).rpcMeta.spec.idempotencyLevel = .noSideEffects →
    rowsOf (s.calls.of i) = []
  log : enabled = true →
    s.work.Ordered workQueueMaxLength (rowsOf (s.calls.history.map Prod.snd))
  off : enabled = false → s.work.kept = []
  table : s.actionLog = before ++ s.work.kept

theorem rowsOf_append (l l' : List ServerEvent) : rowsOf (l ++ l') = rowsOf l ++ rowsOf l' :=
  List.filterMap_append

theorem rowsOf_read {m : RpcMeta} {h : List ServerEvent}
    {out : Option (AnyResponse R) × Option E} (htrail : Trail srv m h out)
    (hread : m.spec.idempotencyLevel = .noSideEffects) : rowsOf h = [] := by
  have hserved : ∀ n, rowsOf (List.replicate n .served) = [] := fun n =>
    List.filterMap_eq_nil_iff.mpr fun e he => by rw [List.eq_of_mem_replicate he]; rfl
  have hopening : ∀ id ctx o, rowsOf (opening srv id ctx m o) = [] := by
    intro id ctx o
    rw [opening, rowOf_read hread]
    split <;> rfl
  cases htrail with
  | returned _ o c n =>
      rw [rowsOf_append, rowsOf_append, hopening, hserved, closing, rowOf_read hread]
      rfl
  | panicked _ o n =>
      rw [rowsOf_append, rowsOf_append, hopening, hserved]
      rfl

/-- What every step keeps. -/
structure LogInv (srv : RpcServer E) (calls : ι → RpcCall H M R E) (enabled : Bool)
    (before : List AddActionLogParams) (s : AuditedServer H M R E ι) : Prop where
  unfolding : s.calls.Unfolding serverEvents (fun i => UnderWay (R := R) srv (calls i).rpcMeta)
    fun i => Finished srv (calls i).rpcMeta
  log : enabled = true →
    s.work.Ordered workQueueMaxLength (rowsOf (s.calls.history.map Prod.snd))
  off : enabled = false → s.work = {}
  table : s.actionLog = before ++ s.work.kept

theorem logInv_start : LogInv srv calls enabled before (.start srv calls before) where
  unfolding i := by
    have hserve := serve_unfolds srv (calls i)
    refine ⟨?_, hserve⟩
    -- Before its first operation a call has left the beginning of the trail of a panic.
    have hctx := entered_claims srv (calls i).rpcMeta.header.xRequestId (fun _ => rfl) 0
    exact underWay_panic hctx {} 0 List.nil_prefix
  log _ := Pipe.ordered_empty
  off _ := rfl
  table := (List.append_nil before).symm

theorem LogInv.turn (h : LogInv srv calls enabled before s) {i : ι}
    {answer : ∀ β : Type, RpcOp H M E β → β} (hs : s.step enabled (.turn i answer) = some s') :
    LogInv srv calls enabled before s' := by
  obtain ⟨calls', hturn, hs⟩ := Option.bind_eq_some_iff.mp hs
  obtain ⟨work', hlog, rfl⟩ := Option.map_eq_some_iff.mp hs
  obtain ⟨β, o, k, hop, hhistory⟩ := Chronicle.turn_eq_some hturn
  have hnext : s.nextEvents i = serverEvents β o := by rw [AuditedServer.nextEvents, hop]
  have hrows : rowsOf (calls'.history.map Prod.snd) =
      rowsOf (s.calls.history.map Prod.snd) ++ rowsOf (s.nextEvents i) := by
    rw [hhistory, List.map_append, rowsOf_append, List.map_map, hnext]
    exact congrArg (_ ++ rowsOf ·) (List.map_id _)
  rw [AuditedServer.logRows] at hlog
  cases enabled with
  | true =>
      refine ⟨h.unfolding.turn hturn, fun _ => ?_, nofun, ?_⟩
      · rw [hrows]
        exact (h.log rfl).sendAll hlog
      · exact h.table.trans (congrArg _ (Pipe.kept_sendAll hlog).symm)
  | false =>
      cases hlog
      exact ⟨h.unfolding.turn hturn, nofun, h.off, h.table⟩

theorem LogInv.take (h : LogInv srv calls enabled before s)
    (hs : s.step enabled .take = some s') : LogInv srv calls enabled before s' := by
  obtain ⟨work', htake, rfl⟩ := Option.map_eq_some_iff.mp hs
  refine ⟨h.unfolding, fun hon => (h.log hon).take htake, fun hoff => ?_, ?_⟩
  · rw [h.off hoff] at htake
    cases htake
  · exact h.table.trans (congrArg _ (Pipe.kept_take htake).symm)

theorem LogInv.writeRow (h : LogInv srv calls enabled before s) {ok : Bool}
    (hs : s.step enabled (.writeRow ok) = some s') : LogInv srv calls enabled before s' := by
  obtain ⟨work', hsettle, rfl⟩ := Option.map_eq_some_iff.mp hs
  refine ⟨h.unfolding, fun hon => (h.log hon).settle hsettle, fun hoff => ?_, ?_⟩
  · rw [h.off hoff] at hsettle
    cases hsettle
  · obtain ⟨row, hhand, hkept⟩ := Pipe.kept_settle hsettle
    change s.actionLog ++ _ = before ++ work'.kept
    rw [hkept, hhand, h.table, List.append_assoc]
    cases ok <;> rfl

/-- **The audit trail.** Over every interleaving of the calls and the log's worker, whatever the
handlers do, the clock says or the database refuses. -/
theorem auditTrail_accounted (srv : RpcServer E) (calls : ι → RpcCall H M R E) (enabled : Bool)
    (before : List AddActionLogParams) {as : List (ServerStep H M E ι)}
    (hr : Run (AuditedServer.step enabled) (.start srv calls before) as s) :
    Accounted srv calls enabled before s := by
  have hinv : LogInv srv calls enabled before s := by
    refine hr.invariant (I := fun _ s => LogInv srv calls enabled before s) logInv_start ?_
    intro _ s a s' h hs
    cases a with
    | turn i answer => exact h.turn hs
    | take => exact h.take hs
    | writeRow ok => exact h.writeRow hs
  refine ⟨fun i out hret => ?_, fun i => (hinv.unfolding i).1, fun i hread => ?_, hinv.log,
    fun hoff => ?_, hinv.table⟩
  · have hx := (hinv.unfolding i).2
    rw [hret] at hx
    exact hx
  · obtain ⟨full, out, htrail, rest, rfl⟩ := (hinv.unfolding i).1
    have hnone := rowsOf_read htrail hread
    rw [rowsOf_append] at hnone
    exact (List.append_eq_nil_iff.mp hnone).1
  · rw [hinv.off hoff]
    rfl

end System

/-! A call that is refused, one whose handler panics, and one that succeeds. -/

/-- A handler that does one thing. -/
inductive OneThing : Type → Type 1
  | act : OneThing Unit

def quietServer : RpcServer (Nat × String) where
  jwt := ⟨fun _ _ => .error "", fun _ _ _ => .error ""⟩
  jwtSecret := ""
  newError code text := (code, text)
  errorCode := Prod.fst
  errorText err := err.2
  errorCause _ := none

def detachReport : AnyRequest Unit where
  spec := ⟨"DetachReport", .unknown⟩
  httpMethod := methodPost
  peerAddr := "10.0.0.9"
  header := { xRequestId := "a" }
  message := ()

inductive ThreeCalls
  | refused
  | panicked
  | answered
  deriving DecidableEq, Repr

def threeCalls : ThreeCalls → RpcCall OneThing Unit Unit (Nat × String)
  | .refused => .unary detachReport fun _ _ => pure (none, some (7, "denied"))
  | .panicked => .unary detachReport fun _ _ => do
    Call.perform .act
    throw "nil map"
  | .answered => .unary detachReport fun _ _ => pure (some { message := () }, none)

def answerNothing : ∀ β : Type, RpcOp OneThing Unit (Nat × String) β → β
  | _, .serve .act => ()
  | _, .validate _ => none
  | _, .now => 0
  | _, .text => ""
  | _, .positions => none
  | _, .setResponseHeader _ => ()
  | _, .slog _ => ()
  | _, .log _ => ()

def threeCallsSteps : List (ServerStep OneThing Unit (Nat × String) ThreeCalls) :=
  List.flatten [List.replicate 4 (.turn .panicked answerNothing),
    List.replicate 7 (.turn .refused answerNothing),
    [.take, .turn .panicked answerNothing, .turn .panicked answerNothing, .writeRow true,
      .turn .refused answerNothing, .turn .refused answerNothing],
    List.replicate 7 (.turn .answered answerNothing), [.take, .writeRow true]]

def threeCallsEnd : Option (AuditedServer OneThing Unit Unit (Nat × String) ThreeCalls) :=
  RunLib.exec (AuditedServer.step true) (.start quietServer threeCalls []) threeCallsSteps

/-- The refusal and the success are in the table; of the panic there is only the line. -/
theorem auditTrail_accounted_refused : ∃ s : AuditedServer OneThing Unit Unit (Nat × String) ThreeCalls,
    Run (AuditedServer.step true) (.start quietServer threeCalls []) threeCallsSteps s ∧
    s.actionLog.map (·.httpStatus) = [some 7, some codeUnknown] ∧
    rowsOf (s.calls.of .panicked) = [] ∧ Accounted quietServer threeCalls true [] s := by
  have hend : threeCallsEnd.isSome = true := rfl
  have hrun : Run (AuditedServer.step true) (.start quietServer threeCalls []) threeCallsSteps
      (threeCallsEnd.get hend) := run_of_exec (Option.some_get hend).symm
  exact ⟨_, hrun, rfl, rfl, auditTrail_accounted quietServer threeCalls true [] hrun⟩

end OcfIms.AuditTrail
