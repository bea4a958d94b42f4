import OcfIms.ClientTransport
import OcfIms.WatchDelivery

/-!
# One stream of the watch hub

`watchstream.go`: `Stream` serves one subscriber. It runs beside everybody else who uses the hub: an
action of the system is the stream's next statement, or an action of the hub by another goroutine.
What the stream waits for and what it is told, the clock, the two answers of the policy, the result of
a write and which case of its `select` is taken, are parameters of its actions.

Every poke that is written has just been taken off the session's queue, found to come before the
token's expiry, and let through by the visibility rule. Whichever way the stream returns, its session
is out of the hub and stays out, and nothing more is written.
-/

namespace OcfIms

open RunLib

/-- What a stream returns with, if not because the client went away. -/
structure StreamError where
  code : Code
  message : String
  deriving DecidableEq, Repr

/-- The caller's claims, as far as the stream reads them. -/
structure StreamClaims where
  expiresAt : Option Int
  deriving DecidableEq, Repr

/-- A call of `WatchEvent`: the claims of its token, if it has one, and the events it asks for. -/
structure StreamCall where
  claims : Option StreamClaims
  eventIDs : List Int
  deriving DecidableEq, Repr

def unauthenticatedStream : StreamError := ⟨.unauthenticated, "authentication required"⟩

/-- `expired`: the token that the stream was opened with has run out. -/
def expired (claims : StreamClaims) (now : Int) : Option StreamError :=
  match claims.expiresAt with
  | none => none
  | some expiresAt =>
    if now < expiresAt then none
    else some ⟨.unauthenticated, "the access token expired; refresh and reconnect"⟩

/-- The error of `Reason`. -/
def EndReason.error : EndReason → StreamError
  | .errFellBehind => ⟨.resourceExhausted, "the stream fell behind; reconnect"⟩
  | .errShuttingDown => ⟨.unavailable, "the server is shutting down; reconnect"⟩

/-- Where the stream stands; a result is what it is about to return. -/
inductive StreamPoint
  | start
  | checkToken (claims : StreamClaims)
  | gate (claims : StreamClaims) (rest : List Int)
  | firstBeat (claims : StreamClaims)
  | select (claims : StreamClaims)
  /-- a poke has been taken off the queue -/
  | taken (claims : StreamClaims) (poke : Poke)
  | asking (claims : StreamClaims) (poke : Poke)
  | sending (claims : StreamClaims) (poke : Poke)
  | ticked (claims : StreamClaims)
  | beating (claims : StreamClaims)
  /-- the deferred `Close` of the session -/
  | closing (result : Option StreamError)
  /-- `Close` has taken the session out of the map and holds the mutex -/
  | unlocking (result : Option StreamError)
  | returned (result : Option StreamError)
  deriving DecidableEq, Repr

inductive StreamAction
  /-- somebody else's, or the next statement of the goroutine that holds the hub's mutex -/
  | hub (a : HubAction)
  | authenticate
  | checkExpired (now : Int)
  /-- `MayWatch`, for the next event -/
  | mayWatch (eventID : Int) (refusal : Option StreamError)
  | subscribe
  | sendHeartbeat (failure : Option StreamError)
  /-- the cases of the `select` -/
  | done
  | receive (poke : Poke)
  | receiveClosed
  | tick
  /-- the visibility rule answers, or fails -/
  | visible (poke : Poke) (answer : Except String Bool)
  | sendPoke (poke : Poke) (failure : Option StreamError)
  | close
  deriving DecidableEq, Repr

/-- The stream's own statement. -/
def StreamAction.own : StreamAction → Bool
  | .hub _ => false
  | _ => true

structure StreamState where
  hub : WatchHub := newWatchHub
  point : StreamPoint := .start
  /-- the stream's session, once it has subscribed -/
  session : Option Nat := none
  deriving DecidableEq, Repr

namespace StreamState

variable (call : StreamCall) (st : StreamState)

def goTo (point : StreamPoint) : StreamState := { st with point }

/-- What another goroutine does with the hub; the stream's session is its own to read and to close.
The stream's `Close` is over when the mutex is free again. -/
def others (a : HubAction) : Option StreamState :=
  if ∃ s, st.session = some s ∧ (a = .drain s ∨ a = .closeSession s) then none
  else
    (st.hub.step a).map fun hub =>
      match st.point with
      | .unlocking result =>
        if hub.mu = none then { st with hub, point := .returned result } else { st with hub }
      | _ => { st with hub }

/-- A step of the stream itself. -/
def stream : StreamPoint → StreamAction → Option StreamState
  | .start, .authenticate =>
    match call.claims with
    | none => some (st.goTo (.returned unauthenticatedStream))
    | some claims => some (st.goTo (.checkToken claims))
  | .checkToken claims, .checkExpired now =>
    match expired claims now with
    | some e => some (st.goTo (.returned e))
    | none => some (st.goTo (.gate claims call.eventIDs))
  | .gate claims (eventID :: rest), .mayWatch eventID' refusal =>
    if eventID' = eventID then
      match refusal with
      | some e => some (st.goTo (.returned e))
      | none => some (st.goTo (.gate claims rest))
    else none
  | .gate claims [], .subscribe =>
    (st.hub.step (.subscribe call.eventIDs)).map fun hub =>
      { hub, point := .firstBeat claims, session := some st.hub.sessions.length }
  | .firstBeat claims, .sendHeartbeat failure | .beating claims, .sendHeartbeat failure =>
    match failure with
    | some e => some (st.goTo (.closing e))
    | none => some (st.goTo (.select claims))
  | .select _, .done => some (st.goTo (.closing none))
  | .select claims, .receive poke =>
    match st.session with
    | none => none
    | some s =>
      if (st.hub.sessions[s]?).bind (·.pokes.head?) = some poke then
        (st.hub.step (.drain s)).map fun hub => { st with hub, point := .taken claims poke }
      else none
  | .select _, .receiveClosed =>
    match st.session.bind (st.hub.sessions[·]?) with
    | none => none
    | some x =>
      if x.pokes = [] ∧ x.isOpen = false then
        some (st.goTo (.closing (x.reason.map EndReason.error)))
      else none
  | .select claims, .tick => some (st.goTo (.ticked claims))
  | .taken claims poke, .checkExpired now =>
    match expired claims now with
    | some e => some (st.goTo (.closing e))
    | none => some (st.goTo (.asking claims poke))
  | .asking claims poke, .visible poke' answer =>
    if poke' = poke then
      match answer with
      | .ok true => some (st.goTo (.sending claims poke))
      | _ => some (st.goTo (.select claims))
    else none
  | .sending claims poke, .sendPoke poke' failure =>
    if poke' = poke then
      match failure with
      | some e => some (st.goTo (.closing e))
      | none => some (st.goTo (.select claims))
    else none
  | .ticked claims, .checkExpired now =>
    match expired claims now with
    | some e => some (st.goTo (.closing e))
    | none => some (st.goTo (.beating claims))
  | .closing result, .close =>
    match st.session with
    | none => none
    | some s =>
      (st.hub.step (.closeSession s)).map fun hub =>
        if s ∈ st.hub.subs then { st with hub, point := .unlocking result }
        else { st with hub, point := .returned result }
  | _, _ => none

/-- One step of the system. -/
def step : StreamAction → Option StreamState
  | .hub a => st.others a
  | a => st.stream call st.point a

end StreamState

/-- The stream's own statements of a run. -/
def ownSteps (as : List StreamAction) : List StreamAction := as.filter StreamAction.own

/-- A stream is safe. -/
structure StreamSafe (call : StreamCall) (as : List StreamAction) (st : StreamState) : Prop where
  /-- A poke is written right after it was taken off the queue, checked against a token that had not
  expired, and let through by the visibility rule. -/
  written : ∀ before poke failure after, as = before ++ .sendPoke poke failure :: after →
    ∃ earlier now claims, call.claims = some claims ∧ expired claims now = none ∧
      ownSteps before =
        earlier ++ [.receive poke, .checkExpired now, .visible poke (.ok true)]
  /-- A call that is refused for one of its events, or whose token has expired when it begins, has
  not subscribed. -/
  refused : ∀ eventID e, .mayWatch eventID (some e) ∈ as → st.session = none
  expired : ∀ claims now rest, call.claims = some claims → expired claims now ≠ none →
    ownSteps as = .authenticate :: .checkExpired now :: rest → st.session = none
  /-- Once it has returned its session is not in the hub, whatever happens next, and it writes no
  more. -/
  returned : ∀ result, st.point = .returned result → ∀ bs st', Run (StreamState.step call) st bs st' →
    (∀ s, st'.session = some s → s ∉ st'.hub.subs) ∧ ownSteps bs = []

/-! ## The hub under a stream -/

section Hub

variable {h h' : WatchHub}

theorem subs_endSession (s : Nat) (reason : Option EndReason) :
    (h.endSession s reason).subs = h.subs ∧
      (h.endSession s reason).sessions.length = h.sessions.length := by
  unfold WatchHub.endSession
  split
  · exact ⟨rfl, rfl⟩
  · split
    · exact ⟨rfl, rfl⟩
    · dsimp only
      split <;> exact ⟨rfl, List.length_modify ..⟩

theorem subs_offer (poke : Poke) (s : Nat) (rest : List Nat) :
    (∀ t ∈ (h.offer poke s rest).subs, t ∈ h.subs) ∧
      (h.offer poke s rest).sessions.length = h.sessions.length := by
  unfold WatchHub.offer
  split
  · exact ⟨fun _ ht => ht, rfl⟩
  · split
    · exact ⟨fun _ ht => ht, rfl⟩
    · split
      · exact ⟨fun _ ht => ht, rfl⟩
      · split
        · exact ⟨fun _ ht => ht, List.length_modify ..⟩
        · exact ⟨fun _ ht => List.mem_of_mem_erase ht, rfl⟩

theorem subs_proceed (c : Critical) : (∀ t ∈ (h.proceed c).subs, t ∈ h.subs) ∧
    (h.proceed c).sessions.length = h.sessions.length := by
  match c with
  | ⟨_, _, some (s, reason)⟩ =>
      obtain ⟨hsubs, hlength⟩ := subs_endSession (h := h) s reason
      exact ⟨fun t ht => hsubs ▸ ht, hlength⟩
  | ⟨some poke, s :: rest, none⟩ => exact subs_offer poke s rest
  | ⟨none, s :: rest, none⟩ => exact ⟨fun _ ht => List.mem_of_mem_erase ht, rfl⟩
  | ⟨some _, [], none⟩ => exact ⟨fun _ ht => ht, rfl⟩
  | ⟨none, [], none⟩ => exact ⟨fun _ ht => ht, rfl⟩

/-- Only `Subscribe` adds to the map, and it adds a session that is new. -/
theorem subs_of_step {a : HubAction} (hs : h.step a = some h') :
    (∀ s ∈ h'.subs, s ∈ h.subs ∨ s = h.sessions.length) ∧
      h.sessions.length ≤ h'.sessions.length := by
  cases a <;> simp only [WatchHub.step] at hs
  case subscribe events =>
    split at hs <;> cases hs
    refine ⟨fun s hmem => ?_, ?_⟩
    · exact (List.mem_append.mp hmem).imp_right List.mem_singleton.mp
    · rw [List.length_append]
      exact Nat.le_add_right _ _
  case publish poke order =>
    split at hs
    · cases hs
      exact ⟨fun _ ht => Or.inl ht, Nat.le_refl _⟩
    · split at hs <;> cases hs
      exact ⟨fun _ ht => Or.inl ht, Nat.le_refl _⟩
  case close order =>
    split at hs <;> cases hs
    exact ⟨fun _ ht => Or.inl ht, Nat.le_refl _⟩
  case closeSession s =>
    split at hs
    · cases hs
    · split at hs <;> cases hs
      · exact ⟨fun _ ht => Or.inl (List.mem_of_mem_erase ht), Nat.le_refl _⟩
      · exact ⟨fun _ ht => Or.inl ht, Nat.le_refl _⟩
  case proceed =>
    obtain ⟨c, -, rfl⟩ := Option.map_eq_some_iff.mp hs
    obtain ⟨hsubs, hlength⟩ := subs_proceed (h := h) c
    exact ⟨fun t ht => Or.inl (hsubs t ht), Nat.le_of_eq hlength.symm⟩
  case drain s =>
    unfold WatchHub.drain at hs
    split at hs
    · cases hs
    · split at hs
      · cases hs
        exact ⟨fun _ ht => Or.inl ht, Nat.le_of_eq (List.length_modify ..).symm⟩
      · split at hs <;> cases hs
        exact ⟨fun _ ht => Or.inl ht, Nat.le_refl _⟩

/-- A session that `Close` finds in the map, it takes out. -/
theorem not_mem_subs_closeSession {s : Nat} (hnodup : h.subs.Nodup)
    (hs : h.step (.closeSession s) = some h') : s ∉ h'.subs := by
  simp only [WatchHub.step] at hs
  split at hs
  · cases hs
  · split at hs
    · cases hs
      exact fun hmem => hnodup.not_mem_erase hmem
    · rename_i hnot
      cases hs
      exact hnot

end Hub

/-! ## The invariant -/

/-- The stream has not subscribed. -/
def StreamPoint.unsubscribed : StreamPoint → Bool
  | .start | .checkToken _ | .gate _ _ => true
  | _ => false

/-- The stream's session is out of the map. -/
def StreamPoint.away : StreamPoint → Bool
  | .unlocking _ | .returned _ => true
  | _ => false

/-- The claims that the stream has read. -/
def StreamPoint.claims? : StreamPoint → Option StreamClaims
  | .checkToken claims | .gate claims _ | .firstBeat claims | .select claims | .taken claims _
  | .asking claims _ | .sending claims _ | .ticked claims | .beating claims => some claims
  | _ => none

/-- What the stream has just done. -/
def JustDone (call : StreamCall) (own : List StreamAction) : StreamPoint → Prop
  | .start => own = []
  | .checkToken _ => own = [.authenticate]
  | .gate claims _ => ∃ now tail, own = .authenticate :: .checkExpired now :: tail ∧
      call.claims = some claims ∧ expired claims now = none
  | .taken _ poke => ∃ earlier, own = earlier ++ [.receive poke]
  | .asking claims poke => ∃ earlier now, own = earlier ++ [.receive poke, .checkExpired now] ∧
      expired claims now = none
  | .sending claims poke => ∃ earlier now,
      own = earlier ++ [.receive poke, .checkExpired now, .visible poke (.ok true)] ∧
      expired claims now = none
  | _ => True

/-- Pokes are written as they should be. -/
def WrittenChecked (call : StreamCall) (as : List StreamAction) : Prop :=
  ∀ before poke failure after, as = before ++ .sendPoke poke failure :: after →
    ∃ earlier now claims, call.claims = some claims ∧ expired claims now = none ∧
      ownSteps before = earlier ++ [.receive poke, .checkExpired now, .visible poke (.ok true)]

structure StreamInv (call : StreamCall) (as : List StreamAction) (st : StreamState) : Prop where
  hub : ∃ hs, Run WatchHub.step newWatchHub hs st.hub
  known : ∀ s, st.session = some s → s < st.hub.sessions.length
  fresh : st.point.unsubscribed = true → st.session = none
  away : st.point.away = true → ∀ s, st.session = some s → s ∉ st.hub.subs
  claims : ∀ claims, st.point.claims? = some claims → call.claims = some claims
  done : JustDone call (ownSteps as) st.point
  token : st.session ≠ none → ∃ claims now tail, call.claims = some claims ∧
    expired claims now = none ∧ ownSteps as = .authenticate :: .checkExpired now :: tail
  refused : ∀ eventID e, .mayWatch eventID (some e) ∈ as →
    st.session = none ∧ ∃ result, st.point = .returned result
  written : WrittenChecked call as

section Invariant

variable {call : StreamCall} {as : List StreamAction} {st st' : StreamState}

theorem ownSteps_append (as bs : List StreamAction) :
    ownSteps (as ++ bs) = ownSteps as ++ ownSteps bs := List.filter_append as bs

/-- The last action of a list, or one before it. -/
theorem append_singleton_eq_append_cons {α : Type} {as before after : List α} {a x : α}
    (h : as ++ [a] = before ++ x :: after) :
    as = before ∧ a = x ∨ ∃ after', as = before ++ x :: after' := by
  rcases List.eq_nil_or_concat after with rfl | ⟨after', y, rfl⟩
  · obtain ⟨has, ha⟩ := List.append_inj' h rfl
    exact Or.inl ⟨has, List.singleton_inj.mp ha⟩
  · rw [List.concat_eq_append, ← List.cons_append, ← List.append_assoc] at h
    exact Or.inr ⟨after', (List.append_inj' h rfl).1⟩

theorem WrittenChecked.append (h : WrittenChecked call as) {a : StreamAction}
    (ha : ∀ poke failure, a = .sendPoke poke failure →
      ∃ earlier now claims, call.claims = some claims ∧ expired claims now = none ∧
        ownSteps as = earlier ++ [.receive poke, .checkExpired now, .visible poke (.ok true)]) :
    WrittenChecked call (as ++ [a]) := by
  intro before poke failure after hsplit
  rcases append_singleton_eq_append_cons hsplit with ⟨rfl, rfl⟩ | ⟨after', rfl⟩
  · exact ha poke failure rfl
  · exact h before poke failure after' rfl

/-- Somebody else's action. -/
theorem StreamInv.others (h : StreamInv call as st) {a : HubAction} (hs : st.others a = some st') :
    StreamInv call (as ++ [.hub a]) st' := by
  have hown : ownSteps (as ++ [.hub a]) = ownSteps as := by
    rw [ownSteps_append]
    exact List.append_nil _
  unfold StreamState.others at hs
  split at hs
  · cases hs
  · obtain ⟨hub, hhub, rfl⟩ := Option.map_eq_some_iff.mp hs
    obtain ⟨hs', hrun⟩ := h.hub
    obtain ⟨hsubs, hlength⟩ := subs_of_step hhub
    have hout : ∀ s, st.session = some s → s ∉ st.hub.subs → s ∉ hub.subs := by
      intro s hsession hnot hmem
      rcases hsubs s hmem with hold | hnew
      · exact hnot hold
      · exact absurd (h.known s hsession) (by omega)
    have hkeep : StreamInv call (as ++ [.hub a]) { st with hub } := by
      refine ⟨⟨_, hrun.next hhub⟩, fun s hsession => ?_, h.fresh, fun haway s hsession => ?_, h.claims,
        ?_, ?_, ?_, h.written.append nofun⟩
      · exact Nat.lt_of_lt_of_le (h.known s hsession) hlength
      · exact hout s hsession (h.away haway s hsession)
      · rw [hown]
        exact h.done
      · rw [hown]
        exact h.token
      · intro eventID e hmem
        rcases List.mem_append.mp hmem with hmem | hmem
        · exact h.refused eventID e hmem
        · cases List.mem_singleton.mp hmem
    split
    · rename_i result hpoint
      split
      · refine ⟨hkeep.hub, hkeep.known, nofun, fun _ => hkeep.away ?_, nofun, trivial, hkeep.token,
          fun eventID e hmem => ?_, hkeep.written⟩
        · change st.point.away = true
          rw [hpoint]
          rfl
        · exact ⟨(hkeep.refused eventID e hmem).1, result, rfl⟩
      · exact hkeep
    · exact hkeep

theorem ownSteps_snoc {a : StreamAction} (ha : a.own = true) (as : List StreamAction) :
    ownSteps (as ++ [a]) = ownSteps as ++ [a] := by
  have hone : ownSteps [a] = [a] := by simp [ownSteps, ha]
  rw [ownSteps_append, hone]

/-- A refusal ends the call, so before the stream has returned there was none. -/
theorem StreamInv.not_refused (h : StreamInv call as st)
    (hgoing : ∀ result, st.point ≠ .returned result) {eventID : Int} {e : StreamError} (hmem : .mayWatch eventID (some e) ∈ as) : False := by
  obtain ⟨-, result, hpoint⟩ := h.refused eventID e hmem
  exact hgoing result hpoint

theorem StreamInv.token_snoc (h : StreamInv call as st) {a : StreamAction} (ha : a.own = true)
    (hsession : st.session ≠ none) : ∃ claims now tail, call.claims = some claims ∧
      expired claims now = none ∧
        ownSteps (as ++ [a]) = .authenticate :: .checkExpired now :: tail := by
  obtain ⟨claims, now, tail, hclaims, hvalid, hown⟩ := h.token hsession
  refine ⟨claims, now, tail ++ [a], hclaims, hvalid, ?_⟩
  rw [ownSteps_snoc ha, hown]
  rfl

/-- A statement of the stream that does not touch the hub. -/
theorem StreamInv.goTo (h : StreamInv call as st) (hgoing : ∀ result, st.point ≠ .returned result)
    {a : StreamAction} (ha : a.own = true) {point : StreamPoint}
    (hfresh : point.unsubscribed = true → st.session = none)
    (haway : point.away = true → st.session = none)
    (hclaims : ∀ claims, point.claims? = some claims → call.claims = some claims)
    (hdone : JustDone call (ownSteps as ++ [a]) point)
    (hrefusal : ∀ eventID e, a = .mayWatch eventID (some e) →
      st.session = none ∧ ∃ result, point = .returned result)
    (hsend : ∀ poke failure, a = .sendPoke poke failure →
      ∃ earlier now claims, call.claims = some claims ∧ expired claims now = none ∧
        ownSteps as = earlier ++ [.receive poke, .checkExpired now, .visible poke (.ok true)]) :
    StreamInv call (as ++ [a]) (st.goTo point) := by
  refine ⟨h.hub, h.known, hfresh, fun hout s hsession => ?_, hclaims, ?_, h.token_snoc ha,
    fun eventID e hmem => ?_, h.written.append hsend⟩
  · have hnone : st.session = none := haway hout
    have hsome : st.session = some s := hsession
    rw [hnone] at hsome
    cases hsome
  · rw [ownSteps_snoc ha]
    exact hdone
  · rcases List.mem_append.mp hmem with hmem | hmem
    · exact absurd (h.not_refused hgoing hmem) id
    · exact hrefusal eventID e (List.mem_singleton.mp hmem).symm

/-- Neither a refusal of `MayWatch` nor the write of a poke. -/
def StreamAction.plain : StreamAction → Bool
  | .mayWatch _ (some _) => false
  | .sendPoke _ _ => false
  | _ => true

theorem StreamAction.ne_refusal {a : StreamAction} (ha : a.plain = true) (eventID : Int)
    (e : StreamError) : a ≠ .mayWatch eventID (some e) := by
  rintro rfl
  cases ha

theorem StreamAction.ne_sendPoke {a : StreamAction} (ha : a.plain = true) (poke : Poke)
    (failure : Option StreamError) : a ≠ .sendPoke poke failure := by
  rintro rfl
  cases ha

/-- The same of a statement that neither refuses nor writes a poke. -/
theorem StreamInv.goOn (h : StreamInv call as st) (hgoing : ∀ result, st.point ≠ .returned result)
    {a : StreamAction} (ha : a.own = true) (hplain : a.plain = true) {point : StreamPoint}
    (hfresh : point.unsubscribed = true → st.session = none)
    (haway : point.away = true → st.session = none)
    (hclaims : ∀ claims, point.claims? = some claims → call.claims = some claims)
    (hdone : JustDone call (ownSteps as ++ [a]) point) :
    StreamInv call (as ++ [a]) (st.goTo point) :=
  h.goTo hgoing ha hfresh haway hclaims hdone
    (fun eventID e hsame => absurd hsame (StreamAction.ne_refusal hplain eventID e))
    (fun poke failure hsame => absurd hsame (StreamAction.ne_sendPoke hplain poke failure))

/-- A statement of the stream under which the hub takes a step. -/
theorem StreamInv.withHub (h : StreamInv call as st)
    (hgoing : ∀ result, st.point ≠ .returned result) {a : StreamAction} (ha : a.own = true)
    (hplain : a.plain = true) {b : HubAction} {hub : WatchHub} (hhub : st.hub.step b = some hub) {point : StreamPoint}
    (hsub : point.unsubscribed = false)
    (haway : point.away = true → ∀ s, st.session = some s → s ∉ hub.subs)
    (hclaims : ∀ claims, point.claims? = some claims → call.claims = some claims)
    (hdone : JustDone call (ownSteps as ++ [a]) point) :
    StreamInv call (as ++ [a]) { st with hub, point } := by
  obtain ⟨hs', hrun⟩ := h.hub
  refine ⟨⟨_, hrun.next hhub⟩, fun s hsession => ?_, fun hfresh => ?_, haway, hclaims, ?_,
    h.token_snoc ha, fun eventID e hmem => ?_, h.written.append fun poke failure hpoke => ?_⟩
  · exact Nat.lt_of_lt_of_le (h.known s hsession) (subs_of_step hhub).2
  · rw [hsub] at hfresh
    cases hfresh
  · rw [ownSteps_snoc ha]
    exact hdone
  · rcases List.mem_append.mp hmem with hmem | hmem
    · exact absurd (h.not_refused hgoing hmem) id
    · exact absurd (List.mem_singleton.mp hmem).symm (StreamAction.ne_refusal hplain eventID e)
  · exact absurd hpoke (StreamAction.ne_sendPoke hplain poke failure)

/-- The stream subscribes: what is true of it from now on has just been checked. -/
theorem StreamInv.subscribe (h : StreamInv call as st) {claims : StreamClaims}
    (hpoint : st.point = .gate claims []) {hub : WatchHub}
    (hhub : st.hub.step (.subscribe call.eventIDs) = some hub) :
    StreamInv call (as ++ [.subscribe])
      { hub, point := .firstBeat claims, session := some st.hub.sessions.length } := by
  obtain ⟨hs', hrun⟩ := h.hub
  have hgoing : ∀ result, st.point ≠ .returned result := by
    rw [hpoint]
    nofun
  have hgate := h.done
  rw [hpoint] at hgate
  obtain ⟨now, tail, hown, hclaims, hvalid⟩ := hgate
  have hnew : st.hub.sessions.length < hub.sessions.length := by
    dsimp only [WatchHub.step] at hhub
    split at hhub <;> cases hhub
    simp
  refine ⟨⟨_, hrun.next hhub⟩, ?_, nofun, nofun, ?_, trivial, fun _ => ?_, fun eventID e hmem => ?_,
    h.written.append nofun⟩
  · intro s hsession
    cases hsession
    exact hnew
  · intro claims' hread
    cases hread
    exact hclaims
  · refine ⟨claims, now, tail ++ [.subscribe], hclaims, hvalid, ?_⟩
    rw [ownSteps_snoc rfl, hown]
    rfl
  · rcases List.mem_append.mp hmem with hmem | hmem
    · exact absurd (h.not_refused hgoing hmem) id
    · cases List.mem_singleton.mp hmem

theorem StreamInv.receive (h : StreamInv call as st) {claims : StreamClaims}
    (hpoint : st.point = .select claims) {poke : Poke} {s : Nat} {hub : WatchHub}
    (hhub : st.hub.step (.drain s) = some hub) :
    StreamInv call (as ++ [.receive poke]) { st with hub, point := .taken claims poke } := by
  have hread : call.claims = some claims := h.claims claims (by rw [hpoint]; rfl)
  have hgoing : ∀ result, st.point ≠ .returned result := by
    rw [hpoint]
    nofun
  refine h.withHub (a := StreamAction.receive poke) hgoing rfl rfl hhub rfl nofun ?_ ⟨ownSteps as, rfl⟩
  intro claims' hread'
  cases hread'
  exact hread

/-- `Close`: the session is out of the map. -/
theorem StreamInv.close (h : StreamInv call as st) {result : Option StreamError}
    (hpoint : st.point = .closing result) {s : Nat} (hsession : st.session = some s)
    {hub : WatchHub} (hhub : st.hub.step (.closeSession s) = some hub) {point : StreamPoint}
    (haway : point.away = true) (hclaims : point.claims? = none) :
    StreamInv call (as ++ [.close]) { st with hub, point } := by
  obtain ⟨hs', hrun⟩ := h.hub
  have hgoing : ∀ result, st.point ≠ .returned result := by
    rw [hpoint]
    nofun
  have hout : ∀ s', st.session = some s' → s' ∉ hub.subs := by
    intro s' hsession'
    obtain rfl : s = s' := Option.some.inj (hsession.symm.trans hsession')
    exact not_mem_subs_closeSession (sound_of_run hrun).nodup hhub
  refine h.withHub (a := .close) hgoing rfl rfl hhub ?_ (fun _ => hout) ?_ ?_
  · cases point <;> first | rfl | cases haway
  · intro claims hread
    rw [hclaims] at hread
    cases hread
  · cases point <;> trivial

/-- The stream's own statement. -/
theorem StreamInv.stream (h : StreamInv call as st) {a : StreamAction}
    (hs : st.stream call st.point a = some st') : StreamInv call (as ++ [a]) st' := by
  have hfresh := h.fresh
  have hread := h.claims
  have hdone := h.done
  unfold StreamState.stream at hs
  split at hs
  all_goals
    rename_i hpoint
    try
      have hgoing : ∀ result, st.point ≠ .returned result := by
        rw [hpoint]
        nofun
      rw [hpoint] at hfresh hread hdone
  -- start
  · have hnone : st.session = none := hfresh rfl
    have hown : ownSteps as = [] := hdone
    split at hs <;> cases hs
    · exact h.goOn hgoing rfl rfl (fun _ => hnone) (fun _ => hnone) nofun trivial
    · rename_i claims hclaims
      refine h.goOn hgoing rfl rfl (fun _ => hnone) nofun (fun claims' hread => ?_) ?_
      · cases hread
        exact hclaims
      · rw [hown]
        rfl
  -- checkToken
  · have hnone : st.session = none := hfresh rfl
    have hown : ownSteps as = [.authenticate] := hdone
    split at hs
    · cases hs
      exact h.goOn hgoing rfl rfl (fun _ => hnone) (fun _ => hnone) nofun trivial
    · rename_i hvalid
      cases hs
      refine h.goOn hgoing rfl rfl (fun _ => hnone) nofun hread ⟨_, [], ?_, hread _ rfl, hvalid⟩
      rw [hown]
      rfl
  -- gate, MayWatch
  · rename_i claims eventID rest eventID' refusal
    have hnone : st.session = none := hfresh rfl
    obtain ⟨now, tail, hown, hclaims, hvalid⟩ := hdone
    split at hs
    · split at hs <;> cases hs
      · refine h.goTo hgoing rfl (fun _ => hnone) (fun _ => hnone) nofun trivial ?_ nofun
        exact fun _ _ _ => ⟨hnone, _, rfl⟩
      · refine h.goOn hgoing rfl rfl (fun _ => hnone) nofun hread
          ⟨now, tail ++ [.mayWatch eventID' none], ?_, hclaims, hvalid⟩
        rw [hown]
        rfl
    · cases hs
  -- gate, subscribe
  · obtain ⟨hub, hhub, rfl⟩ := Option.map_eq_some_iff.mp hs
    exact h.subscribe hpoint hhub
  -- the first heartbeat and the later ones
  iterate 2
    · split at hs <;> cases hs
      · exact h.goOn hgoing rfl rfl nofun nofun nofun trivial
      · exact h.goOn hgoing rfl rfl nofun nofun hread trivial
  -- select
  · cases hs
    exact h.goOn hgoing rfl rfl nofun nofun nofun trivial
  · split at hs
    · cases hs
    · split at hs
      · obtain ⟨hub, hhub, rfl⟩ := Option.map_eq_some_iff.mp hs
        exact h.receive hpoint hhub
      · cases hs
  · split at hs
    · cases hs
    · split at hs <;> cases hs
      exact h.goOn hgoing rfl rfl nofun nofun nofun trivial
  · cases hs
    exact h.goOn hgoing rfl rfl nofun nofun hread trivial
  -- taken
  · obtain ⟨earlier, hown⟩ := hdone
    split at hs
    · cases hs
      exact h.goOn hgoing rfl rfl nofun nofun nofun trivial
    · rename_i hvalid
      cases hs
      refine h.goOn hgoing rfl rfl nofun nofun hread ⟨earlier, _, ?_, hvalid⟩
      rw [hown, List.append_assoc]
      rfl
  -- asking
  · obtain ⟨earlier, now, hown, hvalid⟩ := hdone
    split at hs
    · rename_i hpoke
      subst hpoke
      split at hs <;> cases hs
      · refine h.goOn hgoing rfl rfl nofun nofun hread ⟨earlier, now, ?_, hvalid⟩
        rw [hown, List.append_assoc]
        rfl
      · exact h.goOn hgoing rfl rfl nofun nofun hread trivial
    · cases hs
  -- sending
  · rename_i claims poke poke' failure
    obtain ⟨earlier, now, hown, hvalid⟩ := hdone
    split at hs
    · rename_i hpoke
      subst hpoke
      have hsend : ∀ sent failure', StreamAction.sendPoke poke' failure = .sendPoke sent failure' →
          ∃ earlier now claims, call.claims = some claims ∧ expired claims now = none ∧
            ownSteps as = earlier ++ [.receive sent, .checkExpired now, .visible sent (.ok true)] := by
        intro sent failure' hsame
        cases hsame
        exact ⟨earlier, now, claims, hread _ rfl, hvalid, hown⟩
      split at hs <;> cases hs
      · exact h.goTo hgoing rfl nofun nofun nofun trivial nofun hsend
      · exact h.goTo hgoing rfl nofun nofun hread trivial nofun hsend
    · cases hs
  -- ticked
  · split at hs <;> cases hs
    · exact h.goOn hgoing rfl rfl nofun nofun nofun trivial
    · exact h.goOn hgoing rfl rfl nofun nofun hread trivial
  -- closing
  · split at hs
    · cases hs
    · rename_i s hsession
      obtain ⟨hub, hhub, rfl⟩ := Option.map_eq_some_iff.mp hs
      split
      · exact h.close hpoint hsession hhub rfl rfl
      · exact h.close hpoint hsession hhub rfl rfl
  · cases hs

theorem StreamInv.step (h : StreamInv call as st) {a : StreamAction}
    (hs : st.step call a = some st') : StreamInv call (as ++ [a]) st' := by
  unfold StreamState.step at hs
  split at hs
  · exact h.others hs
  · exact h.stream hs

theorem streamInv_of_run (h : Run (StreamState.step call) {} as st) : StreamInv call as st := by
  refine h.invariant ?_ fun _ _ _ _ hinv hs => hinv.step hs
  refine ⟨⟨[], .start⟩, nofun, fun _ => rfl, nofun, nofun, rfl, ?_, nofun, ?_⟩
  · exact fun hsession => absurd rfl hsession
  · intro before poke failure after hsplit
    cases before <;> cases hsplit

/-- A stream that has returned takes no step, and what others do leaves its session out of the
hub. -/
theorem StreamState.step_returned {result : Option StreamError}
    (hpoint : st.point = .returned result) {a : StreamAction} (hs : st.step call a = some st') :
    st'.point = .returned result ∧ a.own = false := by
  unfold StreamState.step at hs
  split at hs
  · unfold StreamState.others at hs
    split at hs
    · cases hs
    · rw [hpoint] at hs
      obtain ⟨hub, -, rfl⟩ := Option.map_eq_some_iff.mp hs
      exact ⟨rfl, rfl⟩
  · rw [hpoint] at hs
    unfold StreamState.stream at hs
    cases hs

end Invariant

/-- **A stream of the watch hub is safe**, in every run of it beside anybody else who uses the
hub. -/
theorem streamSafe_of_run (call : StreamCall) (as : List StreamAction) (st : StreamState)
    (h : Run (StreamState.step call) {} as st) : StreamSafe call as st := by
  have hinv : StreamInv call as st := streamInv_of_run h
  refine ⟨hinv.written, fun eventID e hmem => (hinv.refused eventID e hmem).1, ?_, ?_⟩
  · intro claims now rest hclaims hexpired hown
    by_contra hsession
    obtain ⟨claims', now', tail, hclaims', hvalid, hown'⟩ := hinv.token hsession
    obtain rfl : claims = claims' := Option.some.inj (hclaims.symm.trans hclaims')
    rw [hown] at hown'
    cases hown'
    exact hexpired hvalid
  · intro result hpoint bs st' hafter
    have hquiet : st'.point = .returned result ∧ ownSteps bs = [] := by
      induction hafter with
      | start => exact ⟨hpoint, rfl⟩
      | @next bs t t' b _ hs ih =>
          obtain ⟨hreturned, hnone⟩ := ih
          obtain ⟨hreturned', hother⟩ := StreamState.step_returned hreturned hs
          have hlast : ownSteps [b] = [] := by simp [ownSteps, hother]
          exact ⟨hreturned', by rw [ownSteps_append, hnone, hlast, List.append_nil]⟩
    have hend : StreamInv call (as ++ bs) st' := streamInv_of_run (h.trans hafter)
    refine ⟨hend.away ?_, hquiet.2⟩
    rw [hquiet.1]
    rfl

/-- A call whose token runs out while it is open: one poke is written, the next is withheld because
the rule fails, and the third finds the token expired. -/
def expiringCall : StreamCall where
  claims := some { expiresAt := some 100 }
  eventIDs := [1]

def expiringStream : List StreamAction :=
  [.authenticate, .checkExpired 10, .mayWatch 1 none, .subscribe, .sendHeartbeat none,
    .hub (.publish ⟨1, 7, 0⟩ [0]), .hub .proceed, .hub .proceed,
    .receive ⟨1, 7, 0⟩, .checkExpired 20, .visible ⟨1, 7, 0⟩ (.ok true), .sendPoke ⟨1, 7, 0⟩ none,
    .hub (.publish ⟨1, 8, 0⟩ [0]), .hub .proceed, .hub .proceed,
    .receive ⟨1, 8, 0⟩, .checkExpired 30, .visible ⟨1, 8, 0⟩ (.error "closed"),
    .hub (.publish ⟨1, 9, 0⟩ [0]), .hub .proceed, .hub .proceed,
    .receive ⟨1, 9, 0⟩, .checkExpired 100, .close, .hub .proceed, .hub .proceed]

theorem streamSafe_of_run_expiringStream :
    ∃ st, Run (StreamState.step expiringCall) {} expiringStream st ∧
      st.point = .returned
        (some ⟨.unauthenticated, "the access token expired; refresh and reconnect"⟩) ∧
        StreamSafe expiringCall expiringStream st := by
  have hrun : (RunLib.exec (StreamState.step expiringCall) {} expiringStream).map (·.point) =
      some (.returned
        (some ⟨.unauthenticated, "the access token expired; refresh and reconnect"⟩)) := by
    decide
  obtain ⟨st, hexec, hpoint⟩ := Option.map_eq_some_iff.mp hrun
  have h : Run (StreamState.step expiringCall) {} expiringStream st := run_of_exec hexec
  exact ⟨st, h, hpoint, streamSafe_of_run expiringCall expiringStream st h⟩

end OcfIms
