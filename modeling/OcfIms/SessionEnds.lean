import OcfIms.ClientSession

/-!
# What ends a session

Only a definitive answer is to end the session on the device: the user's sign-out, a refusal by
`RefreshToken`, or a `GetAuthStatus` that does not know a caller who showed a valid token. A refresh
that fails for the moment is not one. But the call that asked for it goes out with the token there
is, and `GetAuthStatus` answers an expired token as it answers none: not authenticated. The session
store takes that for the end.
-/

namespace OcfIms

open RunLib

/-- The answer to the request says something about the session: it carried an access token that had
not expired, or the device held no refresh token. -/
def SentRequest.Telling (r : SentRequest) : Prop :=
  unexpired r.bearer r.sentAt = true ∨ r.held = false

instance (r : SentRequest) : Decidable r.Telling := inferInstanceAs (Decidable (_ ∨ _))

/-- The session is ended by the user or by a definitive answer. -/
def EndCause.Definitive : EndCause → Prop
  | .signOut | .refreshRefused => True
  | .statusRefused request => request.Telling

namespace ClientSession

/-- The access token or the stored refresh token goes. -/
def Loses (s s' : ClientSession) : Prop :=
  s.tokens ≠ none ∧ s'.tokens = none ∨ s.stored ≠ none ∧ s'.stored = none

/-- Only a definitive answer ends the session: an end in progress has a definitive cause, and the
tokens are cleared by such an end only. -/
structure EndsDefinitively (platform : SessionPlatform) (s : ClientSession) : Prop where
  cause : ∀ run, s.ending = some run → run.cause.Definitive
  clears : ∀ a s', s.step platform a = some s' → s.Loses s' →
    ∃ run, s'.ending = some run ∧ run.cause.Definitive

/-- The step sends `GetAuthStatus` for a bootstrap or a `refreshAuthStatus`. -/
def asksStatus (s : ClientSession) : SessionAction → Bool
  | .refreshAuthStatus =>
    match s.state with
    | .signedIn _ => !expiringWithin s.tokens s.now proactiveRefreshWindowMs
    | _ => false
  | .bootResumed (.refreshed _) => !expiringWithin s.tokens s.now proactiveRefreshWindowMs
  | .callResumed (.status caller) .proactiveDone => caller ≠ .signIn
  | .callResumed (.status caller) (.reactiveDone _ _ (.refreshed _)) => caller ≠ .signIn
  | _ => false

/-- `GetAuthStatus` is asked with an access token that has not expired, or by a device that holds no
refresh token. -/
def AsksFresh (platform : SessionPlatform) (s : ClientSession) (a : SessionAction) : Prop :=
  s.asksStatus a = true → (s.request platform).Telling

instance (platform : SessionPlatform) (s : ClientSession) (a : SessionAction) :
    Decidable (s.AsksFresh platform a) := inferInstanceAs (Decidable (_ → _))

end ClientSession

/-- The request that a call waits for an answer to is a telling one, if there is one yet. -/
def CallPhase.Telling : CallPhase → Prop
  | .proactive | .proactiveDone => True
  | .sent request | .resent request | .reactive request _ | .reactiveDone request _ _ =>
    request.Telling

/-- A question about the session, if the task is one, was asked fresh. -/
def SessionTask.Telling : SessionTask → Prop
  | .call (.status .signIn) _ => True
  | .call (.status _) phase => phase.Telling
  | _ => True

namespace ClientSession

/-- What is asked and what is being ended. -/
structure Fresh (s : ClientSession) : Prop where
  tasks : ∀ t ∈ s.tasks, t.Telling
  ending : ∀ run, s.ending = some run → run.cause.Definitive

section Fresh

variable {platform : SessionPlatform} {s s' : ClientSession}

theorem Fresh.addTask (h : Fresh s) {t : SessionTask} (ht : t.Telling) : Fresh (s.addTask t) := by
  refine ⟨fun t' hmem => ?_, h.ending⟩
  rcases List.mem_cons.mp hmem with rfl | hmem
  · exact ht
  · exact h.tasks t' hmem

theorem Fresh.dropTask (h : Fresh s) (t : SessionTask) : Fresh (s.dropTask t) :=
  ⟨fun t' hmem => h.tasks t' (List.mem_of_mem_erase hmem), h.ending⟩

theorem Fresh.refreshes (h : Fresh s) : Fresh s.refresh := by
  rw [ClientSession.refresh]
  split
  · exact ⟨h.tasks, h.ending⟩
  · exact h

theorem Fresh.endLocally (h : Fresh s) (cause : EndCause) (hcause : cause.Definitive) :
    Fresh (s.endLocally cause) := by
  rw [ClientSession.endLocally]
  split
  · refine ⟨h.tasks, fun run hrun => ?_⟩
    cases hrun
    exact hcause
  · exact h

theorem Fresh.startCall (h : Fresh s) {caller : Caller}
    (hsent : expiringWithin s.tokens s.now proactiveRefreshWindowMs = false →
      (SessionTask.call caller (.sent (s.request platform))).Telling)
    (hwaits : (SessionTask.call caller .proactive).Telling) :
    Fresh (s.startCall platform caller) := by
  rw [ClientSession.startCall]
  split
  · exact h.refreshes.addTask hwaits
  · rename_i hfar
    exact h.addTask (hsent (Bool.eq_false_iff.mpr hfar))

theorem Fresh.statusAnswered (h : Fresh s) {request : SentRequest} {caller : StatusCaller}
    (hasked : caller = .signIn ∨ request.Telling)
    (answer : Except RpcError GetAuthStatusResponse) :
    Fresh (s.statusAnswered request caller answer) := by
  cases caller <;> cases answer
  case signIn.error e => exact ⟨h.tasks, h.ending⟩
  case signIn.ok auth => exact ⟨h.tasks, h.ending⟩
  case refreshAuthStatus.error e => exact h
  all_goals
    have htelling : request.Telling := hasked.resolve_left nofun
    rw [ClientSession.statusAnswered]
    split <;> first | exact h.endLocally _ htelling | exact ⟨h.tasks, h.ending⟩

theorem Fresh.callReturned (h : Fresh s) {request : SentRequest} {caller : Caller}
    (hasked : caller = .status .signIn ∨ (∃ stream, caller = .screen stream) ∨ request.Telling)
    (answer : Except RpcError GetAuthStatusResponse) :
    Fresh (s.callReturned request answer caller) := by
  cases caller with
  | status c =>
      refine h.statusAnswered ?_ answer
      rcases hasked with hsignIn | ⟨stream, hscreen⟩ | htelling
      · exact Or.inl (Caller.status.inj hsignIn)
      · cases hscreen
      · exact Or.inr htelling
  | screen stream => exact h

/-- A call that is not the status question of a bootstrap or a refresh may go out with anything. -/
theorem asked_or_telling {caller : Caller} {phase : CallPhase}
    (h : (SessionTask.call caller phase).Telling) :
    caller = .status .signIn ∨ (∃ stream, caller = .screen stream) ∨ phase.Telling := by
  rcases caller with c | stream
  · cases c
    · exact Or.inr (Or.inr h)
    · exact Or.inl rfl
    · exact Or.inr (Or.inr h)
  · exact Or.inr (Or.inl ⟨stream, rfl⟩)

theorem telling_call {caller : Caller} {phase : CallPhase}
    (h : caller = .status .signIn ∨ (∃ stream, caller = .screen stream) ∨ phase.Telling) :
    (SessionTask.call caller phase).Telling := by
  rcases h with rfl | ⟨stream, rfl⟩ | htelling
  · trivial
  · trivial
  · rcases caller with c | stream
    · cases c
      · exact htelling
      · trivial
      · exact htelling
    · trivial

theorem Fresh.callAnswered (h : Fresh s) {caller : Caller} {phase : CallPhase}
    (hasked : (SessionTask.call caller phase).Telling)
    {answer : Except RpcError GetAuthStatusResponse}
    (hs : s.callAnswered caller answer phase = some s') : Fresh s' := by
  have hcases := asked_or_telling hasked
  cases phase <;> simp only [ClientSession.callAnswered, reduceCtorEq] at hs
  case sent request =>
    split at hs
    · split at hs
      · cases hs
        exact h.refreshes.addTask (telling_call hcases)
      · cases hs
        exact h.callReturned hcases _
    · cases hs
      exact h.callReturned hcases _
  case resent request =>
    cases hs
    exact h.callReturned hcases _

theorem Fresh.callResumed (h : Fresh s) {caller : Caller} {phase : CallPhase}
    (hasked : (SessionTask.call caller phase).Telling)
    (hfresh : s.AsksFresh platform (.callResumed caller phase))
    (hs : s.callResumed platform caller phase = some s') : Fresh s' := by
  have hcases := asked_or_telling hasked
  have hsent : (∃ c, caller = .status c ∧ s.asksStatus (.callResumed (.status c) phase) = true) ∨
      caller = .status .signIn ∨ (∃ stream, caller = .screen stream) →
      caller = .status .signIn ∨ (∃ stream, caller = .screen stream) ∨
        (s.request platform).Telling := by
    rintro (⟨c, rfl, hasks⟩ | hother)
    · exact Or.inr (Or.inr (hfresh hasks))
    · exact hother.imp_right Or.inl
  cases phase <;> simp only [ClientSession.callResumed, reduceCtorEq] at hs
  case proactiveDone =>
    cases hs
    refine h.addTask (telling_call (hsent ?_))
    rcases caller with c | stream
    · cases c
      · exact Or.inl ⟨_, rfl, rfl⟩
      · exact Or.inr (Or.inl rfl)
      · exact Or.inl ⟨_, rfl, rfl⟩
    · exact Or.inr (Or.inr ⟨stream, rfl⟩)
  case reactiveDone request e outcome =>
    split at hs
    · cases hs
      refine h.addTask (telling_call (hsent ?_))
      rcases caller with c | stream
      · cases c
        · exact Or.inl ⟨_, rfl, rfl⟩
        · exact Or.inr (Or.inl rfl)
        · exact Or.inl ⟨_, rfl, rfl⟩
      · exact Or.inr (Or.inr ⟨stream, rfl⟩)
    · cases hs
      exact h.callReturned hcases _

theorem Fresh.refreshAnswered (h : Fresh s) (answer : Except RpcError AccessToken)
    (run : RefreshRun) : Fresh (s.refreshAnswered answer run) := by
  rw [ClientSession.refreshAnswered]
  dsimp only
  split
  · exact ⟨h.tasks, h.ending⟩
  · refine Fresh.endLocally ?_ .refreshRefused trivial
    exact ⟨h.tasks, h.ending⟩
  · exact ⟨h.tasks, h.ending⟩

theorem Fresh.mapTasks (h : Fresh s) {f : SessionTask → SessionTask}
    (hf : ∀ t, t.Telling → (f t).Telling) : ∀ t ∈ s.tasks.map f, t.Telling := by
  intro t hmem
  obtain ⟨t', hmem', rfl⟩ := List.mem_map.mp hmem
  exact hf t' (h.tasks t' hmem')

theorem telling_wake (outcome : RefreshOutcome) {t : SessionTask} (h : t.Telling) :
    (t.wake outcome).Telling := by
  cases t with
  | call caller phase =>
      have hcases := asked_or_telling h
      cases phase <;> first | exact h | exact telling_call hcases
  | _ => trivial

theorem telling_ended {t : SessionTask} (h : t.Telling) : t.ended.Telling := by
  cases t <;> exact h

theorem Fresh.endPhase (h : Fresh s) {run : EndRun} (hrun : s.ending = some run)
    (phase : EndPhase) : ∀ run', some { run with phase } = some run' → run'.cause.Definitive := by
  intro run' hrun'
  cases hrun'
  exact h.ending run hrun

/-- **One step.** -/
theorem Fresh.step (h : Fresh s) {a : SessionAction} (ha : s.AsksFresh platform a)
    (hs : s.step platform a = some s') : Fresh s' := by
  cases a <;> simp only [ClientSession.step] at hs
  case tick now =>
    split at hs <;> cases hs
    exact ⟨h.tasks, h.ending⟩
  case bootstrap =>
    cases hs
    rw [ClientSession.bootstrap]
    split
    · exact h
    · have hstarted : Fresh { s with state := .unknown, leaving := false, left := false } :=
        ⟨h.tasks, h.ending⟩
      split
      · exact hstarted.addTask trivial
      · exact hstarted.refreshes.addTask trivial
  case signIn =>
    cases hs
    have hstarted : Fresh { s with leaving := false, left := false } := ⟨h.tasks, h.ending⟩
    exact hstarted.addTask trivial
  case signOut =>
    cases hs
    exact h.addTask trivial
  case refreshAuthStatus =>
    split at hs
    · rename_i auth hstate
      cases hs
      refine h.startCall (fun hfar => ha ?_) trivial
      rw [asksStatus, hstate]
      simp only [hfar, Bool.not_false]
    · cases hs
      exact h
  case screenCall stream =>
    cases hs
    exact h.startCall (fun _ => trivial) trivial
  case bootLoaded failed =>
    split at hs <;> cases hs
    rw [ClientSession.bootLoaded]
    split
    · exact (h.dropTask _).refreshes.addTask trivial
    · exact ⟨(h.dropTask _).tasks, h.ending⟩
  case bootResumed outcome =>
    split at hs <;> cases hs
    cases outcome with
    | refreshed token =>
        refine (h.dropTask _).startCall (fun hfar => ha ?_) trivial
        have hfar' : expiringWithin s.tokens s.now proactiveRefreshWindowMs = false := hfar
        simp only [asksStatus, hfar', Bool.not_false]
    | signedOut e => exact h.dropTask _
    | failed e => exact ⟨(h.dropTask _).tasks, h.ending⟩
  case refreshLoaded failed =>
    split at hs
    · split at hs <;> cases hs
      exact ⟨h.tasks, h.ending⟩
    · cases hs
  case refreshAnswered answer =>
    split at hs
    · split at hs <;> cases hs
      exact h.refreshAnswered answer _
    · cases hs
  case refreshSettled =>
    split at hs
    · split at hs <;> cases hs
      exact ⟨h.mapTasks fun t ht => telling_wake _ ht, h.ending⟩
    · cases hs
  case callResumed caller phase =>
    split at hs
    · rename_i hmem
      exact (h.dropTask _).callResumed (h.tasks _ hmem) ha hs
    · cases hs
  case callAnswered caller phase answer =>
    split at hs
    · rename_i hmem
      exact (h.dropTask _).callAnswered (h.tasks _ hmem) hs
    · cases hs
  case loginAnswered answer =>
    split at hs
    · split at hs <;> cases hs
      · exact h.dropTask _
      · exact (h.dropTask _).addTask trivial
      · refine Fresh.startCall ?_ (fun _ => trivial) trivial
        exact ⟨(h.dropTask _).tasks, h.ending⟩
    · cases hs
  case saved resp failed =>
    split at hs
    · split at hs <;> cases hs
      · exact h.dropTask _
      · refine Fresh.startCall ?_ (fun _ => trivial) trivial
        exact ⟨(h.dropTask _).tasks, h.ending⟩
    · cases hs
  case signOutReady =>
    split at hs <;> cases hs
    refine Fresh.addTask (Fresh.endLocally ?_ .signOut trivial) trivial
    exact ⟨(h.dropTask _).tasks, h.ending⟩
  case endCleared failed =>
    split at hs
    · rename_i run hrun
      split at hs <;> cases hs
      exact ⟨h.tasks, h.endPhase hrun _⟩
    · cases hs
  case endNotified =>
    split at hs
    · rename_i run hrun
      split at hs <;> cases hs
      exact ⟨h.tasks, h.endPhase hrun _⟩
    · cases hs
  case endSettled =>
    split at hs
    · split at hs <;> cases hs
      exact ⟨h.mapTasks fun t ht => telling_ended ht, nofun⟩
    · cases hs
  case signOutDone =>
    split at hs <;> cases hs
    exact ⟨(h.dropTask _).tasks, h.ending⟩

/-! ## What a step clears -/

/-- No token is lost, or an end is in progress. -/
def Spared (s s' : ClientSession) : Prop :=
  s'.ending ≠ none ∨ (s'.tokens = none → s.tokens = none) ∧ (s'.stored = none → s.stored = none)

theorem Spared.of_eq (htokens : s'.tokens = s.tokens) (hstored : s'.stored = s.stored) :
    s.Spared s' := Or.inr ⟨fun h => htokens ▸ h, fun h => hstored ▸ h⟩

theorem endLocally_ending (cause : EndCause) : (s.endLocally cause).ending ≠ none := by
  rw [ClientSession.endLocally]
  split
  · nofun
  · assumption

theorem callReturned_spared (request : SentRequest) (caller : Caller)
    (answer : Except RpcError GetAuthStatusResponse) :
    s.Spared (s.callReturned request answer caller) := by
  cases caller with
  | screen stream => exact .of_eq rfl rfl
  | status c =>
      rw [ClientSession.callReturned]
      cases c <;> cases answer <;> rw [ClientSession.statusAnswered]
      case bootstrap.error e =>
        split
        · exact Or.inl (endLocally_ending _)
        · exact .of_eq rfl rfl
      case bootstrap.ok auth | refreshAuthStatus.ok auth =>
        split
        · exact .of_eq rfl rfl
        · exact Or.inl (endLocally_ending _)
      all_goals exact .of_eq rfl rfl

theorem signedIn_spared (resp : SignInResponse) (hstored : s'.stored = none → s.stored = none) :
    s.Spared (s'.signedIn platform resp) := by
  rw [ClientSession.signedIn]
  refine Or.inr ⟨fun hnone => ?_, fun hnone => hstored ?_⟩
  · rw [startCall_tokens] at hnone
    cases hnone
  · rw [startCall_stored] at hnone
    exact hnone

theorem refreshAnswered_spared (answer : Except RpcError AccessToken) (run : RefreshRun) :
    s.Spared (s.refreshAnswered answer run) := by
  rw [ClientSession.refreshAnswered]
  dsimp only
  split
  · exact Or.inr ⟨nofun, fun hnone => hnone⟩
  · exact Or.inl (endLocally_ending _)
  · exact .of_eq rfl rfl

/-- Only an end clears. -/
theorem step_spared {a : SessionAction} (hs : s.step platform a = some s') : s.Spared s' := by
  cases a <;> simp only [ClientSession.step] at hs
  case tick now =>
    split at hs <;> cases hs
    exact .of_eq rfl rfl
  case bootstrap =>
    cases hs
    rw [ClientSession.bootstrap]
    split
    · exact .of_eq rfl rfl
    · split <;> exact .of_eq (by simp) (by simp)
  case signIn | signOut =>
    cases hs
    exact .of_eq rfl rfl
  case refreshAuthStatus =>
    split at hs <;> cases hs
    · exact .of_eq (startCall_tokens _) (startCall_stored _)
    · exact .of_eq rfl rfl
  case screenCall stream =>
    cases hs
    exact .of_eq (startCall_tokens _) (startCall_stored _)
  case bootLoaded failed =>
    split at hs <;> cases hs
    rw [ClientSession.bootLoaded]
    split <;> exact .of_eq (by simp) (by simp)
  case bootResumed outcome =>
    split at hs <;> cases hs
    cases outcome
    · exact .of_eq (startCall_tokens _) (startCall_stored _)
    · exact .of_eq rfl rfl
    · exact .of_eq rfl rfl
  case refreshLoaded failed =>
    split at hs
    · split at hs <;> cases hs
      exact .of_eq rfl rfl
    · cases hs
  case refreshAnswered answer =>
    split at hs
    · split at hs <;> cases hs
      exact refreshAnswered_spared answer _
    · cases hs
  case refreshSettled =>
    split at hs
    · split at hs <;> cases hs
      exact .of_eq rfl rfl
    · cases hs
  case callResumed caller phase =>
    split at hs
    · cases phase <;> simp only [ClientSession.callResumed, reduceCtorEq] at hs
      case proactiveDone =>
        cases hs
        exact .of_eq rfl rfl
      case reactiveDone request e outcome =>
        split at hs <;> cases hs
        · exact .of_eq rfl rfl
        · exact callReturned_spared (s := s.dropTask _) _ _ _
    · cases hs
  case callAnswered caller phase answer =>
    split at hs
    · cases phase <;> simp only [ClientSession.callAnswered, reduceCtorEq] at hs
      case sent request =>
        split at hs
        · split at hs <;> cases hs
          · exact .of_eq (by simp) (by simp)
          · exact callReturned_spared (s := s.dropTask _) _ _ _
        · cases hs
          exact callReturned_spared (s := s.dropTask _) _ _ _
      case resent request =>
        cases hs
        exact callReturned_spared (s := s.dropTask _) _ _ _
    · cases hs
  case loginAnswered answer =>
    split at hs
    · split at hs <;> cases hs
      · exact .of_eq rfl rfl
      · exact .of_eq rfl rfl
      · exact signedIn_spared _ id
    · cases hs
  case saved resp failed =>
    split at hs
    · split at hs <;> cases hs
      · exact .of_eq rfl rfl
      · exact signedIn_spared _ nofun
    · cases hs
  case signOutReady =>
    split at hs <;> cases hs
    exact Or.inl (endLocally_ending .signOut)
  case endCleared failed =>
    split at hs
    · split at hs <;> cases hs
      exact Or.inl nofun
    · cases hs
  case endNotified =>
    split at hs
    · split at hs <;> cases hs
      exact .of_eq rfl rfl
    · cases hs
  case endSettled =>
    split at hs
    · split at hs <;> cases hs
      exact .of_eq rfl rfl
    · cases hs
  case signOutDone =>
    split at hs <;> cases hs
    exact .of_eq rfl rfl

/-- A step that asks ends nothing. -/
theorem ending_of_asksStatus {a : SessionAction} (ha : s.asksStatus a = true)
    (hs : s.step platform a = some s') : s'.ending = s.ending := by
  cases a <;> simp only [ClientSession.step] at hs <;> try cases ha
  case refreshAuthStatus =>
    split at hs <;> cases hs
    · exact startCall_ending _
    · rfl
  case bootResumed outcome =>
    cases outcome <;> try cases ha
    split at hs <;> cases hs
    exact startCall_ending _
  case callResumed caller phase =>
    split at hs
    · cases phase <;> simp only [ClientSession.callResumed, reduceCtorEq] at hs
      case proactiveDone =>
        cases hs
        rfl
      case reactiveDone request e outcome hmem =>
        cases outcome with
        | refreshed token =>
            obtain rfl := Option.some.inj hs
            rfl
        | signedOut e => cases caller <;> cases ha
        | failed e => cases caller <;> cases ha
    · cases hs

end Fresh

/-! ## Runs -/

theorem fresh_launched (stored : Option String) (now : Int) : Fresh (launched stored now) := by
  refine ⟨fun t hmem => ?_, fun run hrun => ?_⟩
  · cases hmem
  · cases hrun

/-- **Only definitive answers end the session**, after any operations and answers, where the status
of the session is asked fresh. -/
theorem endsDefinitively_of_run (platform : SessionPlatform) (stored : Option String) (now : Int)
    (as : List SessionAction) (s : ClientSession)
    (h : RunMeeting (ClientSession.step platform) (AsksFresh platform) (launched stored now) as s) :
    EndsDefinitively platform s := by
  have hfresh : Fresh s := h.invariant (I := fun _ s => Fresh s) (fresh_launched stored now)
    fun _ s a s' hi ha hs => hi.step ha hs
  refine ⟨hfresh.ending, fun a s' hs hloses => ?_⟩
  have hending : s'.ending ≠ none := by
    rcases step_spared hs with hending | ⟨htokens, hstored⟩
    · exact hending
    · rcases hloses with ⟨hsome, hnone⟩ | ⟨hsome, hnone⟩
      · exact absurd (htokens hnone) hsome
      · exact absurd (hstored hnone) hsome
  obtain ⟨run, hrun⟩ := Option.ne_none_iff_exists'.mp hending
  refine ⟨run, hrun, ?_⟩
  by_cases ha : s.AsksFresh platform a
  · exact (hfresh.step ha hs).ending run hrun
  · have hasks : s.asksStatus a = true := by
      by_contra hquiet
      exact ha fun hasks => absurd hasks hquiet
    rw [ending_of_asksStatus hasks hs] at hrun
    exact hfresh.ending run hrun

/-- On a phone: Jo signs in with a token that lasts a minute. -/
def signInOnPhone : List SessionAction :=
  [.signIn, .loginAnswered (.ok { token := ⟨"first", some 61000⟩, refreshToken := "long" }),
    .saved { token := ⟨"first", some 61000⟩, refreshToken := "long" } false,
    .callAnswered (.status .signIn) (.sent ⟨some ⟨"first", some 61000⟩, 0, true⟩)
      (.ok { authenticated := true, user := "Jo" })]

/-- The token runs out and cannot be refreshed for the moment, neither before a screen's call nor after
the server has refused its token. -/
def callWithoutRefresh : List SessionAction :=
  let request : SentRequest := ⟨some ⟨"first", some 61000⟩, 90000, true⟩
  [.tick 90000, .screenCall false, .refreshLoaded false,
    .refreshAnswered (.error { code := .unavailable }), .refreshSettled,
    .callResumed (.screen false) .proactiveDone,
    .callAnswered (.screen false) (.sent request) (.error { code := .unauthenticated }),
    .refreshLoaded false, .refreshAnswered (.error { code := .unavailable }), .refreshSettled,
    .callResumed (.screen false) (.reactiveDone request { code := .unauthenticated }
      (.failed { code := .unavailable }))]

/-- The token runs out, it is refreshed, and the server knows Jo no more; and two refreshes fail, the
token stays expired, and nobody is signed out. -/
theorem endsDefinitively_of_run_refreshed :
    (∃ s, (∃ run, s.ending = some run) ∧ EndsDefinitively .native s) ∧
    ∃ s, s.ending = none ∧ s.tokens = some ⟨"first", some 61000⟩ ∧ s.stored = some "long" ∧
      s.now = 90000 ∧ EndsDefinitively .native s := by
  constructor
  · have hexec : Option.map (fun s => s.ending.isSome) (RunLib.exec (fun s a =>
        if AsksFresh .native s a then ClientSession.step .native s a else none) (launched none 0)
        (signInOnPhone ++ [.tick 90000, .refreshAuthStatus, .refreshLoaded false,
          .refreshAnswered (.ok ⟨"second", some 990000⟩), .refreshSettled,
          .callResumed (.status .refreshAuthStatus) .proactiveDone,
          .callAnswered (.status .refreshAuthStatus)
            (.sent ⟨some ⟨"second", some 990000⟩, 90000, true⟩) (.ok { authenticated := false })])) =
        some true := by
      decide
    obtain ⟨s, hs, hending⟩ := Option.map_eq_some_iff.mp hexec
    exact ⟨s, Option.isSome_iff_exists.mp hending,
      endsDefinitively_of_run .native none 0 _ s (runMeeting_of_exec hs)⟩
  · have hexec : Option.map (fun s => (s.ending, s.tokens, s.stored, s.now)) (RunLib.exec (fun s a =>
        if AsksFresh .native s a then ClientSession.step .native s a else none) (launched none 0)
        (signInOnPhone ++ callWithoutRefresh)) =
        some (none, some ⟨"first", some 61000⟩, some "long", 90000) := by
      decide
    obtain ⟨s, hs, hstate⟩ := Option.map_eq_some_iff.mp hexec
    simp only [Prod.mk.injEq] at hstate
    obtain ⟨hending, htokens, hstored, hnow⟩ := hstate
    exact ⟨s, hending, htokens, hstored, hnow,
      endsDefinitively_of_run .native none 0 _ s (runMeeting_of_exec hs)⟩

/-- The token has run out, and the refresh fails for the moment: the status is asked with the token
there is, the server does not know it, and Jo's tokens are cleared. -/
theorem not_endsDefinitively_failedRefresh : ¬ ∀ (platform : SessionPlatform)
    (stored : Option String) (now : Int) (as : List SessionAction) (s : ClientSession),
    Run (ClientSession.step platform) (launched stored now) as s →
      EndsDefinitively platform s := by
  intro hclaim
  have hexec : Option.map (fun s => (s.ending, s.tokens)) (RunLib.exec
      (ClientSession.step .native) (launched none 0)
      (signInOnPhone ++ [.tick 90000, .refreshAuthStatus, .refreshLoaded false,
        .refreshAnswered (.error { code := .unavailable }), .refreshSettled,
        .callResumed (.status .refreshAuthStatus) .proactiveDone,
        .callAnswered (.status .refreshAuthStatus)
          (.sent ⟨some ⟨"first", some 61000⟩, 90000, true⟩) (.ok { authenticated := false })])) =
      some (some
        { cause := .statusRefused ⟨some ⟨"first", some 61000⟩, 90000, true⟩, session := 1 },
        none) := by
    decide
  obtain ⟨s, hs, hstate⟩ := Option.map_eq_some_iff.mp hexec
  have hcause := (hclaim .native none 0 _ s (run_of_exec hs)).cause _ (Prod.mk.inj hstate).1
  revert hcause
  change ¬ SentRequest.Telling _
  decide

end ClientSession

end OcfIms
