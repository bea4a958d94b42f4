import OcfIms.ClientSession

/-!
# Signing out is final

Once a sign-out has completed, and until the next sign-in or bootstrap starts, the client is signed
out and caches no access token; and a refresh that was started in one session does nothing to a
session signed in after it.

Neither the refresher nor the session store looks, when an answer arrives, whether the session that
asked is still the one at hand. The two hold where no answer comes too late.
-/

namespace OcfIms

open RunLib

/-- The answer to `GetAuthStatus` sets the state of the session. -/
def StatusCaller.sets : StatusCaller → Except RpcError GetAuthStatusResponse → Bool
  | .bootstrap, .ok auth | .refreshAuthStatus, .ok auth => auth.authenticated
  | .bootstrap, .error e => toAppErrorKind e ≠ .unauthenticated
  | .refreshAuthStatus, .error _ => false
  | .signIn, _ => true

/-- The refresh failed for the moment: nothing follows from it. -/
def RefreshOutcome.passing : RefreshOutcome → Bool
  | .failed _ => true
  | _ => false

/-- The task is a sign-out. -/
def SessionTask.signsOut : SessionTask → Bool
  | .beforeSignOut | .signOutEnd | .signOutLogout => true
  | _ => false

namespace ClientSession

/-- The session is being ended, or was ended by a sign-out and nobody has signed in since. -/
def Leaving (s : ClientSession) : Prop := s.leaving = true ∨ s.ending ≠ none

instance (s : ClientSession) : Decidable s.Leaving := inferInstanceAs (Decidable (_ ∨ _))

/-- The session of the refresh whose step this is, or whose refusal is being carried out. -/
def refreshBehind (s : ClientSession) : SessionAction → Option Nat
  | .refreshLoaded _ | .refreshAnswered _ | .refreshSettled => s.inflight.map (·.session)
  | .endCleared _ | .endNotified | .endSettled =>
    (s.ending.filter (·.cause = .refreshRefused)).map (·.session)
  | _ => none

/-- The refresh in flight was started in an earlier session. -/
def refreshesEarlier (s : ClientSession) : Bool := s.inflight.any (·.session < s.session)

/-- No answer comes too late. While the session is being ended, and after a sign-out until somebody
signs in, `RefreshToken` and `Login` are not answered with a token, and nothing that was asked for
the session sets its state; a refresh of an earlier session fails for the moment, if it is answered;
and neither a sign-in nor a bootstrap starts while the session is being ended or a sign-out is under
way. -/
def InTime (platform : SessionPlatform) (s : ClientSession) : SessionAction → Prop
  | .bootstrap | .signIn => s.ending = none ∧ s.tasks.all (fun t => !t.signsOut) = true
  | .refreshAnswered answer => (answer.isOk = true → ¬ s.Leaving) ∧
      (s.refreshesEarlier = true → (classifyRefresh answer).passing = true)
  | .bootResumed (.failed _) => ¬ s.Leaving
  | .callAnswered (.status caller) _ answer => caller.sets answer = true → ¬ s.Leaving
  | .callResumed (.status caller) (.reactiveDone _ e _) =>
    caller.sets (.error e) = true → ¬ s.Leaving
  | .loginAnswered (.ok _) => platform = .web → ¬ s.Leaving
  | .saved _ failed => failed = false → ¬ s.Leaving
  | _ => True

instance (platform : SessionPlatform) (s : ClientSession) : ∀ a, Decidable (s.InTime platform a)
  | .bootstrap | .signIn => inferInstanceAs (Decidable (_ ∧ _))
  | .refreshAnswered _ => inferInstanceAs (Decidable (_ ∧ _))
  | .bootResumed (.failed _) => inferInstanceAs (Decidable (¬ _))
  | .callAnswered (.status _) _ _ => inferInstanceAs (Decidable (_ → ¬ _))
  | .callResumed (.status _) (.reactiveDone _ _ _) => inferInstanceAs (Decidable (_ → ¬ _))
  | .loginAnswered (.ok _) => inferInstanceAs (Decidable (_ → ¬ _))
  | .saved _ _ => inferInstanceAs (Decidable (_ → ¬ _))
  | .tick _ | .signOut | .refreshAuthStatus | .screenCall _ | .bootLoaded _
  | .bootResumed (.refreshed _) | .bootResumed (.signedOut _) | .refreshLoaded _ | .refreshSettled | .callResumed (.screen _) _
  | .callResumed (.status _) .proactive | .callResumed (.status _) .proactiveDone
  | .callResumed (.status _) (.sent _) | .callResumed (.status _) (.reactive _ _)
  | .callResumed (.status _) (.resent _) | .callAnswered (.screen _) _ _
  | .loginAnswered (.error _) | .signOutReady | .endCleared _ | .endNotified | .endSettled
  | .signOutDone => inferInstanceAs (Decidable True)

/-! ## What the steps keep -/

/-- While the session is being ended, or is left, there is no access token, and the state is signed
out or soon will be; a refresh in flight is of no later session than the one at hand, and an end in
progress is of that one. -/
structure Kept (s : ClientSession) : Prop where
  tokens : s.Leaving → s.tokens = none
  state : s.Leaving → s.state = .signedOut ∨ ∃ run, s.ending = some run ∧ run.phase ≠ .settled
  ended : s.left = true ∨ .signOutLogout ∈ s.tasks → s.leaving = true ∧ s.state = .signedOut
  asked : .signOutEnd ∈ s.tasks → s.leaving = true
  refresh : ∀ run, s.inflight = some run → run.session ≤ s.session
  ending : ∀ run, s.ending = some run → run.session = s.session

section Kept

variable {platform : SessionPlatform} {s s' : ClientSession}

theorem mem_addTask {t t' : SessionTask} : t ∈ (s.addTask t').tasks ↔ t = t' ∨ t ∈ s.tasks :=
  List.mem_cons

/-- Other tasks, but no other sign-outs. -/
theorem Kept.tasks (h : Kept s) {tasks : List SessionTask}
    (hsub : ∀ t ∈ tasks, t.signsOut = true → t ∈ s.tasks) : Kept { s with tasks } := by
  refine ⟨h.tokens, h.state, fun hended => h.ended ?_, fun hasked => h.asked ?_, h.refresh,
    h.ending⟩
  · exact hended.imp_right fun hmem => hsub _ hmem rfl
  · exact hsub _ hasked rfl

theorem Kept.addTask (h : Kept s) {t : SessionTask} (ht : t.signsOut = false) :
    Kept (s.addTask t) := by
  refine h.tasks fun t' hmem hout => ?_
  rcases mem_addTask.mp hmem with rfl | hmem
  · rw [ht] at hout
    cases hout
  · exact hmem

theorem Kept.asksToSignOut (h : Kept s) : Kept (s.addTask .beforeSignOut) := by
  refine ⟨h.tokens, h.state, fun hended => h.ended ?_, fun hasked => h.asked ?_, h.refresh,
    h.ending⟩
  · rcases hended with hleft | hmem
    · exact Or.inl hleft
    · exact Or.inr ((mem_addTask.mp hmem).resolve_left nofun)
  · exact (mem_addTask.mp hasked).resolve_left nofun

theorem Kept.dropTask (h : Kept s) (t : SessionTask) : Kept (s.dropTask t) :=
  h.tasks fun _ hmem _ => List.mem_of_mem_erase hmem

/-- What is written while nobody is leaving. -/
theorem Kept.write (h : Kept s) (hfree : ¬ s.Leaving) (state : SessionState)
    (tokens : Option AccessToken) (stored : Option String) :
    Kept { s with state, tokens, stored } := by
  refine ⟨fun hl => absurd hl hfree, fun hl => absurd hl hfree, fun hended => ?_, h.asked,
    h.refresh, h.ending⟩
  exact absurd (Or.inl (h.ended hended).1) hfree

theorem Kept.signedOut (h : Kept s) : Kept { s with state := .signedOut } :=
  ⟨h.tokens, fun _ => Or.inl rfl, fun hended => ⟨(h.ended hended).1, rfl⟩, h.asked, h.refresh,
    h.ending⟩

theorem Kept.refreshes (h : Kept s) : Kept s.refresh := by
  rw [ClientSession.refresh]
  split
  · refine ⟨h.tokens, h.state, h.ended, h.asked, fun run hrun => ?_, h.ending⟩
    cases hrun
    exact Nat.le_refl _
  · exact h

theorem Kept.endLocally (h : Kept s) (cause : EndCause) : Kept (s.endLocally cause) := by
  rw [ClientSession.endLocally]
  split
  · refine ⟨fun _ => rfl, fun _ => Or.inr ⟨_, rfl, nofun⟩, h.ended, h.asked, h.refresh,
      fun run hrun => ?_⟩
    cases hrun
    rfl
  · exact h

/-- A call asks for a refresh, or goes out: neither is more than a task. -/
theorem Kept.startCall (h : Kept s) (caller : Caller) : Kept (s.startCall platform caller) := by
  rw [ClientSession.startCall]
  split
  · exact h.refreshes.addTask rfl
  · exact h.addTask rfl

theorem Kept.statusAnswered (h : Kept s) (request : SentRequest) {caller : StatusCaller}
    {answer : Except RpcError GetAuthStatusResponse}
    (hfree : caller.sets answer = true → ¬ s.Leaving) :
    Kept (s.statusAnswered request caller answer) := by
  have hwrite : caller.sets answer = true → ∀ state, Kept { s with state } :=
    fun hsets state => h.write (hfree hsets) state s.tokens s.stored
  cases caller <;> cases answer
  case bootstrap.error e =>
    rw [ClientSession.statusAnswered]
    split
    · exact h.endLocally _
    · rename_i hkind
      exact hwrite (decide_eq_true hkind) _
  case bootstrap.ok auth =>
    rw [ClientSession.statusAnswered]
    split
    · rename_i hauth
      exact hwrite hauth _
    · exact h.endLocally _
  case signIn.error e => exact hwrite rfl _
  case signIn.ok auth => exact hwrite rfl _
  case refreshAuthStatus.error e => exact h
  case refreshAuthStatus.ok auth =>
    rw [ClientSession.statusAnswered]
    split
    · rename_i hauth
      exact hwrite hauth _
    · exact h.endLocally _

theorem Kept.callReturned (h : Kept s) (request : SentRequest) {caller : Caller}
    {answer : Except RpcError GetAuthStatusResponse}
    (hfree : ∀ c, caller = .status c → c.sets answer = true → ¬ s.Leaving) :
    Kept (s.callReturned request answer caller) := by
  cases caller with
  | status c => exact h.statusAnswered request (hfree c rfl)
  | screen stream => exact h

theorem Kept.callAnswered (h : Kept s) {caller : Caller} {phase : CallPhase}
    {answer : Except RpcError GetAuthStatusResponse}
    (hfree : ∀ c, caller = .status c → c.sets answer = true → ¬ s.Leaving)
    (hs : s.callAnswered caller answer phase = some s') : Kept s' := by
  cases phase <;> simp only [ClientSession.callAnswered, reduceCtorEq] at hs
  case sent request =>
    split at hs
    · split at hs
      · cases hs
        exact h.refreshes.addTask rfl
      · cases hs
        exact h.callReturned request hfree
    · cases hs
      exact h.callReturned request hfree
  case resent request =>
    cases hs
    exact h.callReturned request hfree

theorem Kept.callResumed (h : Kept s) {caller : Caller} {phase : CallPhase}
    (hfree : ∀ c request e outcome, caller = .status c → phase = .reactiveDone request e outcome →
      c.sets (.error e) = true → ¬ s.Leaving)
    (hs : s.callResumed platform caller phase = some s') : Kept s' := by
  cases phase <;> simp only [ClientSession.callResumed, reduceCtorEq] at hs
  case proactiveDone =>
    cases hs
    exact h.addTask rfl
  case reactiveDone request e outcome =>
    split at hs
    · cases hs
      exact h.addTask rfl
    · cases hs
      exact h.callReturned request fun c hc => hfree c request e outcome hc rfl

/-- A sign-in has its tokens. -/
theorem Kept.signedIn (h : Kept s) (hfree : ¬ s.Leaving) (resp : SignInResponse) :
    Kept (s.signedIn platform resp) := by
  rw [ClientSession.signedIn]
  refine Kept.startCall ?_ _
  refine ⟨fun hl => absurd hl hfree, fun hl => absurd hl hfree, fun hended => ?_, h.asked,
    fun run hrun => ?_, fun run hrun => ?_⟩
  · exact absurd (Or.inl (h.ended hended).1) hfree
  · exact Nat.le_succ_of_le (h.refresh run hrun)
  · have hrunning : s.ending = some run := hrun
    exact absurd (Or.inr (by rw [hrunning]; nofun)) hfree

theorem Kept.inflight (h : Kept s) {run : RefreshRun} (hrun : s.inflight = some run)
    (phase : RefreshPhase) : Kept { s with inflight := some { run with phase } } := by
  refine ⟨h.tokens, h.state, h.ended, h.asked, fun run' hrun' => ?_, h.ending⟩
  cases hrun'
  exact h.refresh run hrun

theorem Kept.refreshAnswered (h : Kept s) {answer : Except RpcError AccessToken} {run : RefreshRun}
    (hrun : s.inflight = some run) (hfree : ∀ token, answer = .ok token → ¬ s.Leaving) :
    Kept (s.refreshAnswered answer run) := by
  cases answer with
  | ok token =>
      exact (h.inflight hrun _).write (hfree token rfl) s.state (some token) s.stored
  | error e =>
      simp only [ClientSession.refreshAnswered, classifyRefresh]
      by_cases hcode : e.code = .unauthenticated
      · simp only [hcode, if_true]
        have hcleared := h.inflight hrun (.settled (.signedOut e))
        refine Kept.endLocally ?_ _
        exact ⟨fun _ => rfl, hcleared.state, hcleared.ended, hcleared.asked, hcleared.refresh,
          hcleared.ending⟩
      · simp only [hcode, if_false]
        exact h.inflight hrun _

/-- The refresh is over, and those who waited for it know. -/
theorem Kept.woken (h : Kept s) (outcome : RefreshOutcome) :
    Kept { s with inflight := none, tasks := s.tasks.map (SessionTask.wake outcome) } := by
  have htold : Kept { s with tasks := s.tasks.map (SessionTask.wake outcome) } := by
    refine h.tasks fun t hmem hout => ?_
    obtain ⟨t', hmem', rfl⟩ := List.mem_map.mp hmem
    have hsame : t'.wake outcome = t' := by
      cases t' with
      | call caller phase => cases phase <;> first | rfl | cases hout
      | bootRefresh => cases hout
      | _ => rfl
    rw [hsame]
    exact hmem'
  exact ⟨htold.tokens, htold.state, htold.ended, htold.asked, nofun, htold.ending⟩

/-- A sign-in or a bootstrap starts while nobody signs out. -/
theorem Kept.started (h : Kept s) (hidle : s.ending = none)
    (hout : s.tasks.all (fun t => !t.signsOut) = true) (state : SessionState) :
    Kept { s with state, leaving := false, left := false } := by
  have hnone : ∀ t ∈ s.tasks, t.signsOut ≠ true := by
    intro t hmem hsigns
    have hnot := List.all_eq_true.mp hout t hmem
    rw [hsigns] at hnot
    cases hnot
  have hfree : ¬ (false = true ∨ s.ending ≠ none) := by
    rintro (hl | he)
    · cases hl
    · exact he hidle
  refine ⟨fun hl => absurd hl hfree, fun hl => absurd hl hfree, fun hended => ?_, fun hasked => ?_,
    h.refresh, h.ending⟩
  · rcases hended with hleft | hmem
    · cases hleft
    · exact absurd rfl (hnone _ hmem)
  · exact absurd rfl (hnone _ hasked)

/-- A sign-out begins to end the session. -/
theorem Kept.signsOut (h : Kept s) :
    Kept (({ s with leaving := true }.endLocally .signOut).addTask .signOutEnd) := by
  have hleaving : Kept ({ s with leaving := true }.endLocally .signOut) := by
    rw [ClientSession.endLocally]
    split
    · refine ⟨fun _ => rfl, fun _ => Or.inr ⟨_, rfl, nofun⟩,
        fun hended => ⟨rfl, (h.ended hended).2⟩, fun _ => rfl, h.refresh, fun run hrun => ?_⟩
      cases hrun
      rfl
    · rename_i hrunning
      have hl : s.Leaving := Or.inr hrunning
      exact ⟨fun _ => h.tokens hl, fun _ => h.state hl, fun hended => ⟨rfl, (h.ended hended).2⟩,
        fun _ => rfl, h.refresh, h.ending⟩
  have hflag : ({ s with leaving := true }.endLocally .signOut).leaving = true := by
    rw [ClientSession.endLocally]
    split <;> rfl
  refine ⟨hleaving.tokens, hleaving.state, fun hended => hleaving.ended ?_, fun _ => hflag,
    hleaving.refresh, hleaving.ending⟩
  rcases hended with hleft | hmem
  · exact Or.inl hleft
  · exact Or.inr ((mem_addTask.mp hmem).resolve_left nofun)

/-- The stored refresh token goes, if it does. -/
theorem Kept.endCleared (h : Kept s) {run : EndRun} (hrun : s.ending = some run)
    (stored : Option String) :
    Kept { s with stored, ending := some { run with phase := .notifying } } := by
  have hl : s.Leaving := Or.inr (by rw [hrun]; nofun)
  refine ⟨fun _ => h.tokens hl, fun _ => Or.inr ⟨_, rfl, nofun⟩, h.ended, h.asked, h.refresh,
    fun run' hrun' => ?_⟩
  cases hrun'
  exact h.ending run hrun

theorem Kept.endNotified (h : Kept s) {run : EndRun} (hrun : s.ending = some run) :
    Kept { s with state := .signedOut, ending := some { run with phase := .settled } } := by
  have hl : s.Leaving := Or.inr (by rw [hrun]; nofun)
  refine ⟨fun _ => h.tokens hl, fun _ => Or.inl rfl, fun hended => ⟨(h.ended hended).1, rfl⟩,
    h.asked, h.refresh, fun run' hrun' => ?_⟩
  cases hrun'
  exact h.ending run hrun

/-- The end is over, and the sign-outs that waited for it know. -/
theorem Kept.endSettled (h : Kept s) {run : EndRun} (hrun : s.ending = some run)
    (hphase : run.phase = .settled) :
    Kept { s with ending := none, tasks := s.tasks.map SessionTask.ended } := by
  have hl : s.Leaving := Or.inr (by rw [hrun]; nofun)
  have hstate : s.state = .signedOut := by
    rcases h.state hl with hout | ⟨run', hrun', hgoing⟩
    · exact hout
    · rw [hrun] at hrun'
      cases hrun'
      exact absurd hphase hgoing
  refine ⟨fun _ => h.tokens hl, fun _ => Or.inl hstate, fun hended => ⟨?_, hstate⟩,
    fun hasked => ?_, h.refresh, nofun⟩
  · rcases hended with hleft | hmem
    · exact (h.ended (Or.inl hleft)).1
    · obtain ⟨t, hmem, ht⟩ := List.mem_map.mp hmem
      cases t <;> cases ht
      · exact h.asked hmem
      · exact (h.ended (Or.inr hmem)).1
  · obtain ⟨t, hmem, ht⟩ := List.mem_map.mp hasked
    cases t <;> cases ht

/-- A sign-out completes. -/
theorem Kept.completed (h : Kept s) (hmem : .signOutLogout ∈ s.tasks) :
    Kept { s.dropTask .signOutLogout with left := true } := by
  have hdropped := h.dropTask .signOutLogout
  exact ⟨hdropped.tokens, hdropped.state, fun _ => h.ended (Or.inr hmem), hdropped.asked,
    hdropped.refresh, hdropped.ending⟩

/-- **One step.** -/
theorem Kept.step (h : Kept s) {a : SessionAction} (ha : s.InTime platform a)
    (hs : s.step platform a = some s') : Kept s' := by
  cases a <;> simp only [ClientSession.step] at hs
  case tick now =>
    split at hs
    · cases hs
      exact ⟨h.tokens, h.state, h.ended, h.asked, h.refresh, h.ending⟩
    · cases hs
  case bootstrap =>
    cases hs
    obtain ⟨hidle, hout⟩ := ha
    rw [ClientSession.bootstrap]
    split
    · exact h
    · have hstarted : Kept { s with state := .unknown, leaving := false, left := false } :=
        h.started hidle hout .unknown
      split
      · exact hstarted.addTask rfl
      · exact hstarted.refreshes.addTask rfl
  case signIn =>
    cases hs
    exact (h.started ha.1 ha.2 s.state).addTask rfl
  case signOut =>
    cases hs
    exact h.asksToSignOut
  case refreshAuthStatus =>
    split at hs
    · cases hs
      exact h.startCall _
    · cases hs
      exact h
  case screenCall stream =>
    cases hs
    exact h.startCall _
  case bootLoaded failed =>
    split at hs
    · cases hs
      rw [ClientSession.bootLoaded]
      split
      · exact (h.dropTask _).refreshes.addTask rfl
      · exact (h.dropTask _).signedOut
    · cases hs
  case bootResumed outcome =>
    split at hs
    · cases hs
      cases outcome with
      | refreshed token => exact (h.dropTask _).startCall _
      | signedOut e => exact h.dropTask _
      | failed e => exact (h.dropTask _).write ha _ s.tokens s.stored
    · cases hs
  case refreshLoaded failed =>
    split at hs
    · rename_i run hrun
      split at hs
      · cases hs
        exact h.inflight hrun _
      · cases hs
    · cases hs
  case refreshAnswered answer =>
    split at hs
    · rename_i run hrun
      split at hs
      · cases hs
        refine h.refreshAnswered hrun fun token htoken => ?_
        subst htoken
        exact ha.1 rfl
      · cases hs
    · cases hs
  case refreshSettled =>
    split at hs
    · split at hs
      · cases hs
        exact h.woken _
      · cases hs
    · cases hs
  case callResumed caller phase =>
    split at hs
    · refine (h.dropTask _).callResumed (fun c request e outcome hc hphase hsets => ?_) hs
      subst hc hphase
      exact ha hsets
    · cases hs
  case callAnswered caller phase answer =>
    split at hs
    · refine (h.dropTask _).callAnswered (fun c hc hsets => ?_) hs
      subst hc
      exact ha hsets
    · cases hs
  case loginAnswered answer =>
    split at hs
    · split at hs
      · cases hs
        exact h.dropTask _
      · cases hs
        exact (h.dropTask _).addTask rfl
      · cases hs
        exact (h.dropTask _).signedIn (ha rfl) _
    · cases hs
  case saved resp failed =>
    split at hs
    · split at hs
      · cases hs
        exact h.dropTask _
      · rename_i hstored
        cases hs
        rw [Bool.or_eq_true, not_or, Bool.not_eq_true] at hstored
        have hfree := ha hstored.1
        exact Kept.signedIn ((h.dropTask _).write hfree s.state s.tokens _) hfree _
    · cases hs
  case signOutReady =>
    split at hs
    · cases hs
      exact (h.dropTask _).signsOut
    · cases hs
  case endCleared failed =>
    split at hs
    · rename_i run hrun
      split at hs
      · cases hs
        exact h.endCleared hrun _
      · cases hs
    · cases hs
  case endNotified =>
    split at hs
    · rename_i run hrun
      split at hs
      · cases hs
        exact h.endNotified hrun
      · cases hs
    · cases hs
  case endSettled =>
    split at hs
    · rename_i run hrun
      split at hs
      · rename_i hphase
        cases hs
        exact h.endSettled hrun hphase
      · cases hs
    · cases hs
  case signOutDone =>
    split at hs
    · rename_i hmem
      cases hs
      exact h.completed hmem
    · cases hs

end Kept

/-! ## Runs -/

/-- A refresh of an earlier session that fails for the moment changes nothing of the session. -/
theorem refreshAnswered_passing {s : ClientSession} {answer : Except RpcError AccessToken}
    {run : RefreshRun} (h : (classifyRefresh answer).passing = true) :
    (s.refreshAnswered answer run).state = s.state ∧
      (s.refreshAnswered answer run).tokens = s.tokens ∧
      (s.refreshAnswered answer run).stored = s.stored := by
  unfold ClientSession.refreshAnswered
  cases houtcome : classifyRefresh answer with
  | failed e => exact ⟨rfl, rfl, rfl⟩
  | refreshed token =>
      rw [houtcome] at h
      cases h
  | signedOut e =>
      rw [houtcome] at h
      cases h

/-- The steps of a refresh of an earlier session, where its answers come in time. -/
theorem Kept.later {platform : SessionPlatform} {s s' : ClientSession} (h : Kept s)
    {a : SessionAction} {n : Nat} (ha : s.InTime platform a) (hs : s.step platform a = some s')
    (hbehind : s.refreshBehind a = some n) (hn : n < s.session) :
    s'.state = s.state ∧ s'.tokens = s.tokens ∧ s'.stored = s.stored := by
  cases a <;> simp only [refreshBehind, reduceCtorEq, Option.map_eq_some_iff,
    Option.filter_eq_some_iff] at hbehind
  case refreshLoaded failed =>
    obtain ⟨run, hrun, rfl⟩ := hbehind
    simp only [ClientSession.step, hrun] at hs
    split at hs
    · cases hs
      exact ⟨rfl, rfl, rfl⟩
    · cases hs
  case refreshAnswered answer =>
    obtain ⟨run, hrun, rfl⟩ := hbehind
    have hearlier : s.refreshesEarlier = true := by
      rw [refreshesEarlier, hrun]
      exact decide_eq_true hn
    simp only [ClientSession.step, hrun] at hs
    split at hs
    · cases hs
      exact refreshAnswered_passing (ha.2 hearlier)
    · cases hs
  case refreshSettled =>
    obtain ⟨run, hrun, rfl⟩ := hbehind
    simp only [ClientSession.step, hrun] at hs
    split at hs
    · cases hs
      exact ⟨rfl, rfl, rfl⟩
    · cases hs
  -- An end in progress is of the session at hand.
  case endCleared | endNotified | endSettled =>
    obtain ⟨run, ⟨hrun, -⟩, rfl⟩ := hbehind
    exact absurd (h.ending run hrun) (Nat.ne_of_lt hn)

end ClientSession

end OcfIms
