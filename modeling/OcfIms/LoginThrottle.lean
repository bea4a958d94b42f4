import OcfIms.AuthLogin
import OcfIms.LibRun

/-!
# Throttling by account

Every failed login of an account is to count against the account, however its email was spelled.
Login finds the account by case folding, but it counts under the lower-cased email, and the two
agree only where folding and lower-casing do: the long s folds with s and is lower case already.

An observer of one account counts the verifications that failed against it since the last success,
the last lapse of a lockout or the last reset. As long as all spellings of the account's email share
one key, the limiter's entry for that key follows the observer's count, and the count never passes
the ceiling.
-/

namespace OcfIms

open TxnLib RunLib

/-! ## One account under observation -/

inductive Verdict
  | failed
  | succeeded
  deriving DecidableEq, Repr

/-- What an answer says about the password, if it was verified at all. A success whose tokens cannot
be signed is one. -/
def verdict : Except LoginError LoginResponse → Option Verdict
  | .ok _ => some .succeeded
  | .error e =>
    if e = badCredentialsError then some .failed
    else if e = createAccessTokenError ∨ e = createRefreshTokenError then some .succeeded
    else none

/-- A call of `Login`, with what the directory answers it and the clock it reads. -/
structure LoginCall where
  users : Except SqlErr (List DirectoryUser)
  req : LoginRequest
  clientIP : String
  clock : LoginClock

/-- Every reading of the clock is as late as the one before it. -/
def LoginClock.From (start : Int) (t : LoginClock) : Prop :=
  start ≤ t.allowIP ∧ t.allowIP ≤ t.allowID ∧ t.allowID ≤ t.failIP ∧ t.failIP ≤ t.failID

instance (start : Int) (t : LoginClock) : Decidable (t.From start) :=
  inferInstanceAs (Decidable (_ ∧ _ ∧ _ ∧ _))

/-- The account the call signs in to. -/
def LoginCall.account (u : UnicodeTables) (c : LoginCall) : Option DirectoryUser :=
  match c.users with
  | .ok users => matchUser u users c.req.email
  | .error _ => none

def LoginCall.answer (s : AuthService) (c : LoginCall) (attempts : Attempts) :
    Except LoginError LoginResponse × Attempts :=
  login s c.users c.req c.clientIP c.clock attempts

/-- The streak after one more verification against the account. -/
def Streak.after (cfg : LoginRateLimiterConfig) (now : Int) (streak : Streak) :
    Option Verdict → Streak
  | some .failed => streak.failed cfg now
  | some .succeeded => { streak with count := 0 }
  | none => streak

/-- The limiter, the clock, and what the observer of one account has counted. -/
structure LoginState where
  attempts : Attempts := .empty
  clock : Int
  streak : Streak := {}

/-- One `Login` call, observed on behalf of the account `p`. -/
def LoginState.step (s : AuthService) (cfg : LoginRateLimiterConfig) (p : DirectoryUser)
    (st : LoginState) (c : LoginCall) : Option LoginState :=
  if c.clock.From st.clock then
    let r := c.answer s st.attempts
    some
      { attempts := r.2
        clock := c.clock.failID
        streak := if c.account s.unicode = some p then
            st.streak.after cfg c.clock.failID (verdict r.1)
          else st.streak }
  else none

/-- The call is for the account `p` wherever the directory answers, or it counts under another key
than the account's email. -/
def LoginCall.AccountOnly (u : UnicodeTables) (p : DirectoryUser) (c : LoginCall) : Prop :=
  (∀ users, c.users = .ok users → matchUser u users c.req.email = some p) ∨
    idKey u c.req.email ≠ idKey u p.email

/-- Throttling is by account: all spellings that sign in to `p` count under one key; and in every
sequence of logins to `p`, among any that count elsewhere, at most `maxFailures` verifications fail
before the answer is that the attempt is throttled, until the lockout passes or the streak is reset. -/
def ThrottlesByAccount (s : AuthService) (cfg : LoginRateLimiterConfig) (p : DirectoryUser) : Prop :=
  (∀ users users' email email', matchUser s.unicode users email = some p →
    matchUser s.unicode users' email' = some p → idKey s.unicode email = idKey s.unicode email') ∧
  ∀ start calls st, zeroTime < start → (∀ c ∈ calls, c.AccountOnly s.unicode p) →
    Run (LoginState.step s cfg p) { clock := start } calls st →
    st.streak.count ≤ cfg.maxFailures ∧
    ∀ c : LoginCall, c.account s.unicode = some p → c.clock.From st.clock →
      st.streak.count = cfg.maxFailures → c.clock.allowID < st.streak.last + cfg.lockout →
      ∃ wait, (c.answer s st.attempts).1 = .error (loginThrottledError wait)

/-- Folding and lower-casing agree on the account's email: whatever folds with one of its characters
is lower-cased to the same. -/
def FoldsAsItLowers (u : UnicodeTables) (email : String) : Prop :=
  ∀ c ∈ email.toList, ∀ d, u.fold d = u.fold c → u.toLower d = u.toLower c

/-! ## Spellings and keys -/

section Keys

variable {u : UnicodeTables} {p : DirectoryUser} {users : List DirectoryUser} {email : String}

theorem ipKey_ne_idKey (clientIP : String) : ipKey clientIP ≠ idKey u email := by
  intro h
  have hlist := congrArg String.toList h
  simp [ipKey, idKey] at hlist

theorem equalFold_of_matchUser (h : matchUser u users email = some p) :
    p.email.toList.map u.fold = email.toList.map u.fold := by
  have hp := List.find?_some h
  rw [Bool.and_eq_true] at hp
  exact beq_iff_eq.mp hp.2

theorem lower_eq_of_fold : ∀ {l m : List Char}, (∀ c ∈ l, ∀ d, u.fold d = u.fold c →
    u.toLower d = u.toLower c) → l.map u.fold = m.map u.fold → m.map u.toLower = l.map u.toLower
  | [], m, _, h => by
      cases m with
      | nil => rfl
      | cons d m => cases h
  | c :: l, m, hfold, h => by
      cases m with
      | nil => cases h
      | cons d m =>
          rw [List.map_cons, List.map_cons, List.cons.injEq] at h
          rw [List.map_cons, List.map_cons, hfold c List.mem_cons_self d h.1.symm,
            lower_eq_of_fold (fun c hc => hfold c (List.mem_cons_of_mem _ hc)) h.2]

theorem idKey_of_matchUser (hfold : FoldsAsItLowers u p.email)
    (h : matchUser u users email = some p) : idKey u email = idKey u p.email := by
  rw [idKey, idKey, UnicodeTables.lower, UnicodeTables.lower,
    lower_eq_of_fold hfold (equalFold_of_matchUser h)]

/-- If the two disagree on a character, another spelling of the email has another key. -/
theorem exists_spelling (h : ¬ FoldsAsItLowers u p.email) : ∃ email,
    matchUser u [p] p.email = some p ∧ matchUser u [p] email = some p ∧
      idKey u email ≠ idKey u p.email := by
  simp only [FoldsAsItLowers, not_forall] at h
  obtain ⟨c, hc, d, hfold, hlower⟩ := h
  obtain ⟨l, m, hsplit⟩ := List.append_of_mem hc
  have hmatch : ∀ email, email.toList.map u.fold = p.email.toList.map u.fold →
      matchUser u [p] email = some p := by
    intro email hemail
    have hnonempty : p.email ≠ "" := by
      intro hempty
      rw [hempty] at hc
      cases hc
    simp [matchUser, UnicodeTables.equalFold, hnonempty, hemail]
  refine ⟨String.ofList (l ++ d :: m), hmatch _ rfl, hmatch _ ?_, fun hkey => hlower ?_⟩
  · rw [hsplit]
    simp [hfold]
  · have hlist := congrArg String.toList hkey
    simpa [idKey, UnicodeTables.lower, hsplit] using hlist

end Keys

/-! ## One call -/

section Calls

variable {s : AuthService} {cfg : LoginRateLimiterConfig} {streak : Streak} {attempts : Attempts}
  {start : Int} {t : LoginClock} {key : String}

theorem verdict_throttled (wait : Int) : verdict (.error (loginThrottledError wait)) = none := by
  simp [verdict, loginThrottledError, badCredentialsError, createAccessTokenError,
    createRefreshTokenError]

theorem verdict_longPassword :
    verdict (.error { error := ⟨.invalidArgument, "rejected very long password"⟩ }) = none := by
  decide

theorem verdict_invalidStored : verdict (.error { error := ⟨.internal,
    "invalid stored password (get in touch with the " ++ "tech team)"⟩ }) = none := by
  decide

theorem verdict_mintTokens (req : LoginRequest) (matched : DirectoryUser) :
    verdict (mintTokens s req matched t) = some .succeeded := by
  have haccess : verdict (.error createAccessTokenError) = some .succeeded := by decide
  have hrefresh : verdict (.error createRefreshTokenError) = some .succeeded := by decide
  rw [mintTokens]
  split
  · exact haccess
  · dsimp only
    split
    · exact hrefresh
    · split <;> rfl

theorem throttleLogin_of_some {attempts' : Attempts} {ip id : String} {wait : Int}
    (hs : s.loginLimiter = some cfg)
    (hallow : cfg.allow ip t.allowIP attempts = (some wait, attempts')) :
    throttleLogin s ip id t attempts = (some wait, attempts') := by
  rw [throttleLogin, hs]
  dsimp only
  rw [hallow]

theorem throttleLogin_of_none {attempts' : Attempts} {ip id : String}
    (hs : s.loginLimiter = some cfg) (hallow : cfg.allow ip t.allowIP attempts = (none, attempts')) :
    throttleLogin s ip id t attempts = cfg.allow id t.allowID attempts' := by
  rw [throttleLogin, hs]
  dsimp only
  rw [hallow]

/-- The check on the address leaves the account's key as it was. -/
theorem tracks_allow_of_ne {ip : String} (hip : ip ≠ key) (ht : t.From start)
    (h : streak.Tracks cfg start (attempts.find? key)) :
    streak.Tracks cfg t.allowID ((cfg.allow ip t.allowIP attempts).2.find? key) := by
  rw [Streak.find?_allow_of_ne hip.symm]
  exact h.mono (Int.le_trans ht.1 ht.2.1)

/-- The two checks at the start of a call. -/
theorem tracks_throttleLogin (hcfg : cfg.Throttles) (hs : s.loginLimiter = some cfg)
    {ip : String} (hip : ip ≠ key) (id : String) (ht : t.From start)
    (h : streak.Tracks cfg start (attempts.find? key)) :
    streak.Tracks cfg t.allowID ((throttleLogin s ip id t attempts).2.find? key) ∧
      ((throttleLogin s ip id t attempts).1 = none → id = key →
        (throttleLogin s ip id t attempts).2.find? key = none ∨ streak.count < cfg.maxFailures) := by
  have hentry := tracks_allow_of_ne hip ht h
  generalize hallow : cfg.allow ip t.allowIP attempts = r at hentry
  obtain ⟨_ | wait, attempts'⟩ := r
  · rw [throttleLogin_of_none hs hallow]
    by_cases hid : id = key
    · subst hid
      exact ⟨(hentry.allow hcfg).1, fun hpass _ => (hentry.allow hcfg).2 hpass⟩
    · refine ⟨?_, fun _ heq => absurd heq hid⟩
      rw [Streak.find?_allow_of_ne (Ne.symm hid)]
      exact hentry
  · rw [throttleLogin_of_some hs hallow]
    exact ⟨hentry, fun hpass => absurd hpass (Option.some_ne_none wait)⟩

/-- At the ceiling a call is refused by one of the two checks. -/
theorem throttleLogin_refuses (hcfg : cfg.Throttles) (hs : s.loginLimiter = some cfg)
    {ip : String} (hip : ip ≠ key) (ht : t.From start)
    (h : streak.Tracks cfg start (attempts.find? key)) (hceiling : cfg.maxFailures ≤ streak.count)
    (hlocked : t.allowID < streak.last + cfg.lockout) :
    ∃ wait attempts', throttleLogin s ip key t attempts = (some wait, attempts') := by
  have hentry := tracks_allow_of_ne hip ht h
  generalize hallow : cfg.allow ip t.allowIP attempts = r at hentry
  obtain ⟨_ | wait, attempts'⟩ := r
  · have hrefused := hentry.refused hcfg hceiling hlocked
    obtain ⟨wait, hwait⟩ := Option.ne_none_iff_exists'.mp hrefused
    rw [throttleLogin_of_none hs hallow]
    exact ⟨wait, (cfg.allow key t.allowID attempts').2, Prod.ext hwait rfl⟩
  · exact ⟨wait, attempts', throttleLogin_of_some hs hallow⟩

/-- A recorded failure, on the account's key or on others. -/
theorem tracks_recordLoginFailure (hcfg : cfg.Throttles) (hs : s.loginLimiter = some cfg)
    {ip : String} (hip : ip ≠ key) (hstart : zeroTime < start) (ht : t.From start)
    (h : streak.Tracks cfg t.allowID (attempts.find? key))
    (hpass : attempts.find? key = none ∨ streak.count < cfg.maxFailures) :
    (streak.failed cfg t.failID).Tracks cfg t.failID
      ((recordLoginFailure s ip key t attempts).find? key) := by
  obtain ⟨hfrom, hallow, hfail, hlater⟩ := ht
  have hentry := (h.mono hfail).recordFailure_of_ne hip.symm
  rw [recordLoginFailure, hs]
  refine (hentry.mono hlater).recordFailure hcfg (by omega) (hpass.imp_left fun hnone => ?_)
  rw [LoginRateLimiterConfig.recordFailure, hcfg.1]
  simp only [Bool.not_true, Bool.false_eq_true, if_false, Table.find?_put, if_neg hip.symm]
  split
  · rw [LoginRateLimiterConfig.pruneLocked, Table.find?_filter, hnone, Option.filter_none]
  · exact hnone

theorem tracks_recordLoginFailure_of_ne (hs : s.loginLimiter = some cfg) {ip id : String}
    (hip : ip ≠ key) (hid : id ≠ key) (ht : t.From start)
    (h : streak.Tracks cfg t.allowID (attempts.find? key)) :
    streak.Tracks cfg t.failID ((recordLoginFailure s ip id t attempts).find? key) := by
  obtain ⟨-, -, hfail, hlater⟩ := ht
  rw [recordLoginFailure, hs]
  exact (((h.mono hfail).recordFailure_of_ne hip.symm).mono hlater).recordFailure_of_ne hid.symm

theorem tracks_recordLoginSuccess_of_ne (hs : s.loginLimiter = some cfg) {ip id : String}
    (hip : ip ≠ key) (hid : id ≠ key) {now : Int} (h : streak.Tracks cfg now (attempts.find? key)) :
    streak.Tracks cfg now ((recordLoginSuccess s ip id attempts).find? key) := by
  rw [recordLoginSuccess, hs]
  exact (h.recordSuccess_of_ne hip.symm).recordSuccess_of_ne hid.symm

/-- **One call.** The limiter's entry for the account's key and the observer's streak stay
together. -/
theorem tracks_answer (hcfg : cfg.Throttles) (hs : s.loginLimiter = some cfg) {p : DirectoryUser}
    (hfold : FoldsAsItLowers s.unicode p.email) {c : LoginCall}
    (hc : c.AccountOnly s.unicode p) (hstart : zeroTime < start) (ht : c.clock.From start)
    (h : streak.Tracks cfg start (attempts.find? (idKey s.unicode p.email))) :
    (if c.account s.unicode = some p then
        streak.after cfg c.clock.failID (verdict (c.answer s attempts).1)
      else streak).Tracks cfg c.clock.failID
        ((c.answer s attempts).2.find? (idKey s.unicode p.email)) := by
  obtain ⟨users, req, clientIP, t⟩ := c
  obtain ⟨hentry, hpass⟩ := tracks_throttleLogin hcfg hs (ipKey_ne_idKey clientIP)
    (idKey s.unicode req.email) ht h
  have hlater : ∀ {o}, streak.Tracks cfg t.allowID o → streak.Tracks cfg t.failID o :=
    fun h => h.mono (Int.le_trans ht.2.2.1 ht.2.2.2)
  have hnone : ∀ {answer}, verdict answer = none → ∀ attempts' : Attempts,
      streak.Tracks cfg t.allowID (attempts'.find? (idKey s.unicode p.email)) →
      (if (LoginCall.mk users req clientIP t).account s.unicode = some p then
        streak.after cfg t.failID (verdict answer) else streak).Tracks cfg t.failID
          (attempts'.find? (idKey s.unicode p.email)) := by
    intro answer hv attempts' h'
    rw [hv]
    split <;> exact hlater h'
  dsimp only [LoginCall.answer, login]
  generalize throttleLogin s (ipKey clientIP) (idKey s.unicode req.email) t attempts = r
    at hentry hpass
  obtain ⟨_ | wait, attempts'⟩ := r
  · cases users with
    | error e => exact hlater hentry
    | ok users =>
        dsimp only
        by_cases hlong : maxLoginPasswordLen < req.password.utf8ByteSize
        · rw [if_pos hlong]
          exact hnone verdict_longPassword _ hentry
        · rw [if_neg hlong]
          cases hmatch : matchUser s.unicode users req.email with
          | none =>
              have hother : idKey s.unicode req.email ≠ idKey s.unicode p.email :=
                hc.resolve_left fun hp => by rw [hp users rfl] at hmatch; cases hmatch
              have haccount : (LoginCall.mk (.ok users) req clientIP t).account s.unicode = none :=
                hmatch
              rw [haccount, if_neg (Option.some_ne_none p).symm]
              exact tracks_recordLoginFailure_of_ne hs (ipKey_ne_idKey clientIP) hother ht hentry
          | some matched =>
              have haccount : (LoginCall.mk (.ok users) req clientIP t).account s.unicode =
                some matched := hmatch
              dsimp only
              by_cases hp : matched = p
              · subst hp
                have hkey := idKey_of_matchUser hfold hmatch
                rw [hkey] at hpass ⊢
                cases verify s req.password matched.password with
                | error e => exact hnone verdict_invalidStored _ hentry
                | ok correct =>
                    rw [haccount, if_pos rfl]
                    cases correct with
                    | false =>
                        exact tracks_recordLoginFailure hcfg hs (ipKey_ne_idKey clientIP) hstart ht hentry
                          (hpass rfl rfl)
                    | true =>
                        rw [verdict_mintTokens, recordLoginSuccess, hs]
                        exact Streak.tracks_recordSuccess hcfg
              · have hother : idKey s.unicode req.email ≠ idKey s.unicode p.email :=
                  hc.resolve_left fun hall => by
                    rw [hall users rfl] at hmatch
                    exact hp (Option.some.inj hmatch).symm
                rw [haccount, if_neg fun h => hp (Option.some.inj h)]
                cases verify s req.password matched.password with
                | error e => exact hlater hentry
                | ok correct =>
                    cases correct with
                    | false =>
                        exact tracks_recordLoginFailure_of_ne hs (ipKey_ne_idKey clientIP) hother ht hentry
                    | true =>
                        exact tracks_recordLoginSuccess_of_ne hs (ipKey_ne_idKey clientIP) hother
                          (hlater hentry)
  · exact hnone (verdict_throttled wait) _ hentry

end Calls

/-! ## Runs -/

section Runs

variable {s : AuthService} {cfg : LoginRateLimiterConfig} {p : DirectoryUser} {start : Int}
  {calls : List LoginCall} {st : LoginState}

theorem tracks_of_loginRun (hcfg : cfg.Throttles) (hs : s.loginLimiter = some cfg)
    (hfold : FoldsAsItLowers s.unicode p.email) (hstart : zeroTime < start)
    (hr : Run (LoginState.step s cfg p) { clock := start } calls st) :
    (∀ c ∈ calls, c.AccountOnly s.unicode p) → zeroTime < st.clock ∧
      st.streak.Tracks cfg st.clock (st.attempts.find? (idKey s.unicode p.email)) := by
  refine hr.invariant (I := fun calls st => (∀ c ∈ calls, c.AccountOnly s.unicode p) →
    zeroTime < st.clock ∧
      st.streak.Tracks cfg st.clock (st.attempts.find? (idKey s.unicode p.email))) ?_ ?_
  · exact fun _ => ⟨hstart, Int.le_of_lt hcfg.2.1, .inl rfl⟩
  · rintro calls st c st' ih hstep hcalls
    obtain ⟨hclock, htracks⟩ := ih fun c hc => hcalls c (List.mem_append_left _ hc)
    have hc := hcalls c (List.mem_append_right _ List.mem_cons_self)
    rw [LoginState.step] at hstep
    split at hstep
    · rename_i ht
      cases hstep
      refine ⟨?_, tracks_answer hcfg hs hfold hc hclock ht htracks⟩
      obtain ⟨hfrom, hallow, hfail, hlater⟩ := ht
      dsimp only
      omega
    · cases hstep

/-- Throttling is by account exactly where folding and lower-casing agree on the account's email. -/
theorem throttlesByAccount_iff (s : AuthService) (cfg : LoginRateLimiterConfig)
    (hs : s.loginLimiter = some cfg) (hcfg : cfg.Throttles) (p : DirectoryUser) :
    ThrottlesByAccount s cfg p ↔ FoldsAsItLowers s.unicode p.email := by
  constructor
  · intro h
    by_contra hfold
    obtain ⟨email, hmatch, hmatch', hkey⟩ := exists_spelling hfold
    exact hkey (h.1 [p] [p] email p.email hmatch' hmatch)
  · intro hfold
    refine ⟨fun users users' email email' h h' => ?_, fun start calls st hstart hcalls hr => ?_⟩
    · exact (idKey_of_matchUser hfold h).trans (idKey_of_matchUser hfold h').symm
    · obtain ⟨hclock, htracks⟩ := tracks_of_loginRun hcfg hs hfold hstart hr hcalls
      refine ⟨htracks.count_le, fun c hc ht hcount hlocked => ?_⟩
      obtain ⟨users, req, clientIP, t⟩ := c
      cases users with
      | error e => cases hc
      | ok users =>
          have hkey := idKey_of_matchUser hfold hc
          obtain ⟨wait, attempts', hrefused⟩ := throttleLogin_refuses hcfg hs
            (ipKey_ne_idKey clientIP) ht htracks (Int.le_of_eq hcount.symm) hlocked
          refine ⟨wait, ?_⟩
          simp only [LoginCall.answer, login, hkey, hrefused]

end Runs

/-! ## The long s -/

/-- The case tables on ASCII, the long s and the Kelvin sign. The long s folds with s but is lower
case itself; the Kelvin sign folds with k and is lower-cased to it. -/
def latinTables : UnicodeTables where
  fold c := if c = 'ſ' then 's' else if c = '\u212a' then 'k' else c.toLower
  toLower c := if c = '\u212a' then 'k' else c.toLower

/-- A server with the default limiter whose hashes are the passwords. -/
def latinAuth : AuthService where
  unicode := latinTables
  comparePasswordAndHash password hash := .ok (hash == "$argon2id$" ++ password)
  jwt := { signedString := fun _ claims => .ok claims.subject
           parseWithClaims := fun _ _ _ => .error "token is malformed" }
  jwtSecret := "secret"
  accessTokenDuration := 3600 * second
  refreshTokenDuration := 86400 * second
  loginLimiter := some (defaultLoginRateLimiterConfig true)

def sue : DirectoryUser :=
  { id := 7, handle := "Sue", email := "sue@fair.org", password := "$argon2id$correct horse" }

/-- A guess every twenty seconds, from another address each time, with the email spelled in two ways
by turns. -/
def alternateGuesses (n : Nat) : List LoginCall :=
  (List.range n).map fun i =>
    let moment : Int := second * (20 * i + 1)
    { users := .ok [sue]
      req := { email := if i % 2 = 0 then "sue@fair.org" else "ſue@fair.org", password := "guess" }
      clientIP := toString i
      clock := { allowIP := moment, allowID := moment, failIP := moment, failID := moment } }

/-- Nine verifications fail, none of them throttled, with a ceiling of eight. -/
theorem not_throttlesByAccount_longS :
    ¬ ThrottlesByAccount latinAuth (defaultLoginRateLimiterConfig true) sue ∧
    ∃ st, (∀ c ∈ alternateGuesses 9, c.AccountOnly latinTables sue) ∧
      Run (LoginState.step latinAuth (defaultLoginRateLimiterConfig true) sue) { clock := 0 }
        (alternateGuesses 9) st ∧ st.streak.count = 9 := by
  have hspell : ∀ email, matchUser latinTables [sue] email = some sue →
      ∀ users, (.ok [sue] : Except SqlErr (List DirectoryUser)) = .ok users →
        matchUser latinTables users email = some sue := by
    rintro email h users ⟨⟩
    exact h
  have hcalls : ∀ c ∈ alternateGuesses 9, c.AccountOnly latinTables sue := by
    intro c hc
    obtain ⟨i, -, rfl⟩ := List.mem_map.mp hc
    refine .inl (hspell _ ?_)
    dsimp only
    split <;> decide
  have hrun : (RunLib.exec (LoginState.step latinAuth (defaultLoginRateLimiterConfig true) sue)
      { clock := 0 } (alternateGuesses 9)).map (·.streak.count) = some 9 := by decide
  obtain ⟨st, hst, hcount⟩ := Option.map_eq_some_iff.mp hrun
  refine ⟨fun h => ?_, st, hcalls, run_of_exec hst, hcount⟩
  have hbound := (h.2 0 (alternateGuesses 9) st (by decide) hcalls (run_of_exec hst)).1
  rw [hcount] at hbound
  exact absurd hbound (by decide)

def bo : DirectoryUser := { sue with email := "bo@fair.org" }

/-- No letter of this email folds with anything that lower-cases differently. -/
theorem throttlesByAccount_iff_bo :
    ThrottlesByAccount latinAuth (defaultLoginRateLimiterConfig true) bo := by
  refine (throttlesByAccount_iff latinAuth _ rfl
    LoginRateLimiterConfig.throttles_default bo).mpr fun c hc d hd => ?_
  have hplain : ∀ c ∈ bo.email.toList, latinTables.fold c ≠ 's' ∧ latinTables.fold c ≠ 'k' ∧
      latinTables.fold c = latinTables.toLower c := by simp [latinTables, bo]
  obtain ⟨hs, hk, hc⟩ := hplain c hc
  change latinTables.fold d = latinTables.fold c at hd
  change latinTables.toLower d = latinTables.toLower c
  rw [← hc, ← hd]
  rw [← hd] at hs hk
  simp only [latinTables] at hs hk ⊢
  split at hs
  · exact absurd rfl hs
  · rename_i hlong
    rw [if_neg hlong]

end OcfIms
