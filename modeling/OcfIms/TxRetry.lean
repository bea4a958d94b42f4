import OcfIms.Server

/-!
# The retrying transaction

`store/tx.go` on its own, over the errors as Go builds them. `retryableTxErr` asks `errors.As` for
a driver's error, and between `RunInTx` and the driver stand the wrappers of three packages:
`herr.HTTPError`, `publicError` and `connect.Error`, all of which unwrap to their cause. The loop is
run against a script of what the driver, the body and the context answer at each attempt, and gives
its result together with the end of every attempt it made.
-/

namespace OcfIms

/-! ## Errors and their chains -/

/-- An error value, as far as `errors.As` looks into it. -/
inductive GoError
  /-- `*mysql.MySQLError`, which wraps nothing. -/
  | mysql (number : Nat) (message : String)
  /-- An error with no `Unwrap` method. -/
  | new (text : String)
  /-- `fmt.Errorf` with one `%w`. -/
  | errorf (source : String) (err : GoError)
  /-- `errors.Join`, whose `Unwrap` gives a list. -/
  | joined (errs : List GoError)
  | httpError (code : Nat) (responseMessage : String) (internalErr : GoError)
  | publicError (message : String) (cause : Option GoError)
  | connectError (code : ConnectCode) (err : GoError)

namespace GoError

/-- `errors.Unwrap`. -/
def unwrap : GoError → Option GoError
  | mysql _ _ => none
  | new _ => none
  | errorf _ err => some err
  | joined _ => none
  | httpError _ _ internalErr => some internalErr
  | publicError _ cause => cause
  | connectError _ err => some err

mutual

/-- The number of the first `*mysql.MySQLError` that `errors.As` meets. -/
def asMySQL : GoError → Option Nat
  | mysql number _ => some number
  | new _ => none
  | errorf _ err => err.asMySQL
  | joined errs => asMySQLOf errs
  | httpError _ _ internalErr => internalErr.asMySQL
  | publicError _ none => none
  | publicError _ (some cause) => cause.asMySQL
  | connectError _ err => err.asMySQL

def asMySQLOf : List GoError → Option Nat
  | [] => none
  | err :: errs =>
    match err.asMySQL with
    | some number => some number
    | none => asMySQLOf errs

end

/-- `retryableTxErr`: a deadlock or a lock-wait timeout. -/
def retryableTxErr (err : GoError) : Bool :=
  match err.asMySQL with
  | some number => number = 1213 || number = 1205
  | none => false

/-! ### The constructors the callers use -/

/-- `herr.New`; without a cause the message becomes one. -/
def herrNew (code : Nat) (message : String) (internalErr : Option GoError) : GoError :=
  httpError code message (internalErr.getD (new message))

/-- `HTTPError.From`. -/
def herrFrom (source : String) : GoError → GoError
  | httpError code message internalErr => httpError code message (errorf source internalErr)
  | err => err

/-- `herr.InternalServerError`. -/
def internalServerError (message : String) (cause : GoError) : GoError :=
  herrNew 500 message (some cause)

/-- `server.PublicError`. -/
def newPublicError (code : ConnectCode) (message : String) (cause : Option GoError) : GoError :=
  connectError code (publicError message cause)

/-- `server.InternalError`. -/
def newInternalError (message : String) (cause : GoError) : GoError :=
  newPublicError .internal message (some cause)

/-- `server.HerrToConnect`; anything that is no `HTTPError` never reaches it. -/
def toConnect : GoError → GoError
  | httpError code message internalErr =>
    newPublicError (herrToConnect ⟨code, message, none⟩).code message (some internalErr)
  | err => err

/-! ### Chains -/

/-- `x` is met by unwrapping `e` again and again. -/
inductive InChain : GoError → GoError → Prop
  | here (e : GoError) : InChain e e
  | unwrap {e c x : GoError} (hc : e.unwrap = some c) (hx : InChain c x) : InChain e x

/-- No error in the chain joins several. -/
def JoinsNothing (e : GoError) : Prop := ∀ errs, ¬ InChain e (joined errs)

/-- A deadlock or a lock-wait timeout somewhere in the chain. -/
def ContendedInChain (e : GoError) : Prop :=
  ∃ number message, InChain e (mysql number message) ∧ (number = 1213 ∨ number = 1205)

theorem asMySQL_unwrap {e c : GoError} (hc : e.unwrap = some c) : e.asMySQL = c.asMySQL := by
  cases e with
  | mysql number message => cases hc
  | new text => cases hc
  | joined errs => cases hc
  | errorf source err =>
      cases hc
      rfl
  | httpError code message internalErr =>
      cases hc
      rfl
  | connectError code err =>
      cases hc
      rfl
  | publicError message cause =>
      have hcause : cause = some c := hc
      subst hcause
      rfl

theorem JoinsNothing.unwrap {e c : GoError} (he : e.JoinsNothing) (hc : e.unwrap = some c) :
    c.JoinsNothing :=
  fun errs h => he errs (.unwrap hc h)

/-- A driver's error wraps nothing, so a chain holds at most one, and `errors.As` meets it. -/
theorem asMySQL_of_inChain {e x : GoError} (hx : InChain e x) {number : Nat} {message : String}
    (h : x = mysql number message) : e.asMySQL = some number := by
  induction hx with
  | here e => rw [h, asMySQL]
  | unwrap hc _ ih => rw [asMySQL_unwrap hc, ih h]

/-- Where nothing is joined, what `errors.As` meets is in the chain. -/
theorem inChain_of_asMySQL {number : Nat} : ∀ e : GoError, e.JoinsNothing →
    e.asMySQL = some number → ∃ message, InChain e (mysql number message)
  | mysql _ message, _, hn => by
      cases hn
      exact ⟨message, .here _⟩
  | new _, _, hn => by cases hn
  | joined errs, he, _ => absurd (.here _) (he errs)
  | errorf _ err, he, hn => by
      obtain ⟨message, h⟩ := inChain_of_asMySQL err (he.unwrap rfl) hn
      exact ⟨message, .unwrap rfl h⟩
  | httpError _ _ err, he, hn => by
      obtain ⟨message, h⟩ := inChain_of_asMySQL err (he.unwrap rfl) hn
      exact ⟨message, .unwrap rfl h⟩
  | publicError _ none, _, hn => by cases hn
  | publicError _ (some err), he, hn => by
      obtain ⟨message, h⟩ := inChain_of_asMySQL err (he.unwrap rfl) hn
      exact ⟨message, .unwrap rfl h⟩
  | connectError _ err, he, hn => by
      obtain ⟨message, h⟩ := inChain_of_asMySQL err (he.unwrap rfl) hn
      exact ⟨message, .unwrap rfl h⟩

theorem retryableTxErr_iff_asMySQL {e : GoError} :
    e.retryableTxErr = true ↔ ∃ number, e.asMySQL = some number ∧
      (number = 1213 ∨ number = 1205) := by
  unfold retryableTxErr
  cases e.asMySQL with
  | none => simp
  | some number => simp

theorem retryableTxErr_iff {e : GoError} (he : e.JoinsNothing) :
    e.retryableTxErr = true ↔ e.ContendedInChain := by
  rw [retryableTxErr_iff_asMySQL]
  constructor
  · rintro ⟨number, hn, hcode⟩
    obtain ⟨message, h⟩ := inChain_of_asMySQL e he hn
    exact ⟨number, message, h, hcode⟩
  · rintro ⟨number, message, h, hcode⟩
    exact ⟨number, asMySQL_of_inChain h rfl, hcode⟩

/-- The wrapper hides nothing from the retry test. -/
def SeenThrough (wrap : GoError → GoError) : Prop :=
  ∀ cause, (wrap cause).retryableTxErr = cause.retryableTxErr

theorem SeenThrough.of_asMySQL {wrap : GoError → GoError}
    (h : ∀ cause, (wrap cause).asMySQL = cause.asMySQL) : SeenThrough wrap := by
  intro cause
  unfold retryableTxErr
  rw [h]

theorem SeenThrough.comp {wrap wrap' : GoError → GoError} (h : SeenThrough wrap)
    (h' : SeenThrough wrap') : SeenThrough fun cause => wrap' (wrap cause) :=
  fun cause => (h' (wrap cause)).trans (h cause)

theorem seenThrough_internalServerError (message : String) :
    SeenThrough (internalServerError message) :=
  .of_asMySQL fun _ => rfl

theorem seenThrough_newInternalError (message : String) :
    SeenThrough (newInternalError message) :=
  .of_asMySQL fun _ => rfl

theorem seenThrough_newPublicError (code : ConnectCode) (message : String) :
    SeenThrough fun cause => newPublicError code message (some cause) :=
  .of_asMySQL fun _ => rfl

theorem seenThrough_herrFrom (source : String) : SeenThrough (herrFrom source) := by
  apply SeenThrough.of_asMySQL
  intro cause
  cases cause <;> rfl

theorem seenThrough_toConnect : SeenThrough toConnect := by
  apply SeenThrough.of_asMySQL
  intro cause
  cases cause <;> rfl

end GoError

/-! ## The loop -/

/-- How the wait before a new attempt ends. The context may be done when the timer fires; `select`
then takes either branch. -/
inductive Wait
  | timer (ctxDone : Bool)
  | ctxDone (err : GoError)

def Wait.isTimer : Wait → Bool
  | timer _ => true
  | ctxDone _ => false

/-- What the driver, the body and the context answer at each attempt, counted from 0; `none` is a
nil error. A `Commit` with an error has not committed. -/
structure TxScript where
  wait : Nat → Wait
  beginTx : Nat → Option GoError
  fn : Nat → Option GoError
  commit : Nat → Option GoError

/-- How an attempt ended. -/
inductive AttemptEnd
  | beginFailed (err : GoError)
  | fnFailed (err : GoError)
  | commitFailed (err : GoError)
  | committed

namespace AttemptEnd

def isCommitted : AttemptEnd → Bool
  | committed => true
  | _ => false

/-- The error of an attempt that had begun its transaction. -/
def txErr : AttemptEnd → Option GoError
  | beginFailed _ => none
  | fnFailed err => some err
  | commitFailed err => some err
  | committed => none

/-- The error of an attempt. -/
def err : AttemptEnd → Option GoError
  | beginFailed err => some err
  | fnFailed err => some err
  | commitFailed err => some err
  | committed => none

end AttemptEnd

/-- Attempt `i`; the body's failure is followed by a `Rollback` whose own error is dropped. -/
def TxScript.attempt (s : TxScript) (i : Nat) : AttemptEnd :=
  match s.beginTx i with
  | some err => .beginFailed err
  | none =>
    match s.fn i with
    | some err => .fnFailed err
    | none =>
      match s.commit i with
      | some err => .commitFailed err
      | none => .committed

/-- The error `RunInTx` returned, and the attempts it made. -/
structure TxRun where
  result : Option GoError
  attempts : List AttemptEnd

def TxRun.after (run : TxRun) (e : AttemptEnd) : TxRun := { run with attempts := e :: run.attempts }

/-- The loop with `left` rounds to go, at attempt `i`, where `err` is the error held so far. -/
def TxScript.loop (s : TxScript) : (left i : Nat) → (err : Option GoError) → TxRun
  | 0, _, err => ⟨err, []⟩
  | left + 1, i, _ =>
    match if 0 < i then s.wait i else .timer false with
    | .ctxDone err => ⟨some err, []⟩
    | .timer _ =>
      match s.attempt i with
      | .beginFailed err => ⟨some err, [.beginFailed err]⟩
      | .fnFailed err =>
        if err.retryableTxErr then (s.loop left (i + 1) (some err)).after (.fnFailed err)
        else ⟨some err, [.fnFailed err]⟩
      | .committed => ⟨none, [.committed]⟩
      | .commitFailed err =>
        if err.retryableTxErr then (s.loop left (i + 1) (some err)).after (.commitFailed err)
        else ⟨some err, [.commitFailed err]⟩

def maxTxAttempts : Nat := 4

/-- `RunInTx`. -/
def TxScript.runInTx (s : TxScript) : TxRun := s.loop maxTxAttempts 0 none

/-! ### What one round does -/

/-- The attempt failed inside its transaction, with an error worth another attempt. -/
def AttemptEnd.retries (a : AttemptEnd) : Bool :=
  match a.txErr with
  | some err => err.retryableTxErr
  | none => false

/-- Attempt `i` is not kept from starting by the context. -/
def TxScript.waited (s : TxScript) (i : Nat) : Prop := i = 0 ∨ (s.wait i).isTimer = true

theorem AttemptEnd.retries_iff {a : AttemptEnd} :
    a.retries = true ↔ ∃ err, a.txErr = some err ∧ err.retryableTxErr = true := by
  unfold retries
  cases a.txErr with
  | none => simp
  | some err => simp

theorem AttemptEnd.not_committed_of_retries {a : AttemptEnd} (h : a.retries = true) :
    a.isCommitted = false := by
  cases a with
  | committed => cases h
  | _ => rfl

/-- A round makes no attempt, or one that is final, or one that the rest of the loop follows. -/
inductive RoundOf (s : TxScript) (left i : Nat) (run : TxRun) : Prop
  | ctxDone (hw : ¬ s.waited i) (err : GoError) (h : run = ⟨some err, []⟩)
  | final (hw : s.waited i) (hr : (s.attempt i).retries = false)
      (h : run = ⟨(s.attempt i).err, [s.attempt i]⟩)
  | again (hw : s.waited i) (hr : (s.attempt i).retries = true) (err : GoError)
      (h : run = (s.loop left (i + 1) (some err)).after (s.attempt i))

theorem TxScript.loop_succ (s : TxScript) (left i : Nat) (err₀ : Option GoError) :
    RoundOf s left i (s.loop (left + 1) i err₀) := by
  have hround : ∀ ctxDone, (if 0 < i then s.wait i else .timer false) = Wait.timer ctxDone →
      RoundOf s left i (s.loop (left + 1) i err₀) := by
    intro ctxDone hwait
    have hw : s.waited i := by
      by_cases hi : 0 < i
      · rw [if_pos hi] at hwait
        exact Or.inr (by rw [hwait]; rfl)
      · exact Or.inl (by omega)
    simp only [loop, hwait]
    cases ha : s.attempt i with
    | beginFailed err =>
        apply RoundOf.final hw
        · rw [ha]
          rfl
        · rw [ha]
          rfl
    | committed =>
        apply RoundOf.final hw
        · rw [ha]
          rfl
        · rw [ha]
          rfl
    | fnFailed err =>
        by_cases hretry : err.retryableTxErr = true
        · simp only [if_pos hretry]
          rw [← ha]
          exact .again hw (by rw [ha]; exact hretry) err rfl
        · simp only [if_neg hretry]
          exact .final hw (by rw [ha]; exact Bool.eq_false_iff.mpr hretry) (by rw [ha]; rfl)
    | commitFailed err =>
        by_cases hretry : err.retryableTxErr = true
        · simp only [if_pos hretry]
          rw [← ha]
          exact .again hw (by rw [ha]; exact hretry) err rfl
        · simp only [if_neg hretry]
          exact .final hw (by rw [ha]; exact Bool.eq_false_iff.mpr hretry) (by rw [ha]; rfl)
  cases hwait : if 0 < i then s.wait i else .timer false with
  | timer ctxDone => exact hround ctxDone hwait
  | ctxDone err =>
      by_cases hi : 0 < i
      · refine RoundOf.ctxDone ?_ err ?_
        · rintro (h | h)
          · omega
          · rw [if_pos hi] at hwait
            rw [hwait] at h
            cases h
        · simp only [loop, hwait]
      · rw [if_neg hi] at hwait
        cases hwait

/-! ### What the loop does -/

theorem TxScript.loop_length (s : TxScript) (left : Nat) : ∀ i err,
    (s.loop left i err).attempts.length ≤ left := by
  induction left with
  | zero => exact fun i err => Nat.le_refl 0
  | succ left ih =>
      intro i err
      rcases s.loop_succ left i err with ⟨_, _, h⟩ | ⟨_, _, h⟩ | ⟨_, _, err', h⟩
      · simp [h]
      · simp [h]
      · have := ih (i + 1) (some err')
        rw [h]
        simp only [TxRun.after, List.length_cons]
        omega

theorem TxScript.loop_attempt (s : TxScript) (left : Nat) : ∀ i err j a,
    (s.loop left i err).attempts[j]? = some a → a = s.attempt (i + j) := by
  induction left with
  | zero =>
      intro i err j a h
      simp [loop] at h
  | succ left ih =>
      intro i err j a ha
      rcases s.loop_succ left i err with ⟨_, _, h⟩ | ⟨_, _, h⟩ | ⟨_, _, err', h⟩
      · simp [h] at ha
      · rw [h] at ha
        cases j with
        | zero => simpa using ha.symm
        | succ j => simp at ha
      · rw [h] at ha
        cases j with
        | zero => simpa [TxRun.after] using ha.symm
        | succ j =>
            have := ih (i + 1) (some err') j a (by simpa [TxRun.after] using ha)
            rw [this]
            congr 1
            omega

/-- The first attempt of the rest of the loop is made unless the rounds or the context end it. -/
theorem TxScript.loop_nonempty (s : TxScript) (left i : Nat) (err : Option GoError) :
    0 < (s.loop left i err).attempts.length ↔ 0 < left ∧ s.waited i := by
  cases left with
  | zero => simp [loop]
  | succ left =>
      rcases s.loop_succ left i err with ⟨hw, _, h⟩ | ⟨hw, _, h⟩ | ⟨hw, _, err', h⟩
      · simp [h, hw]
      · simp [h, hw]
      · simp [h, hw, TxRun.after]

theorem TxScript.loop_next (s : TxScript) (left : Nat) : ∀ i err j a,
    (s.loop left i err).attempts[j]? = some a →
      (j + 1 < (s.loop left i err).attempts.length ↔
        j + 1 < left ∧ a.retries = true ∧ s.waited (i + j + 1)) := by
  induction left with
  | zero =>
      intro i err j a h
      simp [loop] at h
  | succ left ih =>
      intro i err j a ha
      rcases s.loop_succ left i err with ⟨_, _, h⟩ | ⟨_, hr, h⟩ | ⟨_, hr, err', h⟩
      · simp [h] at ha
      · rw [h] at ha ⊢
        cases j with
        | zero =>
            have hattempt : s.attempt i = a := by simpa using ha
            rw [hattempt] at hr
            simp [hr]
        | succ j => simp at ha
      · rw [h] at ha ⊢
        simp only [TxRun.after, List.length_cons, Nat.add_lt_add_iff_right]
        cases j with
        | zero =>
            have hattempt : s.attempt i = a := by simpa [TxRun.after] using ha
            rw [hattempt] at hr
            rw [s.loop_nonempty]
            simp [hr]
        | succ j =>
            have hidx : i + (j + 1) + 1 = i + 1 + j + 1 := by omega
            rw [hidx]
            exact ih (i + 1) (some err') j a (by simpa [TxRun.after] using ha)

/-- A nil result comes from a commit, the one the loop ends with; an error from none at all. -/
theorem TxScript.loop_committed (s : TxScript) (left : Nat) : ∀ i err, (0 < left ∨ err ≠ none) →
    let run := s.loop left i err
    (run.result = none ∧ run.attempts.countP AttemptEnd.isCommitted = 1 ∧
        run.attempts.getLast? = some .committed) ∨
      (run.result ≠ none ∧ run.attempts.countP AttemptEnd.isCommitted = 0) := by
  induction left with
  | zero =>
      intro i err hstart
      rcases hstart with h | h
      · omega
      · exact Or.inr ⟨h, rfl⟩
  | succ left ih =>
      intro i err _
      rcases s.loop_succ left i err with ⟨_, _, h⟩ | ⟨_, _, h⟩ | ⟨_, hr, err', h⟩
      · rw [h]
        exact Or.inr ⟨fun hnone => (by cases hnone), rfl⟩
      · rw [h]
        cases ha : s.attempt i with
        | committed => exact Or.inl ⟨rfl, rfl, rfl⟩
        | _ => exact Or.inr ⟨fun hnone => (by cases hnone), rfl⟩
      · have hnot := AttemptEnd.not_committed_of_retries hr
        rw [h]
        rcases ih (i + 1) (some err') (Or.inr (by simp)) with ⟨hres, hcount, hlast⟩ | ⟨hres, hcount⟩
        · refine Or.inl ⟨hres, ?_, ?_⟩
          · simpa [TxRun.after, hnot] using hcount
          · simp only [TxRun.after, List.getLast?_cons]
            rw [hlast]
            rfl
        · refine Or.inr ⟨hres, ?_⟩
          simpa [TxRun.after, hnot] using hcount

/-! ## The transaction's promise -/

section Promise

open GoError

/-- The four promises of `RunInTx`: a nil error stands for one commit, the last thing it did; an
error for no commit; there are at most four attempts; and another one follows exactly where the
body or the commit lost to another transaction, rounds are left and the wait ran to its end. The
retry test is a walk of the chain, which the wrappers of the callers leave visible. -/
theorem runInTx_commits_once (s : TxScript) :
    let run := s.runInTx
    (run.result = none ↔
        run.attempts.countP AttemptEnd.isCommitted = 1 ∧
          run.attempts.getLast? = some .committed) ∧
      (run.result ≠ none → run.attempts.countP AttemptEnd.isCommitted = 0) ∧
      run.attempts.length ≤ maxTxAttempts ∧
      (∀ j a, run.attempts[j]? = some a →
        a = s.attempt j ∧
          (j + 1 < run.attempts.length ↔
            (∃ err, a.txErr = some err ∧ err.retryableTxErr = true) ∧
              j + 1 < maxTxAttempts ∧ (s.wait (j + 1)).isTimer = true)) ∧
      (∀ err : GoError, err.JoinsNothing → (err.retryableTxErr = true ↔ err.ContendedInChain)) ∧
      (∀ code message source source',
        SeenThrough (newInternalError message) ∧
          SeenThrough (fun cause => newPublicError code message (some cause)) ∧
          SeenThrough (fun cause => herrFrom source (internalServerError message cause)) ∧
          SeenThrough (fun cause =>
            herrFrom source' (herrFrom source (internalServerError message cause))) ∧
          SeenThrough (fun cause =>
            toConnect (herrFrom source (internalServerError message cause)))) := by
  intro run
  have hcommitted := s.loop_committed maxTxAttempts 0 none (Or.inl (by decide))
  refine ⟨?_, ?_, s.loop_length _ _ _, ?_, fun _ => retryableTxErr_iff, ?_⟩
  · rcases hcommitted with ⟨hres, hcount, hlast⟩ | ⟨hres, hcount⟩
    · exact ⟨fun _ => ⟨hcount, hlast⟩, fun _ => hres⟩
    · constructor
      · exact fun h => absurd h hres
      · rintro ⟨hone, _⟩
        have hzero : run.attempts.countP AttemptEnd.isCommitted = 0 := hcount
        omega
  · intro hres
    rcases hcommitted with ⟨hnone, _⟩ | ⟨_, hcount⟩
    · exact absurd hnone hres
    · exact hcount
  · intro j a ha
    have hattempt := s.loop_attempt _ _ _ j a ha
    have hnext := s.loop_next _ _ _ j a ha
    rw [Nat.zero_add] at hattempt hnext
    refine ⟨hattempt, hnext.trans ?_⟩
    have hwaited : s.waited (j + 1) ↔ (s.wait (j + 1)).isTimer = true := by
      simp [TxScript.waited]
    rw [hwaited, AttemptEnd.retries_iff]
    tauto
  · intro code message source source'
    have hherr : SeenThrough fun cause => herrFrom source (internalServerError message cause) :=
      (seenThrough_internalServerError message).comp (seenThrough_herrFrom source)
    exact ⟨seenThrough_newInternalError message, seenThrough_newPublicError code message, hherr,
      hherr.comp (seenThrough_herrFrom source'), hherr.comp seenThrough_toConnect⟩

/-- A deadlock that `BeginTx` itself reports is returned at once. -/
def beginDeadlocks : TxScript where
  wait := fun _ => .timer false
  beginTx := fun i => if i = 0 then some (.mysql 1213 "Deadlock found") else none
  fn := fun _ => none
  commit := fun _ => none

theorem runInTx_begin_not_retried : ¬ ∀ (s : TxScript) (j : Nat) (a : AttemptEnd),
    s.runInTx.attempts[j]? = some a →
      (j + 1 < s.runInTx.attempts.length ↔
        (∃ err, a.err = some err ∧ err.ContendedInChain) ∧
          j + 1 < maxTxAttempts ∧ (s.wait (j + 1)).isTimer = true) := by
  intro h
  have hcontended : ContendedInChain (.mysql 1213 "Deadlock found") :=
    ⟨1213, _, .here _, Or.inl rfl⟩
  have hagain := (h beginDeadlocks 0 (.beginFailed (.mysql 1213 "Deadlock found")) rfl).mpr
    ⟨⟨_, rfl, hcontended⟩, by decide, rfl⟩
  exact absurd hagain (by decide)

end Promise

/-! ## The services' own errors

The services' programs carry the driver's error beside the text they answer with, and decide a
retry from it; that is the walk of the chain those errors stand for. -/

def SqlErr.goError : SqlErr → GoError
  | .noRows => .new "sql: no rows in result set"
  | .txDone => .new "sql: transaction has already been committed or rolled back"
  | .scan => .new "sql: Scan error"
  | .mysql number => .mysql number ""

def HTTPError.goError (e : HTTPError) : GoError :=
  .herrNew e.code e.responseMessage (e.internalErr.map SqlErr.goError)

def CausedError.goError (e : CausedError) : GoError :=
  .newPublicError e.wire.code e.wire.message (e.cause.map SqlErr.goError)

theorem SqlErr.retryable_goError (e : SqlErr) :
    e.goError.retryableTxErr = (e = .mysql 1213 || e = .mysql 1205) := by
  cases e with
  | mysql number => simp [goError, GoError.retryableTxErr, GoError.asMySQL]
  | _ => rfl

theorem HTTPError.retryable_goError (e : HTTPError) :
    OcfIms.retryableTxErr e = e.goError.retryableTxErr := by
  rcases e with ⟨code, message, _ | cause⟩
  · rfl
  · have hchain : (HTTPError.goError ⟨code, message, some cause⟩).retryableTxErr =
        cause.goError.retryableTxErr := rfl
    rw [hchain, cause.retryable_goError]
    simp [OcfIms.retryableTxErr]

theorem CausedError.retryable_goError (e : CausedError) :
    e.retryable = e.goError.retryableTxErr := by
  rcases e with ⟨wire, _ | cause⟩
  · rfl
  · have hchain : (CausedError.goError ⟨wire, some cause⟩).retryableTxErr =
        cause.goError.retryableTxErr := rfl
    rw [hchain, cause.retryable_goError]
    simp [CausedError.retryable]

end OcfIms
