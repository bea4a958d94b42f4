import OcfIms.LoginThrottle

/-!
# The login budget

Calls of `Login` that run side by side. Each asks `Allow` for its address and then for its account,
verifies the password, and records the outcome under both keys; the limiter's lock is held for each
of these alone, so the steps of other calls come in between.

An observer of one key counts the recorded failures of a streak. Calls that overlap can all pass
`Allow` before the first of them is recorded, and then there is no bound on the failures of a
streak. Where `Allow` lets a call pass only while the failures of the streak and the calls under way
are fewer than the ceiling, the streak never passes it.
-/

namespace OcfIms

open TxnLib RunLib

/-- How far a call has come. -/
inductive LoginPhase
  | arrived
  | ipAllowed
  | verifying
  | failed
  | failedIP
  | succeeded
  | succeededIP
  deriving DecidableEq, Repr

/-- The phase after the verification. -/
def Verdict.phase : Verdict → LoginPhase
  | .failed => .failed
  | .succeeded => .succeeded

/-- `RecordFailure` or `RecordSuccess`. -/
def Verdict.record (cfg : LoginRateLimiterConfig) (key : String) (now : Int) (attempts : Attempts) :
    Verdict → Attempts
  | .failed => cfg.recordFailure key now attempts
  | .succeeded => cfg.recordSuccess key attempts

structure LoginAttempt where
  clientIP : String
  email : String
  phase : LoginPhase := .arrived
  deriving DecidableEq, Repr

namespace LoginAttempt

variable (u : UnicodeTables) (c : LoginAttempt)

/-- The key that the call asks `Allow` for next, and how far it is if it may proceed. -/
def asks : Option (String × LoginPhase) :=
  match c.phase with
  | .arrived => some (ipKey c.clientIP, .ipAllowed)
  | .ipAllowed => some (idKey u c.email, .verifying)
  | _ => none

/-- The outcome that the call records next, under which key, and what is left of the call. -/
def records : Option (Verdict × String × Option LoginPhase) :=
  match c.phase with
  | .failed => some (.failed, ipKey c.clientIP, some .failedIP)
  | .failedIP => some (.failed, idKey u c.email, none)
  | .succeeded => some (.succeeded, ipKey c.clientIP, some .succeededIP)
  | .succeededIP => some (.succeeded, idKey u c.email, none)
  | _ => none

/-- The call has been let pass for the key, and has not recorded its outcome under it. -/
def underway (key : String) : Bool :=
  match c.phase with
  | .arrived => false
  | .ipAllowed => key == ipKey c.clientIP
  | .verifying | .failed | .succeeded => key == ipKey c.clientIP || key == idKey u c.email
  | .failedIP | .succeededIP => key == idKey u c.email

/-- The verification has failed, which is not recorded under the key yet. -/
def failing (key : String) : Bool :=
  match c.phase with
  | .failed | .failedIP => c.underway u key
  | _ => false

theorem underway_of_failing {key : String} (h : c.failing u key = true) :
    c.underway u key = true := by
  unfold failing at h
  split at h <;> first | exact h | cases h

end LoginAttempt

/-- A step of one of the calls. -/
inductive LoginStep
  | arrive (clientIP email : String)
  | allow (c : LoginAttempt) (now : Int)
  /-- The password has been verified, or the call ends without a verification. -/
  | verified (c : LoginAttempt) (outcome : Option Verdict)
  | record (c : LoginAttempt) (now : Int)
  deriving DecidableEq, Repr

/-- The limiter, the calls that have not ended, and what the observer of one key has counted. -/
structure BudgetState where
  attempts : Attempts := .empty
  clock : Int
  calls : List LoginAttempt := []
  streak : Streak := {}
  deriving DecidableEq

namespace BudgetState

variable (u : UnicodeTables) (cfg : LoginRateLimiterConfig) (key : String) (st : BudgetState)

/-- The call has come further, or has ended. -/
def moved (c : LoginAttempt) : Option LoginPhase → List LoginAttempt
  | some phase => { c with phase } :: st.calls.erase c
  | none => st.calls.erase c

/-- One step of one call, observed on behalf of the key. -/
def step : LoginStep → Option BudgetState
  | .arrive clientIP email => some { st with calls := { clientIP, email } :: st.calls }
  | .allow c now =>
    match c.asks u with
    | some (asked, phase) =>
      if c ∈ st.calls ∧ st.clock ≤ now then
        let r := cfg.allow asked now st.attempts
        let left := if r.1 = none then some phase else none
        some { st with attempts := r.2, clock := now, calls := st.moved c left }
      else none
    | none => none
  | .verified c outcome =>
    if c ∈ st.calls ∧ c.phase = .verifying then
      some { st with calls := st.moved c (outcome.map Verdict.phase) }
    else none
  | .record c now =>
    match c.records u with
    | some (outcome, recorded, left) =>
      if c ∈ st.calls ∧ st.clock ≤ now then
        some
          { attempts := outcome.record cfg recorded now st.attempts
            clock := now
            calls := st.moved c left
            streak := if recorded = key then st.streak.after cfg now (some outcome) else st.streak }
      else none
    | none => none

/-- The calls that have been let pass for the key and whose outcome is not recorded yet. -/
def underway : Nat := st.calls.countP (·.underway u key)

/-- The verifications that have failed and whose failure is not recorded under the key yet. -/
def failing : Nat := st.calls.countP (·.failing u key)

/-- The failures of the streak, if it is not over. -/
def spent (now : Int) : Int := if st.streak.Lapsed cfg now then 0 else st.streak.count

/-- A call is let pass for the key only while the failures of the streak and the calls under way are
fewer than the ceiling. -/
def Roomy : LoginStep → Prop
  | .allow c now => (c.asks u).map Prod.fst = some key →
      (cfg.allow key now st.attempts).1 = none →
      st.spent cfg now + st.underway u key < cfg.maxFailures
  | _ => True

instance : ∀ a, Decidable (st.Roomy u cfg key a)
  | .allow _ _ => inferInstanceAs (Decidable (_ → _ → _))
  | .arrive _ _ | .verified _ _ | .record _ _ => inferInstanceAs (Decidable True)

/-- The budget of the key is kept: no more verifications have failed in the streak than the ceiling
allows, recorded or not, nor have more been started that may still fail in it; and at the ceiling
every call is refused until the lockout has passed. -/
structure InBudget : Prop where
  failures : st.streak.count ≤ cfg.maxFailures
  failed : st.spent cfg st.clock + st.failing u key ≤ cfg.maxFailures
  started : st.spent cfg st.clock + st.underway u key ≤ cfg.maxFailures
  lockout : ∀ now, st.clock ≤ now → st.streak.count = cfg.maxFailures →
    now < st.streak.last + cfg.lockout → (cfg.allow key now st.attempts).1 ≠ none

end BudgetState

/-! ## The calls under way -/

section Underway

variable {u : UnicodeTables} {asked : String} {c : LoginAttempt} {phase : LoginPhase}
  {left : Option LoginPhase} {outcome : Verdict} {st : BudgetState} (key : String)

open BudgetState

/-- A call of the list counts for one or for none. -/
theorem countP_moved (u : UnicodeTables) (hc : c ∈ st.calls) (left : Option LoginPhase) :
    (st.moved c left).countP (·.underway u key) + (if c.underway u key then 1 else 0) =
      st.underway u key +
        (if left.any fun phase => ({ c with phase } : LoginAttempt).underway u key then 1
          else 0) := by
  have herase : (st.calls.erase c).countP (·.underway u key) + (if c.underway u key then 1 else 0) =
      st.underway u key := by
    rw [BudgetState.underway, (List.perm_cons_erase hc).countP_eq, List.countP_cons]
  cases left with
  | none => exact herase
  | some phase =>
      rw [moved, List.countP_cons, Option.any_some]
      omega

/-- A call that `Allow` lets pass for the key is under way for it from then on. -/
theorem underway_asks (h : c.asks u = some (asked, phase)) :
    ({ c with phase } : LoginAttempt).underway u key = (c.underway u key || key == asked) ∧
      (asked = key → c.underway u key = false) := by
  obtain ⟨clientIP, email, at'⟩ := c
  have hne : ipKey clientIP ≠ idKey u email := ipKey_ne_idKey clientIP
  cases at' <;> cases h <;>
    simp only [LoginAttempt.underway, Bool.false_or, true_and, implies_true]
  rintro rfl
  exact beq_eq_false_iff_ne.mpr hne.symm

/-- A call that records its outcome under the key is no longer under way for it. -/
theorem underway_records (h : c.records u = some (outcome, asked, left)) :
    c.underway u key =
      ((left.any fun phase => ({ c with phase } : LoginAttempt).underway u key) || key == asked) ∧
      (asked = key → left.any (fun phase => ({ c with phase } : LoginAttempt).underway u key)
        = false) := by
  obtain ⟨clientIP, email, at'⟩ := c
  have hne : ipKey clientIP ≠ idKey u email := ipKey_ne_idKey clientIP
  cases at' <;> cases h <;>
    simp only [LoginAttempt.underway, Option.any_some, Option.any_none, Bool.false_or, true_and,
      implies_true, Bool.or_comm]
  all_goals
    rintro rfl
    exact beq_eq_false_iff_ne.mpr hne

/-- The password is verified between the two. -/
theorem underway_verified (u : UnicodeTables) (h : c.phase = .verifying) (outcome : Verdict) :
    ({ c with phase := outcome.phase } : LoginAttempt).underway u key = c.underway u key := by
  obtain ⟨clientIP, email, at'⟩ := c
  cases h
  cases outcome <;> rfl

end Underway

/-! ## The failures an entry holds -/

/-- The failures recorded in an entry. -/
def recordedIn (entry : Option AttemptState) : Int :=
  match entry with
  | some st => st.failures
  | none => 0

section Recorded

variable {cfg : LoginRateLimiterConfig} {streak : Streak} {attempts : Attempts} {key key' : String}
  {now : Int} {entry : Option AttemptState}

theorem Streak.Tracks.recordedIn_nonneg (h : streak.Tracks cfg now entry) :
    0 ≤ recordedIn entry := by
  cases entry with
  | none => exact Int.le_refl 0
  | some st =>
      obtain ⟨hpos, -, -, hfailures, -⟩ := h
      change 0 ≤ st.failures
      omega

/-- An entry is all that is left of a streak that is not over. -/
theorem Streak.Tracks.recordedIn_eq (h : streak.Tracks cfg now entry)
    (hgoing : ¬ streak.Lapsed cfg now) : recordedIn entry = streak.count := by
  cases entry with
  | none => exact absurd h.2 hgoing
  | some st => exact h.2.2.2.1

theorem find?_allow_or (cfg : LoginRateLimiterConfig) (key' : String) (now : Int)
    (attempts : Attempts) (key : String) :
    (cfg.allow key' now attempts).2.find? key = attempts.find? key ∨
      (cfg.allow key' now attempts).2.find? key = none := by
  by_cases hkey : key = key'
  · subst hkey
    rw [LoginRateLimiterConfig.allow]
    split
    · exact Or.inl rfl
    · split
      · exact Or.inl rfl
      · split
        · exact Or.inl rfl
        · split
          · exact Or.inr (by rw [Table.find?_erase, if_pos rfl])
          · dsimp only
            split <;> exact Or.inl rfl
  · exact Or.inl (Streak.find?_allow_of_ne hkey)

theorem find?_pruneLocked_or (key : String) :
    (cfg.pruneLocked now attempts).find? key = attempts.find? key ∨
      (cfg.pruneLocked now attempts).find? key = none := by
  rw [LoginRateLimiterConfig.pruneLocked, Table.find?_filter]
  cases attempts.find? key with
  | none => exact Or.inl rfl
  | some st =>
      rw [Option.filter_some]
      split
      · exact Or.inl rfl
      · exact Or.inr rfl

theorem find?_recordFailure_of_ne (cfg : LoginRateLimiterConfig) (now : Int) (attempts : Attempts)
    (hne : key ≠ key') :
    (cfg.recordFailure key' now attempts).find? key = attempts.find? key ∨
      (cfg.recordFailure key' now attempts).find? key = none := by
  rw [LoginRateLimiterConfig.recordFailure]
  split
  · exact Or.inl rfl
  · rw [Table.find?_put, if_neg hne]
    split
    · exact find?_pruneLocked_or key
    · exact Or.inl rfl

/-- What `Allow` lets pass has a streak that is over and forgotten, or one below the ceiling. -/
theorem Streak.Tracks.recordedIn_allow (hcfg : cfg.Throttles)
    (h : streak.Tracks cfg now (attempts.find? key))
    (hpass : (cfg.allow key now attempts).1 = none) :
    recordedIn ((cfg.allow key now attempts).2.find? key) ≤
      if streak.Lapsed cfg now then 0 else streak.count := by
  have hafter := (h.allow hcfg).1
  split
  · rename_i hlapsed
    have hforgotten : (cfg.allow key now attempts).2.find? key = none := by
      cases hentry : attempts.find? key with
      | none =>
          rcases find?_allow_or cfg key now attempts key with heq | hnone
          · rw [heq, hentry]
          · exact hnone
      | some st =>
          rw [hentry] at h
          obtain ⟨hpos, hle, hlast, -, hfailed, hlocked⟩ := h
          have hlockout := hcfg.2.2
          simp only [LoginRateLimiterConfig.allow, hcfg.1, hentry, Bool.not_true,
            Bool.false_eq_true, if_false] at hpass ⊢
          unfold Streak.Lapsed at hlapsed
          by_cases hwait : now < st.lockedUntil
          · rw [if_pos hwait] at hpass
            cases hpass
          · have hstale : (!isZero st.lockedUntil || cfg.resetWindow < now - st.lastFailure) =
                true := by
              rw [Bool.or_eq_true, Bool.not_eq_true', Bool.eq_false_iff, ne_eq, Streak.isZero_iff,
                decide_eq_true_eq]
              split at hlocked <;> omega
            rw [if_neg hwait, if_pos hstale, Table.find?_erase, if_pos rfl]
    rw [hforgotten]
    exact Int.le_refl 0
  · rename_i hgoing
    rw [hafter.recordedIn_eq hgoing]

/-- A failure adds one to what is recorded, at most. -/
theorem Streak.Tracks.recordedIn_failed (hcfg : cfg.Throttles) (hnow : zeroTime < now)
    (h : streak.Tracks cfg now (attempts.find? key))
    (hpass : attempts.find? key = none ∨ streak.count < cfg.maxFailures) :
    recordedIn ((cfg.recordFailure key now attempts).find? key) ≤
      recordedIn (attempts.find? key) + 1 := by
  have hafter := h.recordFailure hcfg hnow hpass
  have hbefore := h.recordedIn_nonneg
  cases hentry : (cfg.recordFailure key now attempts).find? key with
  | none => exact Int.le_trans hbefore (by omega)
  | some st =>
      rw [hentry] at hafter
      obtain ⟨-, -, -, hfailures, -⟩ := hafter
      change st.failures ≤ _
      rw [hfailures, Streak.failed]
      split
      · dsimp only
        omega
      · rename_i hgoing
        rw [h.recordedIn_eq hgoing]

end Recorded

/-! ## One step -/

section Steps

variable {u : UnicodeTables} {cfg : LoginRateLimiterConfig} {key : String} {st st' : BudgetState}
  {a : LoginStep}

/-- What the limiter and the calls under way keep together. -/
structure Budgeted (u : UnicodeTables) (cfg : LoginRateLimiterConfig) (key : String)
    (st : BudgetState) : Prop where
  clock : zeroTime < st.clock
  tracks : st.streak.Tracks cfg st.clock (st.attempts.find? key)
  room : recordedIn (st.attempts.find? key) + st.underway u key ≤ cfg.maxFailures

theorem Budgeted.arrive (h : Budgeted u cfg key st) (clientIP email : String) :
    Budgeted u cfg key { st with calls := { clientIP, email } :: st.calls } :=
  ⟨h.clock, h.tracks, h.room⟩

/-- `Allow`, for the key or for another. -/
theorem Budgeted.allow (hcfg : cfg.Throttles) (h : Budgeted u cfg key st) {c : LoginAttempt}
    {now : Int} {asked : String} {phase : LoginPhase} (hasks : c.asks u = some (asked, phase))
    (hc : c ∈ st.calls) (hnow : st.clock ≤ now) (hroomy : st.Roomy u cfg key (.allow c now)) :
    Budgeted u cfg key { st with
      attempts := (cfg.allow asked now st.attempts).2
      clock := now
      calls := st.moved c (if (cfg.allow asked now st.attempts).1 = none then some phase
        else none) } := by
  obtain ⟨hclock, htracks, hroom⟩ := h
  obtain ⟨hpassed, hbefore⟩ := underway_asks key hasks
  have hmoved := countP_moved key u hc
    (if (cfg.allow asked now st.attempts).1 = none then some phase else none)
  have hlater := htracks.mono hnow
  by_cases hkey : asked = key
  · subst hkey
    refine ⟨Int.lt_of_lt_of_le hclock hnow, (hlater.allow hcfg).1, ?_⟩
    rw [BudgetState.underway]
    dsimp only
    rw [hbefore rfl, if_neg Bool.false_ne_true] at hmoved
    by_cases hpass : (cfg.allow asked now st.attempts).1 = none
    · have hspent := hlater.recordedIn_allow hcfg hpass
      have hfree : st.spent cfg now + st.underway u asked < cfg.maxFailures :=
        hroomy (by rw [hasks]; rfl) hpass
      rw [if_pos hpass, Option.any_some, hpassed, beq_self_eq_true, Bool.or_true, if_pos rfl]
        at hmoved
      rw [if_pos hpass]
      unfold BudgetState.spent at hfree
      omega
    · rw [if_neg hpass, Option.any_none, if_neg Bool.false_ne_true] at hmoved
      rw [if_neg hpass]
      have hnonneg := hlater.recordedIn_nonneg
      rcases find?_allow_or cfg asked now st.attempts asked with heq | hnone
      · rw [heq]
        omega
      · rw [hnone]
        change (0 : Int) + _ ≤ _
        omega
  · have hother : (cfg.allow asked now st.attempts).2.find? key = st.attempts.find? key :=
      Streak.find?_allow_of_ne (Ne.symm hkey)
    have hne : (key == asked) = false := beq_eq_false_iff_ne.mpr (Ne.symm hkey)
    refine ⟨Int.lt_of_lt_of_le hclock hnow, by rw [hother]; exact hlater, ?_⟩
    rw [hother, BudgetState.underway]
    dsimp only
    rw [hne, Bool.or_false] at hpassed
    split at hmoved
    · rw [Option.any_some, hpassed] at hmoved
      rename_i hpass
      rw [if_pos hpass]
      omega
    · rename_i hpass
      rw [Option.any_none, if_neg Bool.false_ne_true] at hmoved
      rw [if_neg hpass]
      omega

theorem Budgeted.verified (h : Budgeted u cfg key st) {c : LoginAttempt} (hc : c ∈ st.calls)
    (hphase : c.phase = .verifying) (outcome : Option Verdict) :
    Budgeted u cfg key { st with calls := st.moved c (outcome.map Verdict.phase) } := by
  obtain ⟨hclock, htracks, hroom⟩ := h
  refine ⟨hclock, htracks, ?_⟩
  cases outcome with
  | none =>
      have hmoved := countP_moved key u hc none
      rw [Option.any_none, if_neg Bool.false_ne_true] at hmoved
      rw [BudgetState.underway]
      dsimp only [Option.map_none]
      omega
  | some verdict =>
      have hsame := underway_verified key u hphase verdict
      have hmoved := countP_moved key u hc (some verdict.phase)
      rw [Option.any_some, hsame] at hmoved
      rw [BudgetState.underway]
      dsimp only [Option.map_some]
      omega

/-- A recorded outcome, under the key or another. -/
theorem Budgeted.record (hcfg : cfg.Throttles) (h : Budgeted u cfg key st) {c : LoginAttempt}
    {now : Int} {outcome : Verdict} {recorded : String} {left : Option LoginPhase}
    (hrecords : c.records u = some (outcome, recorded, left)) (hc : c ∈ st.calls)
    (hnow : st.clock ≤ now) :
    Budgeted u cfg key
      { attempts := outcome.record cfg recorded now st.attempts
        clock := now
        calls := st.moved c left
        streak := if recorded = key then st.streak.after cfg now (some outcome)
          else st.streak } := by
  obtain ⟨hclock, htracks, hroom⟩ := h
  obtain ⟨hbefore, hafter⟩ := underway_records key hrecords
  have hmoved := countP_moved key u hc left
  have hlater := htracks.mono hnow
  have hzero : zeroTime < now := Int.lt_of_lt_of_le hclock hnow
  have hnonneg := hlater.recordedIn_nonneg
  by_cases hkey : recorded = key
  · subst hkey
    rw [hbefore, hafter rfl, beq_self_eq_true, Bool.or_true, if_pos rfl,
      if_neg Bool.false_ne_true] at hmoved
    rw [if_pos rfl]
    cases outcome with
    | failed =>
        -- The call itself is under way, so the streak is below the ceiling.
        have hbelow : st.attempts.find? recorded = none ∨ st.streak.count < cfg.maxFailures := by
          cases hentry : st.attempts.find? recorded with
          | none => exact Or.inl rfl
          | some entry =>
              rw [hentry] at hlater hroom
              change entry.failures + _ ≤ _ at hroom
              obtain ⟨-, -, -, hfailures, -⟩ := hlater
              exact Or.inr (by omega)
        have hone := hlater.recordedIn_failed hcfg hzero hbelow
        refine ⟨hzero, hlater.recordFailure hcfg hzero hbelow, ?_⟩
        rw [BudgetState.underway]
        dsimp only [Verdict.record]
        omega
    | succeeded =>
        refine ⟨hzero, Streak.tracks_recordSuccess hcfg, ?_⟩
        have hgone : (cfg.recordSuccess recorded st.attempts).find? recorded = none := by
          rw [LoginRateLimiterConfig.recordSuccess, hcfg.1]
          simp only [Bool.not_true, Bool.false_eq_true, if_false, Table.find?_erase, if_true]
        rw [BudgetState.underway]
        dsimp only [Verdict.record]
        rw [hgone]
        change (0 : Int) + _ ≤ _
        omega
  · have hne : (key == recorded) = false := beq_eq_false_iff_ne.mpr (Ne.symm hkey)
    rw [hbefore, hne, Bool.or_false] at hmoved
    rw [if_neg hkey]
    cases outcome with
    | failed =>
        refine ⟨hzero, hlater.recordFailure_of_ne (Ne.symm hkey), ?_⟩
        rw [BudgetState.underway]
        dsimp only [Verdict.record]
        rcases find?_recordFailure_of_ne cfg now st.attempts (Ne.symm hkey) with heq | hnone
        · rw [heq]
          omega
        · rw [hnone]
          change (0 : Int) + _ ≤ _
          omega
    | succeeded =>
        have hsame : (cfg.recordSuccess recorded st.attempts).find? key =
            st.attempts.find? key := by
          rw [LoginRateLimiterConfig.recordSuccess, hcfg.1]
          simp only [Bool.not_true, Bool.false_eq_true, if_false, Table.find?_erase,
            if_neg (Ne.symm hkey)]
        refine ⟨hzero, hlater.recordSuccess_of_ne (Ne.symm hkey), ?_⟩
        rw [BudgetState.underway]
        dsimp only [Verdict.record]
        rw [hsame]
        omega

theorem Budgeted.step (hcfg : cfg.Throttles) (h : Budgeted u cfg key st)
    (hroomy : st.Roomy u cfg key a) (hs : st.step u cfg key a = some st') :
    Budgeted u cfg key st' := by
  cases a with
  | arrive clientIP email =>
      cases hs
      exact h.arrive clientIP email
  | allow c now =>
      rw [BudgetState.step] at hs
      cases hasks : c.asks u with
      | none =>
          rw [hasks] at hs
          cases hs
      | some r =>
          obtain ⟨asked, phase⟩ := r
          rw [hasks] at hs
          dsimp only at hs
          split at hs
          · rename_i hc
            cases hs
            exact h.allow hcfg hasks hc.1 hc.2 hroomy
          · cases hs
  | verified c outcome =>
      rw [BudgetState.step] at hs
      split at hs
      · rename_i hc
        cases hs
        exact h.verified hc.1 hc.2 outcome
      · cases hs
  | record c now =>
      rw [BudgetState.step] at hs
      cases hrecords : c.records u with
      | none =>
          rw [hrecords] at hs
          cases hs
      | some r =>
          obtain ⟨outcome, recorded, left⟩ := r
          rw [hrecords] at hs
          dsimp only at hs
          split at hs
          · rename_i hc
            cases hs
            exact h.record hcfg hrecords hc.1 hc.2
          · cases hs

/-- The limiter and the observer give the bounds. -/
theorem Budgeted.inBudget (hcfg : cfg.Throttles) (h : Budgeted u cfg key st) :
    st.InBudget u cfg key := by
  obtain ⟨hclock, htracks, hroom⟩ := h
  have hstarted : st.spent cfg st.clock + st.underway u key ≤ cfg.maxFailures := by
    unfold BudgetState.spent
    have hnonneg := htracks.recordedIn_nonneg
    split
    · omega
    · rename_i hgoing
      rw [htracks.recordedIn_eq hgoing] at hroom
      exact hroom
  refine ⟨htracks.count_le, ?_, hstarted, fun now hnow hcount hlocked => ?_⟩
  · have hfewer : st.failing u key ≤ st.underway u key :=
      List.countP_mono_left fun c _ => c.underway_of_failing u
    omega
  · exact (htracks.mono hnow).refused hcfg (Int.le_of_eq hcount.symm) hlocked

end Steps

/-! ## A call of `Login` -/

section Login

variable {s : AuthService} {cfg : LoginRateLimiterConfig} {attempts attempts' : Attempts}

/-- Once it is let pass, a call records the outcome of its verification under both keys. -/
theorem answer_snd (hs : s.loginLimiter = some cfg) (c : LoginCall)
    (hpass : throttleLogin s (ipKey c.clientIP) (idKey s.unicode c.req.email) c.clock attempts =
      (none, attempts')) :
    (c.answer s attempts).2 = (verdict (c.answer s attempts).1).elim attempts' fun outcome =>
      outcome.record cfg (idKey s.unicode c.req.email) c.clock.failID
        (outcome.record cfg (ipKey c.clientIP) c.clock.failIP attempts') := by
  obtain ⟨users, req, clientIP, t⟩ := c
  have hfailed : verdict (.error badCredentialsError) = some .failed := by decide
  simp only [LoginCall.answer, login, hpass]
  cases users with
  | error e =>
      have hfetch : verdict (.error { error := ⟨.internal, "failed to fetch personnel"⟩ }) =
          none := by
        decide
      dsimp only
      rw [hfetch]
      rfl
  | ok users =>
      dsimp only
      split
      · rw [verdict_longPassword]
        rfl
      · split
        · rw [hfailed, recordLoginFailure, hs]
          rfl
        · split
          · rw [verdict_invalidStored]
            rfl
          · rw [hfailed, recordLoginFailure, hs]
            rfl
          · rw [verdict_mintTokens, recordLoginSuccess, hs]
            rfl

/-- A call at the head of the list asks `Allow`, … -/
theorem step_allow_head {u : UnicodeTables} {key asked : String} {st : BudgetState}
    {c : LoginAttempt} {l : List LoginAttempt} {now : Int} {phase : LoginPhase}
    (hcalls : st.calls = c :: l) (hasks : c.asks u = some (asked, phase)) (hnow : st.clock ≤ now) :
    st.step u cfg key (.allow c now) = some { st with
      attempts := (cfg.allow asked now st.attempts).2
      clock := now
      calls := if (cfg.allow asked now st.attempts).1 = none then { c with phase } :: l
        else l } := by
  have hmem : c ∈ st.calls ∧ st.clock ≤ now := ⟨hcalls ▸ List.mem_cons_self, hnow⟩
  rw [BudgetState.step, hasks]
  dsimp only
  rw [if_pos hmem]
  split
  · rw [BudgetState.moved, hcalls, List.erase_cons_head]
  · rw [BudgetState.moved, hcalls, List.erase_cons_head]

/-- … and records its outcome. -/
theorem step_record_head {u : UnicodeTables} {key recorded : String} {st : BudgetState}
    {c : LoginAttempt} {l : List LoginAttempt} {now : Int} {outcome : Verdict}
    {left : Option LoginPhase} (hcalls : st.calls = c :: l)
    (hrecords : c.records u = some (outcome, recorded, left)) (hnow : st.clock ≤ now) :
    st.step u cfg key (.record c now) = some
      { attempts := outcome.record cfg recorded now st.attempts
        clock := now
        calls := (left.map fun phase => { c with phase }).toList ++ l
        streak := if recorded = key then st.streak.after cfg now (some outcome)
          else st.streak } := by
  have hmem : c ∈ st.calls ∧ st.clock ≤ now := ⟨hcalls ▸ List.mem_cons_self, hnow⟩
  rw [BudgetState.step, hrecords]
  dsimp only
  rw [if_pos hmem]
  cases left <;> rw [BudgetState.moved, hcalls, List.erase_cons_head] <;> rfl

/-- The verification of the call at the head. -/
theorem step_verified_head {u : UnicodeTables} {key : String} {st : BudgetState} {c : LoginAttempt}
    {l : List LoginAttempt} (hcalls : st.calls = c :: l) (hphase : c.phase = .verifying)
    (outcome : Option Verdict) :
    st.step u cfg key (.verified c outcome) = some { st with
      calls := (outcome.map fun outcome => { c with phase := outcome.phase }).toList ++ l } := by
  have hmem : c ∈ st.calls ∧ c.phase = .verifying := ⟨hcalls ▸ List.mem_cons_self, hphase⟩
  rw [BudgetState.step, if_pos hmem]
  cases outcome <;>
    simp only [Option.map_none, Option.map_some, BudgetState.moved, hcalls,
      List.erase_cons_head] <;>
    rfl

/-- The outcome of a verification, recorded under both keys. -/
theorem exists_run_record (cfg : LoginRateLimiterConfig) (u : UnicodeTables) (key : String)
    (st : BudgetState) {c : LoginAttempt} {l : List LoginAttempt} {failIP failID : Int}
    (hcalls : st.calls = c :: l)
    (hphase : c.phase = .verifying) (hfail : st.clock ≤ failIP) (hlater : failIP ≤ failID)
    (outcome : Verdict) :
    ∃ as st', Run (BudgetState.step u cfg key) st as st' ∧ st'.calls = l ∧ st'.attempts =
      outcome.record cfg (idKey u c.email) failID
        (outcome.record cfg (ipKey c.clientIP) failIP st.attempts) := by
  obtain ⟨clientIP, email, at'⟩ := c
  have hstep : st.step u cfg key (.verified ⟨clientIP, email, at'⟩ (some outcome)) = some _ :=
    step_verified_head hcalls hphase (some outcome)
  have hverified := Run.start.next hstep
  cases outcome with
  | failed =>
      have hip := hverified.next (step_record_head rfl rfl hfail)
      have hid := hip.next (step_record_head rfl rfl hlater)
      exact ⟨_, _, hid, rfl, rfl⟩
  | succeeded =>
      have hip := hverified.next (step_record_head rfl rfl hfail)
      have hid := hip.next (step_record_head rfl rfl hlater)
      exact ⟨_, _, hid, rfl, rfl⟩

/-- **The steps are those of `Login`.** A call that no other comes between takes them one after the
other, and leaves the limiter as `Login` does. -/
theorem exists_run_answer (hs : s.loginLimiter = some cfg) (key : String) (c : LoginCall)
    (st : BudgetState) (ht : c.clock.From st.clock) :
    ∃ as st', Run (BudgetState.step s.unicode cfg key) st as st' ∧ st'.calls = st.calls ∧
      st'.attempts = (c.answer s st.attempts).2 := by
  obtain ⟨hip, hid, hfail, hlater⟩ := ht
  have harrive : Run (BudgetState.step s.unicode cfg key) st [.arrive c.clientIP c.req.email]
      { st with calls := { clientIP := c.clientIP, email := c.req.email } :: st.calls } :=
    Run.start.next rfl
  have hfirst := harrive.next (step_allow_head rfl rfl hip)
  dsimp only at hfirst
  generalize hip' : cfg.allow (ipKey c.clientIP) c.clock.allowIP st.attempts = r at hfirst
  obtain ⟨_ | wait, attempts₁⟩ := r
  case some =>
    rw [if_neg (Option.some_ne_none wait)] at hfirst
    refine ⟨_, _, hfirst, rfl, ?_⟩
    simp only [LoginCall.answer, login, throttleLogin_of_some hs hip']
  rw [if_pos rfl] at hfirst
  have hthrottle : throttleLogin s (ipKey c.clientIP) (idKey s.unicode c.req.email) c.clock
      st.attempts = cfg.allow (idKey s.unicode c.req.email) c.clock.allowID attempts₁ :=
    throttleLogin_of_none hs hip'
  have hsecond := hfirst.next (step_allow_head rfl rfl hid)
  dsimp only at hsecond
  generalize cfg.allow (idKey s.unicode c.req.email) c.clock.allowID attempts₁ = r
    at hsecond hthrottle
  obtain ⟨_ | wait, attempts₂⟩ := r
  case some =>
    rw [if_neg (Option.some_ne_none wait)] at hsecond
    refine ⟨_, _, hsecond, rfl, ?_⟩
    simp only [LoginCall.answer, login, hthrottle]
  rw [if_pos rfl] at hsecond
  rw [answer_snd hs c hthrottle]
  cases verdict (c.answer s st.attempts).1 with
  | none =>
      have hended := hsecond.next (step_verified_head rfl rfl none)
      exact ⟨_, _, hended, rfl, rfl⟩
  | some outcome =>
      obtain ⟨as, st', hrun, hcalls, hattempts⟩ := exists_run_record cfg s.unicode key
        ⟨attempts₂, c.clock.allowID, ⟨c.clientIP, c.req.email, .verifying⟩ :: st.calls, st.streak⟩
        rfl rfl hfail hlater outcome
      exact ⟨_, st', hsecond.trans hrun, hcalls, hattempts⟩

end Login

/-! ## Runs -/

/-- **The budget of a key.** Any calls of `Login`, interleaved in any way. -/
theorem inBudget_of_run (u : UnicodeTables) (cfg : LoginRateLimiterConfig) (hcfg : cfg.Throttles)
    (key : String) (start : Int) (hstart : zeroTime < start) (as : List LoginStep)
    (st : BudgetState) (h : RunMeeting (BudgetState.step u cfg key) (BudgetState.Roomy u cfg key)
      { clock := start } as st) : st.InBudget u cfg key := by
  have hkept : Budgeted u cfg key st := by
    refine h.invariant (I := fun _ st => Budgeted u cfg key st) ?_ ?_
    · exact ⟨hstart, ⟨Int.le_of_lt hcfg.2.1, Or.inl rfl⟩, Int.le_of_lt hcfg.2.1⟩
    · exact fun _ st a st' hi hroomy hs => hi.step hcfg hroomy hs
  exact hkept.inBudget hcfg

/-- Guesses at one account, each from another address, that all ask `Allow` before the first of them
is recorded. -/
def overlappingGuesses (n : Nat) : List LoginStep :=
  (List.range n).flatMap (fun i =>
    [.arrive (toString i) "sue@fair.org",
      .allow { clientIP := toString i, email := "sue@fair.org" } second,
      .allow { clientIP := toString i, email := "sue@fair.org", phase := .ipAllowed } second]) ++
    (List.range n).flatMap fun i =>
      [.verified { clientIP := toString i, email := "sue@fair.org", phase := .verifying }
          (some .failed),
        .record { clientIP := toString i, email := "sue@fair.org", phase := .failed } (2 * second),
        .record { clientIP := toString i, email := "sue@fair.org", phase := .failedIP }
          (2 * second)]

/-- Eight of them at once are within production's budget, … -/
theorem inBudget_of_run_overlappingGuesses :
    ∃ st : BudgetState, st.streak.count = 8 ∧
      st.InBudget latinTables (defaultLoginRateLimiterConfig true) "id:sue@fair.org" := by
  have hexec : Option.map (fun st : BudgetState => st.streak.count) (RunLib.exec (fun st a =>
      if st.Roomy latinTables (defaultLoginRateLimiterConfig true) "id:sue@fair.org" a
      then st.step latinTables (defaultLoginRateLimiterConfig true) "id:sue@fair.org" a else none)
      { clock := 0 } (overlappingGuesses 8)) = some 8 := by
    decide +kernel
  obtain ⟨st, hst, hcount⟩ := Option.map_eq_some_iff.mp hexec
  exact ⟨st, hcount, inBudget_of_run latinTables _ LoginRateLimiterConfig.throttles_default
    "id:sue@fair.org" 0 (by decide) _ st (runMeeting_of_exec hst)⟩

/-- … and nine of them break it. -/
theorem not_inBudget_overlappingGuesses : ¬ ∀ (u : UnicodeTables) (cfg : LoginRateLimiterConfig)
    (key : String) (start : Int) (as : List LoginStep) (st : BudgetState), cfg.Throttles →
    zeroTime < start → Run (BudgetState.step u cfg key) { clock := start } as st →
    st.InBudget u cfg key := by
  intro hclaim
  have hexec : Option.map (fun st : BudgetState => st.streak.count) (RunLib.exec
      (BudgetState.step latinTables (defaultLoginRateLimiterConfig true) "id:sue@fair.org")
      { clock := 0 } (overlappingGuesses 9)) = some 9 := by
    decide +kernel
  obtain ⟨st, hst, hcount⟩ := Option.map_eq_some_iff.mp hexec
  have hbudget := hclaim _ _ _ 0 _ st LoginRateLimiterConfig.throttles_default (by decide)
    (run_of_exec hst)
  have hceiling : (9 : Int) ≤ 8 := hcount ▸ hbudget.failures
  exact absurd hceiling (by decide)

end OcfIms
