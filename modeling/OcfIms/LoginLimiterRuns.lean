import OcfIms.LoginRateLimiter
import OcfIms.LibRun

/-!
# Runs of the login rate limiter

Any calls of the limiter, on any keys, with a clock that does not run backwards. An observer of one
key counts the failures of a streak, which a success ends, a reset window without a failure, or the
end of a lockout; past the ceiling each failure of the streak locks the key again. The limiter
follows the observer, and its answers are what the observer expects, as long as no failure is
recorded for a locked key whose last one is further back than the reset window: `RecordFailure`
forgets such a streak, and the lockout with it, where `Allow` and the pruning of old entries do not.

A second limiter that never prunes takes the same calls; the two answer alike.
-/

namespace OcfIms

open TxnLib RunLib

/-- A call of the limiter, with the time it reads. -/
inductive LimiterCall
  | allow (key : String) (now : Int)
  | recordFailure (key : String) (now : Int)
  | recordSuccess (key : String) (now : Int)
  deriving DecidableEq, Repr

namespace LimiterCall

def time : LimiterCall → Int
  | .allow _ now => now
  | .recordFailure _ now => now
  | .recordSuccess _ now => now

/-- The entries after the call. -/
def run (cfg : LoginRateLimiterConfig) : LimiterCall → Attempts → Attempts
  | .allow key now, attempts => (cfg.allow key now attempts).2
  | .recordFailure key now, attempts => cfg.recordFailure key now attempts
  | .recordSuccess key _, attempts => cfg.recordSuccess key attempts

/-- The call records a failure of the key. -/
def Fails (key : String) : LimiterCall → Prop
  | .recordFailure key' _ => key' = key
  | _ => False

end LimiterCall

namespace LoginRateLimiterConfig

variable (cfg : LoginRateLimiterConfig)

/-- The limiter is on and every limit of its policy is positive. -/
structure Positive : Prop where
  enabled : cfg.enabled = true
  maxFailures : 0 < cfg.maxFailures
  lockout : 0 < cfg.lockout
  backoffThresh : 0 < cfg.backoffThresh
  backoffBase : 0 < cfg.backoffBase
  backoffMax : 0 < cfg.backoffMax
  resetWindow : 0 < cfg.resetWindow

/-- `RecordFailure` without the pruning. -/
def recordFailureUnpruned (key : String) (now : Int) (attempts : Attempts) : Attempts :=
  if !cfg.enabled then attempts
  else attempts.put key (cfg.failedState now ((attempts.find? key).getD {}))

end LoginRateLimiterConfig

/-- The entries of a limiter that never prunes. -/
def LimiterCall.runUnpruned (cfg : LoginRateLimiterConfig) : LimiterCall → Attempts → Attempts
  | .recordFailure key now, attempts => cfg.recordFailureUnpruned key now attempts
  | c, attempts => c.run cfg attempts

/-! ## The observer of a key -/

namespace Streak

variable (cfg : LoginRateLimiterConfig) (s : Streak)

/-- A failure that comes now is the first of a new streak: nothing has failed yet, the key has been
idle for longer than the reset window while it was not locked, or its lockout is over. -/
def Over (now : Int) : Prop :=
  s.count = 0 ∨
    (cfg.resetWindow < now - s.last ∧ (s.count < cfg.maxFailures ∨ s.last + cfg.lockout ≤ now)) ∨
    (cfg.maxFailures ≤ s.count ∧ s.last + cfg.lockout < now)

instance (now : Int) : Decidable (s.Over cfg now) := inferInstanceAs (Decidable (_ ∨ _ ∨ _))

/-- The streak after a call; an `Allow` that finds the lockout over ends it. -/
def observe (key : String) : LimiterCall → Streak
  | .allow key' now =>
    if key' = key ∧ cfg.maxFailures ≤ s.count ∧ s.last + cfg.lockout ≤ now then
      { s with count := 0 }
    else s
  | .recordFailure key' now =>
    if key' = key then if s.Over cfg now then ⟨1, now⟩ else ⟨s.count + 1, now⟩ else s
  | .recordSuccess key' _ => if key' = key then { s with count := 0 } else s

/-- How long the last failure of the streak holds the key up. -/
def delay : Int :=
  if cfg.maxFailures ≤ s.count then cfg.lockout
  else if cfg.backoffThresh ≤ s.count then cfg.backoffFor s.count
  else 0

/-- An attempt at this time is held up: the streak is not over and its delay has not passed. -/
def HoldsUp (now : Int) : Prop := ¬ s.Over cfg now ∧ now < s.last + s.delay cfg

/-- The limiter's entry for the key says what the observer has counted; past the ceiling it need not
know by how much. -/
def Follows (now : Int) : Option AttemptState → Prop
  | none => s.Over cfg now
  | some st => 0 < s.count ∧ zeroTime < s.last ∧ s.last ≤ now ∧ st.lastFailure = s.last ∧
      (s.count < cfg.maxFailures → st.failures = s.count ∧ st.lockedUntil = zeroTime) ∧
      (cfg.maxFailures ≤ s.count → cfg.maxFailures ≤ st.failures ∧
        st.lockedUntil = s.last + cfg.lockout)

end Streak

/-! ## The limiter follows the observer -/

section Follows

open Streak

variable {cfg : LoginRateLimiterConfig} {s : Streak} {now later : Int} {key : String}
  {entry : Option AttemptState} {attempts : Attempts}

theorem Streak.Over.mono (h : s.Over cfg now) (hl : now ≤ later) : s.Over cfg later := by
  unfold Over at *
  omega

theorem Streak.Follows.mono (h : s.Follows cfg now entry) (hl : now ≤ later) :
    s.Follows cfg later entry := by
  cases entry with
  | none => exact Streak.Over.mono h hl
  | some st =>
      obtain ⟨hpos, hlast, hle, hrest⟩ := h
      exact ⟨hpos, hlast, Int.le_trans hle hl, hrest⟩

/-- `Allow` for a key that is not locked. -/
theorem allow_of_unlocked {st : AttemptState} (hon : cfg.enabled = true) (hnow : zeroTime < now)
    (hentry : attempts.find? key = some st) (hlocked : st.lockedUntil = zeroTime) :
    cfg.allow key now attempts =
      if cfg.resetWindow < now - st.lastFailure then (none, attempts.erase key)
      else if cfg.backoffThresh ≤ st.failures ∧
          0 < st.lastFailure + cfg.backoffFor st.failures - now then
        (some (st.lastFailure + cfg.backoffFor st.failures - now), attempts)
      else (none, attempts) := by
  have hzero : isZero st.lockedUntil = true := isZero_iff.mpr hlocked
  have hpassed : ¬ now < st.lockedUntil := by omega
  simp only [LoginRateLimiterConfig.allow, hon, hentry, hzero, hpassed, Bool.not_true,
    Bool.false_eq_true, Bool.false_or, decide_eq_true_eq, if_false]

/-- `Allow` for a key that is or was locked. -/
theorem allow_of_locked {st : AttemptState} (hon : cfg.enabled = true)
    (hentry : attempts.find? key = some st) (hlocked : zeroTime < st.lockedUntil) :
    cfg.allow key now attempts =
      if now < st.lockedUntil then (some (st.lockedUntil - now), attempts)
      else (none, attempts.erase key) := by
  have hset : isZero st.lockedUntil = false := by
    rw [Bool.eq_false_iff, ne_eq, isZero_iff]
    omega
  simp only [LoginRateLimiterConfig.allow, hon, hentry, hset, Bool.not_true, Bool.false_eq_true,
    Bool.not_false, Bool.true_or, if_true, if_false]

/-- What `Allow` answers for the key is what the observer expects. -/
theorem Streak.Follows.allow_eq_some (hcfg : cfg.Positive) (hnow : zeroTime < now)
    (h : s.Follows cfg now (attempts.find? key)) (wait : Int) :
    (cfg.allow key now attempts).1 = some wait ↔
      s.HoldsUp cfg now ∧ wait = s.last + s.delay cfg - now := by
  have hlockout := hcfg.lockout
  cases hentry : attempts.find? key with
  | none =>
      rw [hentry] at h
      simp only [LoginRateLimiterConfig.allow, hcfg.enabled, hentry, Bool.not_true,
        Bool.false_eq_true, if_false, reduceCtorEq, false_iff]
      exact fun hheld => hheld.1.1 h
  | some st =>
      rw [hentry] at h
      obtain ⟨hpos, hlast, hle, hfailed, hbelow, hceiling⟩ := h
      rcases Int.lt_or_le s.count cfg.maxFailures with hcount | hcount
      · obtain ⟨hfailures, hlocked⟩ := hbelow hcount
        rw [allow_of_unlocked hcfg.enabled hnow hentry hlocked, hfailed, hfailures]
        unfold HoldsUp Over delay
        rw [if_neg (by omega : ¬ cfg.maxFailures ≤ s.count)]
        by_cases hidle : cfg.resetWindow < now - s.last
        · rw [if_pos hidle]
          simp only [reduceCtorEq, false_iff]
          omega
        · rw [if_neg hidle]
          by_cases hthresh : cfg.backoffThresh ≤ s.count
          · rw [if_pos hthresh]
            split
            · simp only [Option.some.injEq]
              omega
            · simp only [reduceCtorEq, false_iff]
              omega
          · rw [if_neg hthresh, if_neg (fun hc => hthresh hc.1)]
            simp only [reduceCtorEq, false_iff]
            omega
      · obtain ⟨-, hlocked⟩ := hceiling hcount
        rw [allow_of_locked hcfg.enabled hentry (by omega), hlocked]
        unfold HoldsUp Over delay
        rw [if_pos hcount]
        split
        · simp only [Option.some.injEq]
          omega
        · simp only [reduceCtorEq, false_iff]
          omega

/-- `Allow` keeps the two together. -/
theorem Streak.Follows.allow (hcfg : cfg.Positive) (hnow : zeroTime < now)
    (h : s.Follows cfg now (attempts.find? key)) :
    (s.observe cfg key (.allow key now)).Follows cfg now
      ((cfg.allow key now attempts).2.find? key) := by
  have hlockout := hcfg.lockout
  cases hentry : attempts.find? key with
  | none =>
      rw [hentry] at h
      have hnone : (cfg.allow key now attempts).2 = attempts := by
        simp only [LoginRateLimiterConfig.allow, hcfg.enabled, hentry, Bool.not_true,
          Bool.false_eq_true, if_false]
      rw [hnone, hentry, observe]
      split
      · exact Or.inl rfl
      · exact h
  | some st =>
      rw [hentry] at h
      have hkeep := h
      obtain ⟨hpos, hlast, hle, hfailed, hbelow, hceiling⟩ := h
      rcases Int.lt_or_le s.count cfg.maxFailures with hcount | hcount
      · obtain ⟨hfailures, hlocked⟩ := hbelow hcount
        rw [allow_of_unlocked hcfg.enabled hnow hentry hlocked, hfailed, observe,
          if_neg (by omega)]
        split
        · rename_i hidle
          rw [Table.find?_erase, if_pos rfl]
          exact Or.inr (Or.inl ⟨hidle, Or.inl hcount⟩)
        · split <;> exact hentry ▸ hkeep
      · obtain ⟨-, hlocked⟩ := hceiling hcount
        rw [allow_of_locked hcfg.enabled hentry (by omega), hlocked, observe]
        by_cases hwait : now < s.last + cfg.lockout
        · rw [if_pos hwait, if_neg (by omega)]
          exact hentry ▸ hkeep
        · rw [if_neg hwait, if_pos ⟨rfl, hcount, by omega⟩, Table.find?_erase, if_pos rfl]
          exact Or.inl rfl

/-- A failure that starts afresh. -/
theorem failedState_fresh {st : AttemptState}
    (h : (!isZero st.lockedUntil && st.lockedUntil < now) = true ∨
      cfg.resetWindow < now - st.lastFailure) :
    cfg.failedState now st =
      ⟨1, now, if cfg.maxFailures ≤ 1 then now + cfg.lockout else zeroTime⟩ := by
  have hreset : ((!isZero st.lockedUntil && st.lockedUntil < now) = true ∨
      cfg.resetWindow < now - st.lastFailure) = True := eq_true h
  by_cases hceiling : cfg.maxFailures ≤ 0 + 1 <;>
    simp only [LoginRateLimiterConfig.failedState, Bool.or_eq_true, decide_eq_true_eq, hreset,
      hceiling, if_true, if_false] <;>
    simp_all only [Int.zero_add, if_true, if_false]

/-- A failure that continues. -/
theorem failedState_next {st : AttemptState}
    (h : ¬ ((!isZero st.lockedUntil && st.lockedUntil < now) = true ∨
      cfg.resetWindow < now - st.lastFailure)) :
    cfg.failedState now st = ⟨st.failures + 1, now,
      if cfg.maxFailures ≤ st.failures + 1 then now + cfg.lockout else st.lockedUntil⟩ := by
  have hreset : ((!isZero st.lockedUntil && st.lockedUntil < now) = true ∨
      cfg.resetWindow < now - st.lastFailure) = False := eq_false h
  by_cases hceiling : cfg.maxFailures ≤ st.failures + 1 <;>
    simp only [LoginRateLimiterConfig.failedState, Bool.or_eq_true, decide_eq_true_eq, hreset,
      hceiling, if_true, if_false]

/-- The entry of a first failure. -/
theorem follows_first (hnow : zeroTime < now) : (Streak.mk 1 now).Follows cfg now
    (some ⟨1, now, if cfg.maxFailures ≤ 1 then now + cfg.lockout else zeroTime⟩) := by
  refine ⟨Int.one_pos, hnow, Int.le_refl now, rfl, fun hbelow => ?_, fun hceiling => ?_⟩
  · exact ⟨rfl, if_neg (Int.not_le.mpr hbelow)⟩
  · exact ⟨hceiling, if_pos hceiling⟩

/-- No failure comes for the key while it is locked and its last one is further back than the reset
window; with a ceiling of one failure it does no harm. -/
def Spares (cfg : LoginRateLimiterConfig) (key : String) (attempts : Attempts) (c : LimiterCall) :
    Prop :=
  c.Fails key → cfg.maxFailures = 1 ∨ ∀ st ∈ attempts.find? key,
    c.time < st.lockedUntil → c.time - st.lastFailure ≤ cfg.resetWindow

instance (key : String) : ∀ c : LimiterCall, Decidable (c.Fails key)
  | .allow _ _ => inferInstanceAs (Decidable False)
  | .recordFailure key' _ => inferInstanceAs (Decidable (key' = key))
  | .recordSuccess _ _ => inferInstanceAs (Decidable False)

instance (attempts : Attempts) (c : LimiterCall) : Decidable (Spares cfg key attempts c) :=
  inferInstanceAs (Decidable (_ → _))

/-- The state after a failure is what the observer counts. -/
theorem Streak.Follows.failedState (hcfg : cfg.Positive) (hnow : zeroTime < now)
    (h : s.Follows cfg now entry)
    (hspares : cfg.maxFailures = 1 ∨ ∀ st ∈ entry, now < st.lockedUntil →
      now - st.lastFailure ≤ cfg.resetWindow) :
    (s.observe cfg key (.recordFailure key now)).Follows cfg now
      (some (cfg.failedState now (entry.getD {}))) := by
  have hlockout := hcfg.lockout
  rw [observe, if_pos rfl]
  cases entry with
  | none =>
      have hover : s.Over cfg now := h
      rw [if_pos hover, Option.getD_none,
        Streak.failedState_of_unlocked (n := 1) (by split <;> rfl)]
      exact follows_first hnow
  | some st =>
      obtain ⟨hpos, hlast, hle, hfailed, hbelow, hceiling⟩ := h
      rw [Option.getD_some]
      by_cases hreset : (!isZero st.lockedUntil && st.lockedUntil < now) = true ∨
          cfg.resetWindow < now - st.lastFailure
      · rw [failedState_fresh hreset]
        split
        · exact follows_first hnow
        · -- the limiter forgets a streak that is not over: the key is locked
          rename_i hgoing
          have hone : cfg.maxFailures = 1 := by
            refine hspares.resolve_right fun hspares => hgoing ?_
            rw [Bool.and_eq_true, Bool.not_eq_true', Bool.eq_false_iff, ne_eq, isZero_iff,
              decide_eq_true_eq] at hreset
            have hspares := hspares st rfl
            unfold Over
            omega
          refine ⟨by dsimp only; omega, hnow, Int.le_refl now, rfl, fun hb => ?_, fun _ => ?_⟩
          · dsimp only at hb
            omega
          · exact ⟨by dsimp only; omega, if_pos (by omega)⟩
      · rw [failedState_next hreset]
        rw [Bool.and_eq_true, Bool.not_eq_true', Bool.eq_false_iff, ne_eq, isZero_iff,
          decide_eq_true_eq] at hreset
        have hgoing : ¬ s.Over cfg now := by
          unfold Over
          omega
        rw [if_neg hgoing]
        refine ⟨by dsimp only; omega, hnow, Int.le_refl now, rfl, fun hb => ?_, fun hc => ?_⟩
        · dsimp only at hb ⊢
          obtain ⟨hfailures, hlocked⟩ := hbelow (by omega)
          rw [if_neg (by omega)]
          exact ⟨by omega, hlocked⟩
        · dsimp only at hc ⊢
          have hfailures : cfg.maxFailures ≤ st.failures + 1 := by
            rcases Int.lt_or_le s.count cfg.maxFailures with hcount | hcount
            · have := (hbelow hcount).1
              omega
            · have := (hceiling hcount).1
              omega
          exact ⟨hfailures, if_pos hfailures⟩

/-- Pruning drops the entry of the key only where its streak is over. -/
theorem Streak.Follows.pruneLocked (h : s.Follows cfg now (attempts.find? key)) :
    s.Follows cfg now ((cfg.pruneLocked now attempts).find? key) := by
  rw [LoginRateLimiterConfig.pruneLocked, Table.find?_filter]
  cases hentry : attempts.find? key with
  | none =>
      rw [hentry] at h
      exact h
  | some st =>
      rw [hentry] at h
      rw [Option.filter_some]
      split
      · exact h
      · rename_i hstale
        obtain ⟨hpos, hlast, hle, hfailed, hbelow, hceiling⟩ := h
        rw [Bool.or_eq_true, decide_eq_true_eq, Bool.not_eq_true', decide_eq_false_iff_not]
          at hstale
        refine Or.inr (Or.inl ⟨by omega, ?_⟩)
        rcases Int.lt_or_le s.count cfg.maxFailures with hcount | hcount
        · exact Or.inl hcount
        · have := (hceiling hcount).2
          omega

/-- **One call.** The limiter's entry for the key follows the observer's streak. -/
theorem Streak.Follows.run (hcfg : cfg.Positive) {c : LimiterCall} (hnow : zeroTime < c.time)
    (h : s.Follows cfg c.time (attempts.find? key)) (hspares : Spares cfg key attempts c) :
    (s.observe cfg key c).Follows cfg c.time ((c.run cfg attempts).find? key) := by
  cases c with
  | allow key' now =>
      by_cases hkey : key' = key
      · subst hkey
        exact h.allow hcfg hnow
      · rw [observe, if_neg (fun hc => hkey hc.1)]
        exact (find?_allow_of_ne (Ne.symm hkey)).symm ▸ h
  | recordFailure key' now =>
      have hpruned : s.Follows cfg now ((if loginPruneThreshold < attempts.rows.length
          then cfg.pruneLocked now attempts else attempts).find? key) := by
        split
        · exact h.pruneLocked
        · exact h
      simp only [LimiterCall.run, LoginRateLimiterConfig.recordFailure, hcfg.enabled, Bool.not_true,
        Bool.false_eq_true, if_false, Table.find?_put]
      by_cases hkey : key' = key
      · subst hkey
        rw [if_pos rfl]
        refine hpruned.failedState hcfg hnow ((hspares rfl).imp_right fun hst st hentry => ?_)
        refine hst st ?_
        split at hentry
        · rw [LoginRateLimiterConfig.pruneLocked, Table.find?_filter, Option.mem_def,
            Option.filter_eq_some_iff] at hentry
          exact hentry.1
        · exact hentry
      · rw [if_neg (Ne.symm hkey), observe, if_neg hkey]
        exact hpruned
  | recordSuccess key' now =>
      simp only [LimiterCall.run, LoginRateLimiterConfig.recordSuccess, hcfg.enabled, Bool.not_true,
        Bool.false_eq_true, if_false, Table.find?_erase, observe]
      by_cases hkey : key' = key
      · rw [if_pos hkey, if_pos hkey.symm]
        exact Or.inl rfl
      · rw [if_neg hkey, if_neg (Ne.symm hkey)]
        exact h

end Follows

/-! ## Pruning -/

/-- The entry is not locked and has been idle for longer than the reset window. -/
def AttemptState.Stale (cfg : LoginRateLimiterConfig) (st : AttemptState) (now : Int) : Prop :=
  st.lockedUntil ≤ now ∧ cfg.resetWindow < now - st.lastFailure

/-- The first limiter has the entries of the second, except for stale ones. -/
def Alike (cfg : LoginRateLimiterConfig) (now : Int) (pruned unpruned : Attempts) : Prop :=
  ∀ key, pruned.find? key = unpruned.find? key ∨
    pruned.find? key = none ∧ ∃ st, unpruned.find? key = some st ∧ st.Stale cfg now

section Pruning

variable {cfg : LoginRateLimiterConfig} {now later : Int} {pruned unpruned attempts : Attempts}

theorem AttemptState.Stale.mono {st : AttemptState} (h : st.Stale cfg now) (hl : now ≤ later) :
    st.Stale cfg later := by
  unfold AttemptState.Stale at *
  omega

theorem Alike.mono (h : Alike cfg now pruned unpruned) (hl : now ≤ later) :
    Alike cfg later pruned unpruned := fun key =>
  (h key).imp_right fun ⟨hnone, st, hst, hstale⟩ => ⟨hnone, st, hst, hstale.mono hl⟩

/-- What `Allow` makes of an entry: its answer, and whether the entry goes. -/
theorem allow_of_find?_eq {key : String} {attempts' : Attempts}
    (h : attempts.find? key = attempts'.find? key) :
    (cfg.allow key now attempts).1 = (cfg.allow key now attempts').1 ∧
      (cfg.allow key now attempts).2.find? key = (cfg.allow key now attempts').2.find? key := by
  unfold LoginRateLimiterConfig.allow
  rw [h]
  split
  · exact ⟨rfl, h⟩
  · split
    · exact ⟨rfl, h⟩
    · split
      · exact ⟨rfl, h⟩
      · split
        · exact ⟨rfl, by rw [Table.find?_erase, Table.find?_erase, if_pos rfl, if_pos rfl]⟩
        · dsimp only
          split <;> exact ⟨rfl, h⟩

/-- A stale entry is as good as none. -/
theorem allow_of_stale {key : String} {st : AttemptState} (hentry : attempts.find? key = some st)
    (hstale : st.Stale cfg now) (hon : cfg.enabled = true) :
    (cfg.allow key now attempts).1 = none ∧ (cfg.allow key now attempts).2.find? key = none := by
  have hpassed : ¬ now < st.lockedUntil := Int.not_lt.mpr hstale.1
  have hidle : cfg.resetWindow < now - st.lastFailure := hstale.2
  simp only [LoginRateLimiterConfig.allow, hon, hentry, hpassed, hidle, Bool.not_true,
    Bool.false_eq_true, decide_true, Bool.or_true, if_true, if_false, Table.find?_erase, and_self]

theorem allow_of_none {key : String} (hentry : attempts.find? key = none) :
    cfg.allow key now attempts = (none, attempts) := by
  unfold LoginRateLimiterConfig.allow
  rw [hentry]
  split <;> rfl

/-- The two answer alike. -/
theorem Alike.allow_fst (hon : cfg.enabled = true) (h : Alike cfg now pruned unpruned)
    (key : String) : (cfg.allow key now pruned).1 = (cfg.allow key now unpruned).1 := by
  rcases h key with heq | ⟨hnone, st, hst, hstale⟩
  · exact (allow_of_find?_eq heq).1
  · rw [allow_of_none hnone, (allow_of_stale hst hstale hon).1]

theorem alike_pruneLocked (h : Alike cfg now pruned unpruned) :
    Alike cfg now (cfg.pruneLocked now pruned) unpruned := by
  intro key
  rw [LoginRateLimiterConfig.pruneLocked, Table.find?_filter]
  rcases h key with heq | ⟨hnone, hst⟩
  · cases hentry : pruned.find? key with
    | none => exact Or.inl (by rw [← heq, hentry]; rfl)
    | some st =>
        rw [Option.filter_some]
        split
        · exact Or.inl (by rw [← heq, hentry])
        · rename_i hstale
          rw [Bool.or_eq_true, decide_eq_true_eq, Bool.not_eq_true', decide_eq_false_iff_not]
            at hstale
          refine Or.inr ⟨rfl, st, by rw [← heq, hentry], ?_⟩
          unfold AttemptState.Stale
          omega
  · exact Or.inr ⟨by rw [hnone]; rfl, hst⟩

/-- **One call of both.** -/
theorem Alike.run (hon : cfg.enabled = true) {c : LimiterCall}
    (h : Alike cfg c.time pruned unpruned) :
    Alike cfg c.time (c.run cfg pruned) (c.runUnpruned cfg unpruned) := by
  cases c with
  | allow key now =>
      intro key'
      change (cfg.allow key now pruned).2.find? key' = (cfg.allow key now unpruned).2.find? key' ∨ _
      by_cases hkey : key' = key
      · subst hkey
        rcases h key' with heq | ⟨hnone, st, hst, hstale⟩
        · exact Or.inl (allow_of_find?_eq heq).2
        · have hgone : (cfg.allow key' now unpruned).2.find? key' = none :=
            (allow_of_stale hst hstale hon).2
          refine Or.inl ?_
          rw [allow_of_none hnone, hgone]
          exact hnone
      · have hleft : (cfg.allow key now pruned).2.find? key' = pruned.find? key' :=
          Streak.find?_allow_of_ne hkey
        have hright : (cfg.allow key now unpruned).2.find? key' = unpruned.find? key' :=
          Streak.find?_allow_of_ne hkey
        change _ ∨ (cfg.allow key now pruned).2.find? key' = none ∧
          ∃ st, (cfg.allow key now unpruned).2.find? key' = some st ∧ _
        rw [hleft, hright]
        exact h key'
  | recordFailure key now =>
      have hpruned : Alike cfg now (if loginPruneThreshold < pruned.rows.length
          then cfg.pruneLocked now pruned else pruned) unpruned := by
        split
        · exact alike_pruneLocked h
        · exact h
      intro key'
      simp only [LimiterCall.run, LimiterCall.runUnpruned, LoginRateLimiterConfig.recordFailure,
        LoginRateLimiterConfig.recordFailureUnpruned, hon, Bool.not_true, Bool.false_eq_true,
        if_false, Table.find?_put]
      by_cases hkey : key' = key
      · rw [if_pos hkey, if_pos hkey]
        refine Or.inl (congrArg some ?_)
        rcases hpruned key with heq | ⟨hnone, st, hst, hstale⟩
        · rw [heq]
        · rw [hnone, hst, Option.getD_none, Option.getD_some, failedState_fresh (Or.inr hstale.2),
            Streak.failedState_of_unlocked (n := 1) (by split <;> rfl)]
      · rw [if_neg hkey, if_neg hkey]
        exact hpruned key'
  | recordSuccess key now =>
      intro key'
      simp only [LimiterCall.run, LimiterCall.runUnpruned, LoginRateLimiterConfig.recordSuccess,
        hon, Bool.not_true, Bool.false_eq_true, if_false, Table.find?_erase]
      by_cases hkey : key' = key
      · rw [if_pos hkey, if_pos hkey]
        exact Or.inl rfl
      · rw [if_neg hkey, if_neg hkey]
        exact h key'

end Pruning

/-! ## The delays of a streak -/

namespace LoginRateLimiterConfig

variable (cfg : LoginRateLimiterConfig)

/-- The backoffs below the ceiling fit a `time.Duration`, and none of them is longer than the
lockout. -/
structure Steady : Prop where
  fits : ∀ e : Nat, e ≤ 32 → cfg.backoffThresh + e < cfg.maxFailures →
    float64OfInt cfg.backoffBase * 2 ^ e < 2 ^ 63
  outlasts : cfg.backoffMax ≤ cfg.lockout ∨ ∀ e : Nat, cfg.backoffThresh + e < cfg.maxFailures →
    e ≤ 32 ∧ float64OfInt cfg.backoffBase * 2 ^ e ≤ cfg.lockout

end LoginRateLimiterConfig

section Delays

open LoginRateLimiterConfig

variable {cfg : LoginRateLimiterConfig} {s : Streak}

theorem float64OfInt_pos {n : Int} (h : 0 < n) : 0 < float64OfInt n := by
  have hunit : 2 ^ (n.natAbs.log2 - 52) ≤ n.natAbs := by
    have hlog : 2 ^ n.natAbs.log2 ≤ n.natAbs := Nat.log2_self_le (by omega)
    have hexp : 2 ^ (n.natAbs.log2 - 52) ≤ 2 ^ n.natAbs.log2 :=
      Nat.pow_le_pow_right Nat.two_pos (Nat.sub_le _ _)
    omega
  have hpos : 0 < 2 ^ (n.natAbs.log2 - 52) := Nat.pow_pos Nat.two_pos
  have hq : 0 < n.natAbs / 2 ^ (n.natAbs.log2 - 52) := Nat.div_pos hunit hpos
  have hsign : n.sign = 1 := Int.sign_eq_one_of_pos h
  unfold float64OfInt
  dsimp only
  rw [hsign, Int.one_mul]
  exact_mod_cast Nat.mul_pos (by split <;> omega) hpos

/-- The backoff of a count below the ceiling, in a policy whose backoffs fit. -/
theorem backoffFor_of_steady (hcfg : cfg.Positive) (hsteady : cfg.Steady) {e : Nat}
    (h : cfg.backoffThresh + e < cfg.maxFailures) : cfg.backoffFor (cfg.backoffThresh + e) =
      if 32 < e then cfg.backoffMax
      else min (float64OfInt cfg.backoffBase * 2 ^ e) cfg.backoffMax := by
  have hexp : cfg.backoffThresh + (e : Int) - cfg.backoffThresh = e := by omega
  unfold backoffFor
  dsimp only
  rw [hexp, if_neg (by omega), Int.toNat_natCast]
  by_cases hbig : 32 < e
  · rw [if_pos (by omega), if_pos hbig]
  · have hfits := hsteady.fits e (by omega) h
    have hpos : 0 < float64OfInt cfg.backoffBase * 2 ^ e :=
      Int.mul_pos (float64OfInt_pos hcfg.backoffBase) (Int.pow_pos (by decide))
    rw [if_neg (by omega), if_neg hbig, durationOfFloat64, if_pos ⟨by omega, hfits⟩]

/-- One more failure waits at least as long. -/
theorem backoffFor_mono (hcfg : cfg.Positive) (hsteady : cfg.Steady) {e : Nat}
    (h : cfg.backoffThresh + (e + 1 : Nat) < cfg.maxFailures) :
    cfg.backoffFor (cfg.backoffThresh + e) ≤
      cfg.backoffFor (cfg.backoffThresh + (e + 1 : Nat)) := by
  have hpos := float64OfInt_pos hcfg.backoffBase
  have hmax := hcfg.backoffMax
  have hdouble : float64OfInt cfg.backoffBase * 2 ^ e ≤
      float64OfInt cfg.backoffBase * 2 ^ (e + 1) := by
    have hpow : 0 < float64OfInt cfg.backoffBase * 2 ^ e :=
      Int.mul_pos hpos (Int.pow_pos (by decide))
    rw [Int.pow_succ, ← Int.mul_assoc]
    omega
  rw [backoffFor_of_steady hcfg hsteady (by omega), backoffFor_of_steady hcfg hsteady h]
  split
  · refine Int.le_of_eq ?_
    rw [if_pos (by omega)]
  · split <;> omega

theorem backoffFor_le_lockout (hcfg : cfg.Positive) (hsteady : cfg.Steady) {e : Nat}
    (h : cfg.backoffThresh + e < cfg.maxFailures) :
    cfg.backoffFor (cfg.backoffThresh + e) ≤ cfg.lockout := by
  rw [backoffFor_of_steady hcfg hsteady h]
  rcases hsteady.outlasts with hmax | hshort
  · split <;> omega
  · obtain ⟨hsmall, hle⟩ := hshort e h
    rw [if_neg (by omega)]
    omega

theorem backoffFor_nonneg (hcfg : cfg.Positive) (hsteady : cfg.Steady) {e : Nat}
    (h : cfg.backoffThresh + e < cfg.maxFailures) :
    0 ≤ cfg.backoffFor (cfg.backoffThresh + e) := by
  have hmax := hcfg.backoffMax
  have hpos : 0 < float64OfInt cfg.backoffBase * 2 ^ e :=
    Int.mul_pos (float64OfInt_pos hcfg.backoffBase) (Int.pow_pos (by decide))
  rw [backoffFor_of_steady hcfg hsteady h]
  split <;> omega

/-- One more failure of the streak holds the key up at least as long. -/
theorem Streak.delay_mono (hcfg : cfg.Positive) (hsteady : cfg.Steady) (now : Int) :
    s.delay cfg ≤ (Streak.mk (s.count + 1) now).delay cfg := by
  have hlockout := hcfg.lockout
  unfold Streak.delay
  dsimp only
  rcases Int.lt_or_le s.count cfg.maxFailures with hcount | hcount
  · rw [if_neg (by omega : ¬ cfg.maxFailures ≤ s.count)]
    rcases Int.lt_or_le s.count cfg.backoffThresh with hfree | hslow
    · rw [if_neg (by omega : ¬ cfg.backoffThresh ≤ s.count)]
      split
      · omega
      · split
        · obtain hthresh : s.count + 1 = cfg.backoffThresh + (0 : Nat) := by omega
          rw [hthresh]
          exact backoffFor_nonneg hcfg hsteady (by omega)
        · omega
    · obtain ⟨e, he⟩ := Int.le.dest hslow
      rw [if_pos hslow, ← he]
      split
      · exact backoffFor_le_lockout hcfg hsteady (by omega)
      · have hnext : cfg.backoffThresh + (e : Int) + 1 = cfg.backoffThresh + (e + 1 : Nat) := by
          omega
        rw [if_pos (by omega), hnext]
        exact backoffFor_mono hcfg hsteady (by omega)
  · refine Int.le_of_eq ?_
    rw [if_pos hcount, if_pos (by omega)]

end Delays

/-! ## The law of the limiter -/

/-- The limiter's entries, and the time of the last call. -/
structure LimiterState where
  attempts : Attempts := .empty
  clock : Int
  deriving DecidableEq

/-- A call, at a time that is not before the last one. -/
def LimiterState.step (cfg : LoginRateLimiterConfig) (s : LimiterState) (c : LimiterCall) :
    Option LimiterState :=
  if s.clock ≤ c.time then some ⟨c.run cfg s.attempts, c.time⟩ else none

/-- The streak of a key after the calls. -/
def streakOf (cfg : LoginRateLimiterConfig) (key : String) (cs : List LimiterCall) : Streak :=
  cs.foldl (fun s c => s.observe cfg key c) {}

/-- The entries after the calls, for a limiter that never prunes. -/
def unprunedAfter (cfg : LoginRateLimiterConfig) (cs : List LimiterCall) : Attempts :=
  cs.foldl (fun attempts c => c.runUnpruned cfg attempts) .empty

/-- What a key may rely on after the calls. -/
structure LimiterLaw (cfg : LoginRateLimiterConfig) (key : String) (cs : List LimiterCall)
    (s : LimiterState) : Prop where
  /-- At the ceiling every attempt is denied until the lockout has passed. -/
  denies : ∀ now, s.clock ≤ now → cfg.maxFailures ≤ (streakOf cfg key cs).count →
    now < (streakOf cfg key cs).last + cfg.lockout →
    (cfg.allow key now s.attempts).1 = some ((streakOf cfg key cs).last + cfg.lockout - now)
  /-- A denial reports a positive wait, after which an attempt passes if the key has not failed
  again. -/
  permits : ∀ now wait, s.clock ≤ now → (cfg.allow key now s.attempts).1 = some wait → 0 < wait ∧
    ∀ bs s' later, Run (LimiterState.step cfg) s bs s' → (∀ c ∈ bs, ¬ c.Fails key) →
      s'.clock ≤ later → now + wait ≤ later → (cfg.allow key later s'.attempts).1 = none
  /-- An attempt is denied as long as the last failure of the streak holds the key up, … -/
  answers : ∀ now wait, s.clock ≤ now → ((cfg.allow key now s.attempts).1 = some wait ↔
    (streakOf cfg key cs).HoldsUp cfg now ∧
      wait = (streakOf cfg key cs).last + (streakOf cfg key cs).delay cfg - now)
  /-- … and each further failure holds it up at least as long. -/
  grows : ∀ now, s.clock ≤ now → ¬ (streakOf cfg key cs).Over cfg now →
    (streakOf cfg key cs).delay cfg ≤
      (streakOf cfg key (cs ++ [.recordFailure key now])).delay cfg
  /-- A limiter that never prunes answers the same, whatever the key. -/
  pruning : ∀ key' now, s.clock ≤ now →
    (cfg.allow key' now s.attempts).1 = (cfg.allow key' now (unprunedAfter cfg cs)).1

section Law

variable {cfg : LoginRateLimiterConfig} {key : String} {cs : List LimiterCall}
  {s s' : LimiterState} {streak : Streak} {c : LimiterCall}

theorem streakOf_append (c : LimiterCall) :
    streakOf cfg key (cs ++ [c]) = (streakOf cfg key cs).observe cfg key c := by
  rw [streakOf, List.foldl_append]
  rfl

theorem unprunedAfter_append (c : LimiterCall) :
    unprunedAfter cfg (cs ++ [c]) = c.runUnpruned cfg (unprunedAfter cfg cs) := by
  rw [unprunedAfter, List.foldl_append]
  rfl

theorem step_cases (h : LimiterState.step cfg s c = some s') :
    s.clock ≤ c.time ∧ s' = ⟨c.run cfg s.attempts, c.time⟩ := by
  unfold LimiterState.step at h
  split at h
  · exact ⟨‹_›, (Option.some.inj h).symm⟩
  · cases h

/-- What the observer and the limiter keep together. -/
structure Kept (cfg : LoginRateLimiterConfig) (key : String) (streak : Streak) (s : LimiterState) :
    Prop where
  clock : zeroTime < s.clock
  follows : streak.Follows cfg s.clock (s.attempts.find? key)

theorem Kept.step (hcfg : cfg.Positive) (h : Kept cfg key streak s)
    (hspares : Spares cfg key s.attempts c) (hs : LimiterState.step cfg s c = some s') :
    Kept cfg key (streak.observe cfg key c) s' := by
  obtain ⟨htime, rfl⟩ := step_cases hs
  have hnow : zeroTime < c.time := Int.lt_of_lt_of_le h.clock htime
  exact ⟨hnow, (h.follows.mono htime).run hcfg hnow hspares⟩

/-- Without a failure of the key the streak stays or ends. -/
theorem Kept.run_quiet (hcfg : cfg.Positive) (h : Kept cfg key streak s) {bs : List LimiterCall}
    (hrun : Run (LimiterState.step cfg) s bs s') :
    (∀ c ∈ bs, ¬ c.Fails key) →
      ∃ streak', Kept cfg key streak' s' ∧ (streak' = streak ∨ streak'.count = 0) := by
  induction hrun with
  | start => exact fun _ => ⟨streak, h, Or.inl rfl⟩
  | @next as s s' c hrun hs ih =>
      intro hquiet
      obtain ⟨streak', hkept, hsame⟩ :=
        ih fun c' hc' => hquiet c' (List.mem_append_left _ hc')
      have hcall : ¬ c.Fails key := hquiet c (List.mem_append_right _ (List.mem_singleton_self c))
      refine ⟨_, hkept.step hcfg (fun hfails => absurd hfails hcall) hs, ?_⟩
      cases c with
      | allow key' now =>
          rw [Streak.observe]
          split
          · exact Or.inr rfl
          · exact hsame
      | recordFailure key' now =>
          have hkey : ¬ key' = key := hcall
          rw [Streak.observe, if_neg hkey]
          exact hsame
      | recordSuccess key' now =>
          rw [Streak.observe]
          split
          · exact Or.inr rfl
          · exact hsame

/-- **The limiter over whole runs.** Any calls on any keys, with a clock that does not run
backwards. -/
theorem limiterLaw_of_run {start : Int} (hcfg : cfg.Positive) (hsteady : cfg.Steady)
    (hstart : zeroTime < start)
    (h : RunMeeting (LimiterState.step cfg) (fun s c => Spares cfg key s.attempts c)
      { clock := start } cs s) : LimiterLaw cfg key cs s := by
  have hkept : Kept cfg key (streakOf cfg key cs) s := by
    refine h.invariant (I := fun cs s => Kept cfg key (streakOf cfg key cs) s)
      ⟨hstart, Or.inl rfl⟩ fun cs s c s' hi hspares hs => ?_
    rw [streakOf_append]
    exact hi.step hcfg hspares hs
  have halike : Alike cfg s.clock s.attempts (unprunedAfter cfg cs) := by
    refine h.run.invariant (I := fun cs s => Alike cfg s.clock s.attempts (unprunedAfter cfg cs))
      (fun key => Or.inl rfl) fun cs s c s' hi hs => ?_
    obtain ⟨htime, rfl⟩ := step_cases hs
    rw [unprunedAfter_append]
    exact (hi.mono htime).run hcfg.enabled
  have hanswers : ∀ now wait, s.clock ≤ now → ((cfg.allow key now s.attempts).1 = some wait ↔
      (streakOf cfg key cs).HoldsUp cfg now ∧
        wait = (streakOf cfg key cs).last + (streakOf cfg key cs).delay cfg - now) :=
    fun now wait hnow => (hkept.follows.mono hnow).allow_eq_some hcfg
      (Int.lt_of_lt_of_le hkept.clock hnow) wait
  constructor
  case denies =>
    intro now hnow hceiling hlocked
    have hdelay : (streakOf cfg key cs).delay cfg = cfg.lockout := if_pos hceiling
    refine (hanswers now _ hnow).mpr ⟨⟨?_, ?_⟩, by rw [hdelay]⟩
    · have hmax := hcfg.maxFailures
      unfold Streak.Over
      omega
    · rw [hdelay]
      exact hlocked
  case permits =>
    intro now wait hnow hdenied
    obtain ⟨⟨hgoing, hheld⟩, rfl⟩ := (hanswers now wait hnow).mp hdenied
    refine ⟨by omega, fun bs s' later hrun hquiet hclock hpassed => ?_⟩
    obtain ⟨streak', hkept', hsame⟩ := hkept.run_quiet hcfg hrun hquiet
    rw [Option.eq_none_iff_forall_ne_some]
    intro wait' hdenied'
    have hlater : zeroTime < later := Int.lt_of_lt_of_le hkept'.clock hclock
    obtain ⟨⟨hgoing', hheld'⟩, -⟩ :=
      ((hkept'.follows.mono hclock).allow_eq_some hcfg hlater wait').mp hdenied'
    rcases hsame with rfl | hended
    · omega
    · exact hgoing' (Or.inl hended)
  case answers => exact hanswers
  case grows =>
    intro now _ hgoing
    rw [streakOf_append, Streak.observe, if_pos rfl, if_neg hgoing]
    exact Streak.delay_mono hcfg hsteady now
  case pruning => exact fun key' now hnow => (halike.mono hnow).allow_fst hcfg.enabled key'

theorem positive_default : (defaultLoginRateLimiterConfig true).Positive := by
  constructor <;> decide

theorem steady_default : (defaultLoginRateLimiterConfig true).Steady := by
  have hbase : float64OfInt (defaultLoginRateLimiterConfig true).backoffBase = second := by decide
  refine ⟨fun e _ hbelow => ?_, Or.inl (by decide)⟩
  have hfew : e < 5 := by
    change (3 : Int) + e < 8 at hbelow
    omega
  have hpow : (2 : Int) ^ e ≤ 2 ^ 5 := by
    exact_mod_cast Nat.pow_le_pow_right Nat.two_pos (Nat.le_of_lt hfew)
  rw [hbase]
  change 1000000000 * (2 : Int) ^ e < 2 ^ 63
  omega

/-- Two keys fail in turn, one of them up to the ceiling and once more while it is locked. -/
def loginCalls : List LimiterCall :=
  (List.range 8).map (fun k => LimiterCall.recordFailure "id:hawk" (k * second)) ++
    [.allow "id:hawk" (8 * second), .recordFailure "ip:7" (9 * second),
      .recordFailure "id:hawk" (10 * second), .recordSuccess "ip:7" (11 * second)]

/-- The law after a run in production's policy. -/
theorem limiterLaw_of_run_loginCalls :
    ∃ s, s.attempts.find? "id:hawk" = some ⟨9, 10 * second, 910 * second⟩ ∧
      LimiterLaw (defaultLoginRateLimiterConfig true) "id:hawk" loginCalls s := by
  have hexec : Option.map (fun s => s.attempts.find? "id:hawk") (RunLib.exec (fun s c =>
      if Spares (defaultLoginRateLimiterConfig true) "id:hawk" s.attempts c
      then LimiterState.step (defaultLoginRateLimiterConfig true) s c else none)
      { clock := 0 } loginCalls) = some (some ⟨9, 10 * second, 910 * second⟩) := by
    decide
  obtain ⟨s, hs, hentry⟩ := Option.map_eq_some_iff.mp hexec
  have hstart : zeroTime < 0 := by decide
  exact ⟨s, hentry, limiterLaw_of_run positive_default steady_default hstart
    (runMeeting_of_exec hs)⟩

/-- A policy whose lockout is longer than its reset window. -/
def longLockout : LoginRateLimiterConfig where
  enabled := true
  maxFailures := 2
  lockout := 100
  backoffThresh := 3
  backoffBase := 1
  backoffMax := 1
  resetWindow := 10

/-- The key is locked by two failures; a third, which was under way, is recorded when the reset
window has passed and unlocks it. -/
theorem not_limiterLaw_longLockout : ¬ ∀ (cfg : LoginRateLimiterConfig) (key : String) (start : Int)
    (cs : List LimiterCall) (s : LimiterState), cfg.Positive → cfg.Steady → zeroTime < start →
    Run (LimiterState.step cfg) { clock := start } cs s → LimiterLaw cfg key cs s := by
  intro hclaim
  have hsteady : longLockout.Steady := by
    refine ⟨fun e _ hbelow => ?_, Or.inl (by decide)⟩
    change (3 : Int) + e < 2 at hbelow
    omega
  have hexec : Option.map (fun s : LimiterState => (s.clock,
      (longLockout.allow "id:hawk" 21 s.attempts).1)) (RunLib.exec (LimiterState.step longLockout)
      { clock := 0 } [.recordFailure "id:hawk" 1, .recordFailure "id:hawk" 2,
        .recordFailure "id:hawk" 20]) = some (20, none) := by
    decide
  obtain ⟨s, hs, hpass⟩ := Option.map_eq_some_iff.mp hexec
  obtain ⟨hclock, hpass⟩ := Prod.mk.inj hpass
  have hlaw := hclaim longLockout "id:hawk" 0 _ s (by constructor <;> decide) hsteady (by decide)
    (run_of_exec hs)
  have hdenied := hlaw.denies 21 (by omega) (by decide) (by decide)
  rw [hpass] at hdenied
  cases hdenied

end Law

end OcfIms
