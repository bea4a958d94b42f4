import OcfIms.Conv
import OcfIms.LibTable

/-!
# The login rate limiter

`server/ratelimit.go`: failed attempts by key. A few failures are free, then the wait before the
next attempt doubles with each, and at the ceiling the key is locked for a while. A key that has been
idle for longer than the reset window, or whose lock has lapsed, starts afresh.

A streak is what an observer of one key counts: the failures since the last success, the last lapse
or the last reset. The limiter's entry for the key and the observer's streak tell the same story.
-/

namespace OcfIms

open TxnLib

structure LoginRateLimiterConfig where
  enabled : Bool
  maxFailures : Int
  lockout : Int
  backoffThresh : Int
  backoffBase : Int
  backoffMax : Int
  resetWindow : Int
  deriving DecidableEq, Repr

/-- A second, in the nanoseconds of a `time.Duration`. -/
def second : Int := 1000000000

def defaultLoginRateLimiterConfig (enabled : Bool) : LoginRateLimiterConfig where
  enabled := enabled
  maxFailures := 8
  lockout := 15 * 60 * second
  backoffThresh := 3
  backoffBase := 1 * second
  backoffMax := 30 * second
  resetWindow := 15 * 60 * second

/-- More keys than this, and stale ones are dropped at the next failure. -/
def loginPruneThreshold : Nat := 4096

structure AttemptState where
  failures : Int := 0
  lastFailure : Int := zeroTime
  lockedUntil : Int := zeroTime
  deriving DecidableEq, Repr

abbrev Attempts : Type := Table String AttemptState

/-- `float64` of an integer: 53 significant bits, ties to even. -/
def float64OfInt (n : Int) : Int :=
  let unit := 2 ^ (n.natAbs.log2 - 52)
  let q := n.natAbs / unit
  let r := n.natAbs % unit
  n.sign * ((if unit < 2 * r ∨ (2 * r = unit ∧ q % 2 = 1) then q + 1 else q) * unit)

/-- `time.Duration` of a whole `float64`. One that does not fit becomes the least duration, as it
does on amd64; the language leaves it open. -/
def durationOfFloat64 (x : Int) : Int := if -2 ^ 63 ≤ x ∧ x < 2 ^ 63 then x else -2 ^ 63

namespace LoginRateLimiterConfig

variable (cfg : LoginRateLimiterConfig)

def backoffFor (failures : Int) : Int :=
  let e := failures - cfg.backoffThresh
  if e < 0 then 0
  else if 32 < e then cfg.backoffMax
  else min (durationOfFloat64 (float64OfInt cfg.backoffBase * 2 ^ e.toNat)) cfg.backoffMax

/-- Whether an attempt for the key may proceed now: the wait until the next one, if not. -/
def allow (key : String) (now : Int) (attempts : Attempts) : Option Int × Attempts :=
  if !cfg.enabled then (none, attempts)
  else match attempts.find? key with
    | none => (none, attempts)
    | some st =>
      if now < st.lockedUntil then (some (st.lockedUntil - now), attempts)
      else if !isZero st.lockedUntil || cfg.resetWindow < now - st.lastFailure then
        (none, attempts.erase key)
      else
        let wait := st.lastFailure + cfg.backoffFor st.failures - now
        if cfg.backoffThresh ≤ st.failures ∧ 0 < wait then (some wait, attempts)
        else (none, attempts)

/-- Drop the entries that are unlocked and have been idle for longer than the reset window. -/
def pruneLocked (now : Int) (attempts : Attempts) : Attempts :=
  attempts.filter fun _ st => now < st.lockedUntil || !(cfg.resetWindow < now - st.lastFailure)

/-- The key's state after one more failure. -/
def failedState (now : Int) (st : AttemptState) : AttemptState :=
  let st : AttemptState :=
    if (!isZero st.lockedUntil && st.lockedUntil < now) || cfg.resetWindow < now - st.lastFailure
    then { st with failures := 0, lockedUntil := zeroTime } else st
  let st : AttemptState := { st with failures := st.failures + 1, lastFailure := now }
  if cfg.maxFailures ≤ st.failures then { st with lockedUntil := now + cfg.lockout } else st

def recordFailure (key : String) (now : Int) (attempts : Attempts) : Attempts :=
  if !cfg.enabled then attempts
  else
    let attempts := if loginPruneThreshold < attempts.rows.length
      then cfg.pruneLocked now attempts else attempts
    attempts.put key (cfg.failedState now ((attempts.find? key).getD {}))

def recordSuccess (key : String) (attempts : Attempts) : Attempts :=
  if !cfg.enabled then attempts else attempts.erase key

/-- The limiter is on and its policy is one that can lock a key. -/
def Throttles : Prop := cfg.enabled = true ∧ 0 < cfg.maxFailures ∧ 0 ≤ cfg.lockout

theorem throttles_default : (defaultLoginRateLimiterConfig true).Throttles :=
  ⟨rfl, by decide, by decide⟩

end LoginRateLimiterConfig

/-! ## Streaks -/

/-- The failures in a row that an observer of a key has counted, and when the last of them was. -/
structure Streak where
  count : Int := 0
  last : Int := zeroTime
  deriving DecidableEq, Repr

namespace Streak

variable (cfg : LoginRateLimiterConfig) (s : Streak) (now : Int)

/-- The streak is over: nothing has failed yet, the key has been idle for longer than the reset
window, or the lockout at the ceiling has passed. -/
def Lapsed : Prop :=
  s.count = 0 ∨ s.count < cfg.maxFailures ∧ cfg.resetWindow < now - s.last ∨
    cfg.maxFailures ≤ s.count ∧ s.last + cfg.lockout ≤ now

instance : Decidable (s.Lapsed cfg now) := inferInstanceAs (Decidable (_ ∨ _ ∨ _))

def failed : Streak := if s.Lapsed cfg now then ⟨1, now⟩ else ⟨s.count + 1, now⟩

/-- The limiter's entry for the key says what the streak says. -/
def Tracks : Option AttemptState → Prop
  | none => s.count ≤ cfg.maxFailures ∧ s.Lapsed cfg now
  | some st => 0 < s.count ∧ s.count ≤ cfg.maxFailures ∧ zeroTime < s.last ∧
      st.failures = s.count ∧ st.lastFailure = s.last ∧
      st.lockedUntil = if cfg.maxFailures ≤ s.count then s.last + cfg.lockout else zeroTime

variable {cfg s now} {later : Int} {entry : Option AttemptState} {attempts : Attempts}
  {key key' : String}

theorem Lapsed.mono (h : s.Lapsed cfg now) (hl : now ≤ later) : s.Lapsed cfg later := by
  unfold Lapsed at *
  omega

theorem Tracks.mono (h : s.Tracks cfg now entry) (hl : now ≤ later) : s.Tracks cfg later entry := by
  cases entry with
  | none => exact ⟨h.1, h.2.mono hl⟩
  | some st => exact h

theorem Tracks.count_le (h : s.Tracks cfg now entry) : s.count ≤ cfg.maxFailures := by
  cases entry with
  | none => exact h.1
  | some st => exact h.2.1

theorem isZero_iff {t : Int} : isZero t = true ↔ t = zeroTime := beq_iff_eq

/-- `Allow` keeps the entry and the streak together. It lets an attempt pass only below the ceiling
or where nothing is left of the streak. -/
theorem Tracks.allow (hcfg : cfg.Throttles) (h : s.Tracks cfg now (attempts.find? key)) :
    s.Tracks cfg now ((cfg.allow key now attempts).2.find? key) ∧
      ((cfg.allow key now attempts).1 = none →
        (cfg.allow key now attempts).2.find? key = none ∨ s.count < cfg.maxFailures) := by
  obtain ⟨hon, -, hlockout⟩ := hcfg
  simp only [LoginRateLimiterConfig.allow, hon, Bool.not_true, Bool.false_eq_true, if_false]
  cases hentry : attempts.find? key with
  | none =>
      rw [hentry] at h
      exact ⟨by rw [hentry]; exact h, fun _ => .inl hentry⟩
  | some st =>
      rw [hentry] at h
      have hkeep := h
      obtain ⟨hpos, hle, hlast, -, hfailed, hlocked⟩ := h
      dsimp only
      by_cases hwait : now < st.lockedUntil
      · rw [if_pos hwait, hentry]
        exact ⟨hkeep, fun h => by cases h⟩
      · rw [if_neg hwait]
        by_cases hstale : (!isZero st.lockedUntil || cfg.resetWindow < now - st.lastFailure) = true
        · -- A lock that has lapsed, or an idle key: the entry goes and the streak is over.
          have hlapsed : s.Lapsed cfg now := by
            rw [Bool.or_eq_true, Bool.not_eq_true', Bool.eq_false_iff, ne_eq, isZero_iff,
              decide_eq_true_eq] at hstale
            unfold Lapsed
            split at hlocked <;> omega
          rw [if_pos hstale, Table.find?_erase, if_pos rfl]
          exact ⟨⟨hle, hlapsed⟩, fun _ => .inl rfl⟩
        · have hbelow : s.count < cfg.maxFailures := by
            rw [Bool.or_eq_true, Bool.not_eq_true', Bool.eq_false_iff, ne_eq, isZero_iff] at hstale
            split at hlocked <;> omega
          rw [if_neg hstale]
          split <;> exact ⟨by rw [hentry]; exact hkeep, fun _ => .inr hbelow⟩

theorem find?_allow_of_ne (hne : key' ≠ key) :
    (cfg.allow key now attempts).2.find? key' = attempts.find? key' := by
  rw [LoginRateLimiterConfig.allow]
  split
  · rfl
  · split
    · rfl
    · split
      · rfl
      · split
        · rw [Table.find?_erase, if_neg hne]
        · dsimp only
          split <;> rfl

/-- Pruning drops an entry only when the streak has lapsed. -/
theorem Tracks.pruneLocked (h : s.Tracks cfg now (attempts.find? key)) :
    s.Tracks cfg now ((cfg.pruneLocked now attempts).find? key) := by
  rw [LoginRateLimiterConfig.pruneLocked, Table.find?_filter]
  cases hentry : attempts.find? key with
  | none =>
      rw [hentry] at h
      exact h
  | some st =>
      rw [hentry] at h
      rw [Option.filter_some]
      split
      · exact h
      · rename_i hstale
        obtain ⟨hpos, hle, hlast, -, hfailed, hlocked⟩ := h
        rw [Bool.or_eq_true, decide_eq_true_eq, Bool.not_eq_true', decide_eq_false_iff_not] at hstale
        refine ⟨hle, ?_⟩
        unfold Lapsed
        split at hlocked <;> omega

/-- At the ceiling, until the lockout has passed, `Allow` refuses. -/
theorem Tracks.refused (hcfg : cfg.Throttles) (h : s.Tracks cfg now (attempts.find? key))
    (hceiling : cfg.maxFailures ≤ s.count) (hlocked : now < s.last + cfg.lockout) :
    (cfg.allow key now attempts).1 ≠ none := by
  intro hpass
  rcases (h.allow hcfg).2 hpass with hnone | hbelow
  · have hlapsed := (h.allow hcfg).1
    rw [hnone] at hlapsed
    have hpos := hcfg.2.1
    obtain ⟨-, hlapsed⟩ := hlapsed
    unfold Lapsed at hlapsed
    omega
  · omega

/-- A failure on an unlocked key: one more, or the first again after an idle time. -/
theorem failedState_of_unlocked {failures lastFailure n : Int}
    (hn : n = (if cfg.resetWindow < now - lastFailure then 0 else failures) + 1) :
    cfg.failedState now ⟨failures, lastFailure, zeroTime⟩ =
      ⟨n, now, if cfg.maxFailures ≤ n then now + cfg.lockout else zeroTime⟩ := by
  have hzero : isZero zeroTime = true := rfl
  subst hn
  by_cases hidle : cfg.resetWindow < now - lastFailure
  · by_cases hceiling : cfg.maxFailures ≤ 0 + 1 <;>
      simp only [LoginRateLimiterConfig.failedState, hzero, hidle, hceiling, decide_true,
        Bool.or_true, if_true, if_false]
  · by_cases hceiling : cfg.maxFailures ≤ failures + 1 <;>
      simp only [LoginRateLimiterConfig.failedState, hzero, hidle, hceiling, Bool.not_true,
        Bool.false_and, decide_false, Bool.or_self, Bool.false_eq_true, if_true, if_false]

/-- The state after a failure that was let pass is that of the streak after it. -/
theorem Tracks.failedState (hcfg : cfg.Throttles) (hnow : zeroTime < now)
    (h : s.Tracks cfg now entry) (hpass : entry = none ∨ s.count < cfg.maxFailures) :
    (s.failed cfg now).Tracks cfg now (some (cfg.failedState now (entry.getD {}))) := by
  obtain ⟨-, hpos, -⟩ := hcfg
  cases entry with
  | none =>
      rw [Option.getD_none, failedState_of_unlocked (n := 1) (by split <;> rfl), Streak.failed,
        if_pos h.2]
      exact ⟨Int.one_pos, hpos, hnow, rfl, rfl, rfl⟩
  | some st =>
      obtain ⟨failures, lastFailure, lockedUntil⟩ := st
      obtain ⟨hcount, hle, hlast, hfailures, hlastFailure, hlocked⟩ := h
      have hbelow : s.count < cfg.maxFailures := hpass.resolve_left nofun
      dsimp only at hfailures hlastFailure hlocked
      rw [if_neg (by omega)] at hlocked
      subst hfailures hlastFailure hlocked
      rw [Option.getD_some, failedState_of_unlocked rfl, Streak.failed]
      by_cases hidle : cfg.resetWindow < now - s.last
      · rw [if_pos hidle, if_pos (.inr (.inl ⟨hbelow, hidle⟩))]
        exact ⟨Int.one_pos, hpos, hnow, rfl, rfl, rfl⟩
      · have hgoing : ¬ s.Lapsed cfg now := by
          unfold Lapsed
          omega
        rw [if_neg hidle, if_neg hgoing]
        exact ⟨by dsimp only; omega, by dsimp only; omega, hnow, rfl, rfl, rfl⟩

/-- `RecordFailure` takes the entry along with the streak. -/
theorem Tracks.recordFailure (hcfg : cfg.Throttles) (hnow : zeroTime < now)
    (h : s.Tracks cfg now (attempts.find? key))
    (hpass : attempts.find? key = none ∨ s.count < cfg.maxFailures) :
    (s.failed cfg now).Tracks cfg now ((cfg.recordFailure key now attempts).find? key) := by
  rw [LoginRateLimiterConfig.recordFailure, hcfg.1]
  simp only [Bool.not_true, Bool.false_eq_true, if_false, Table.find?_put, if_true]
  split
  · refine Tracks.failedState hcfg hnow h.pruneLocked (hpass.imp_left fun hnone => ?_)
    rw [LoginRateLimiterConfig.pruneLocked, Table.find?_filter, hnone, Option.filter_none]
  · exact Tracks.failedState hcfg hnow h hpass

/-- The failures of another key leave the entry alone, or prune it. -/
theorem Tracks.recordFailure_of_ne (hne : key' ≠ key)
    (h : s.Tracks cfg now (attempts.find? key')) :
    s.Tracks cfg now ((cfg.recordFailure key now attempts).find? key') := by
  rw [LoginRateLimiterConfig.recordFailure]
  split
  · exact h
  · rw [Table.find?_put, if_neg hne]
    split
    · exact h.pruneLocked
    · exact h

theorem Tracks.recordSuccess_of_ne (hne : key' ≠ key)
    (h : s.Tracks cfg now (attempts.find? key')) :
    s.Tracks cfg now ((cfg.recordSuccess key attempts).find? key') := by
  rw [LoginRateLimiterConfig.recordSuccess]
  split
  · exact h
  · rw [Table.find?_erase, if_neg hne]
    exact h

/-- A success ends the streak. -/
theorem tracks_recordSuccess (hcfg : cfg.Throttles) :
    (Streak.mk 0 s.last).Tracks cfg now ((cfg.recordSuccess key attempts).find? key) := by
  rw [LoginRateLimiterConfig.recordSuccess, hcfg.1]
  simp only [Bool.not_true, Bool.false_eq_true, if_false, Table.find?_erase, if_true]
  exact ⟨Int.le_of_lt hcfg.2.1, .inl rfl⟩

end Streak

end OcfIms
