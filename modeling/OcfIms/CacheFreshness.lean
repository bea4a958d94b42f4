import OcfIms.InMemoryCache

/-!
# What the in-memory cache serves

In any interleaving of `Get`s, `Invalidate`s and refreshers: a `Get` that starts after an
`Invalidate` has returned answers nothing a refresher call begun before that `Invalidate` produced;
one refresher runs at a time; a refresher's error caches nothing; and a cached value is served only
within the TTL of the moment it was stored.

The invariant says what each goroutine knows at the statement it has reached. Whoever is past the
lock holds it, so the pointer is its own; the floor of an `Invalidate`, the number of refresher calls
begun when it stored the empty value, bounds from below every call whose value is in the pointer or
on its way there.
-/

namespace OcfIms

open RunLib

variable {T : Type}

/-! ## What a goroutine knows -/

theorem stillValid_antitone {creation ttl now later : Int} (h : now ≤ later)
    (hv : stillValid creation ttl now = false) : stillValid creation ttl later = false := by
  simp only [stillValid, decide_eq_false_iff_not] at hv ⊢
  omega

/-- The refresher call whose value the goroutine is fetching or about to store. -/
def Goroutine.inflight : Goroutine T → Option Nat
  | .getRefreshing call => some call
  | .getStamping call _ => some call
  | .getStoring v => v.call
  | _ => none

def GetResult.call : GetResult T → Option Nat
  | .value v _ => v.call
  | .failed => none

/-- The refresher call that produced the value the goroutine has in hand to answer with. -/
def Goroutine.holds : Goroutine T → Option Nat
  | .getChecking v _ => v.call
  | .getUnlocking r => r.call
  | .getDone r => r.call
  | _ => none

/-- A refreshed value is dated no later than it was stored, and the empty one at the epoch. -/
def WellTimed (v : DataAndTime T) : Prop :=
  (∀ call, v.call = some call → v.time ≤ v.storedAt) ∧ (v.call = none → v.time = cacheEpoch)

/-- A value whose age was checked was valid then. -/
def GetResult.Served (ttl : Int) : GetResult T → Prop
  | .value v checked => WellTimed v ∧ ∀ now, checked = some now → stillValid v.time ttl now = true
  | .failed => True

/-- Nothing produced by the first `floor` refresher calls is cached or about to be. -/
structure Floor (floor : Nat) (s : InMemory T) : Prop where
  calls : floor ≤ s.calls
  cached : ∀ call, s.dataPtr.call = some call → floor ≤ call
  inflight : ∀ i call, (s.goroutine i).inflight = some call → floor ≤ call

/-- What holds when the goroutine is at the statement. -/
def Knows (ttl : Int) (s : InMemory T) (i : Nat) : Goroutine T → Prop
  | .getChecking v locked =>
    WellTimed v ∧ (locked = true → s.writeMu = some i ∧ s.dataPtr = v)
  | .getLoadingLocked => s.writeMu = some i
  | .getRefreshing _ =>
    s.writeMu = some i ∧ stillValid s.dataPtr.time ttl s.clock = false
  | .getStamping _ _ => s.writeMu = some i
  | .getStoring v => s.writeMu = some i ∧ v.time ≤ s.clock ∧ v.call.isSome
  | .getUnlocking r => s.writeMu = some i ∧ r.Served ttl
  | .getDone r => r.Served ttl
  | .invalidateStoring => s.writeMu = some i
  | .invalidateUnlocking calls => s.writeMu = some i ∧ Floor calls s
  | .invalidateDone calls => Floor calls s
  | _ => True

structure CacheSound (ttl : Int) (s : InMemory T) : Prop where
  cached : WellTimed s.dataPtr
  knows : ∀ i, Knows ttl s i (s.goroutine i)

variable {ttl : Int} {s s' : InMemory T}

/-- Only the holder of the lock has a value on its way to the pointer. -/
theorem Knows.locked {i : Nat} {g : Goroutine T} (h : Knows ttl s i g) {call : Nat}
    (hg : g.inflight = some call) : s.writeMu = some i := by
  cases g with
  | getRefreshing _ => exact h.1
  | getStamping _ _ => exact h
  | getStoring _ => exact h.1
  | _ => cases hg

/-- What a goroutine knows outlives a step of another, which leaves the lock's holder the lock and
the pointer. -/
theorem Knows.frame {i : Nat} {g : Goroutine T} (h : Knows ttl s i g)
    (hlock : s.writeMu = some i → s'.writeMu = some i ∧ s'.dataPtr = s.dataPtr)
    (hclock : s.clock ≤ s'.clock) (hfloor : ∀ floor, Floor floor s → Floor floor s') :
    Knows ttl s' i g := by
  cases g with
  | getChecking v locked =>
      refine ⟨h.1, fun hl => ?_⟩
      obtain ⟨hmu, hv⟩ := h.2 hl
      obtain ⟨hmu', hptr⟩ := hlock hmu
      exact ⟨hmu', hptr.trans hv⟩
  | getLoadingLocked => exact (hlock h).1
  | getRefreshing _ =>
      obtain ⟨hmu', hptr⟩ := hlock h.1
      refine ⟨hmu', ?_⟩
      rw [hptr]
      exact stillValid_antitone hclock h.2
  | getStamping _ _ => exact (hlock h).1
  | getStoring v => exact ⟨(hlock h.1).1, Int.le_trans h.2.1 hclock, h.2.2⟩
  | getUnlocking r => exact ⟨(hlock h.1).1, h.2⟩
  | getDone r => exact h
  | invalidateStoring => exact (hlock h).1
  | invalidateUnlocking calls => exact ⟨(hlock h.1).1, hfloor calls h.2⟩
  | invalidateDone calls => exact hfloor calls h
  | _ => trivial

/-! ## One step -/

section Steps

variable {i : Nat} {g : Goroutine T}

theorem Floor.goto {floor : Nat} (h : Floor floor s)
    (hs : s'.goroutine = Function.update s.goroutine i g) (hcalls : s.calls ≤ s'.calls)
    (hptr : ∀ call, s'.dataPtr.call = some call → floor ≤ call)
    (hg : ∀ call, g.inflight = some call → floor ≤ call) : Floor floor s' := by
  refine ⟨Nat.le_trans h.calls hcalls, hptr, fun j call hj => ?_⟩
  rw [hs] at hj
  by_cases hji : j = i
  · subst hji
    rw [Function.update_self] at hj
    exact hg call hj
  · rw [Function.update_of_ne hji] at hj
    exact h.inflight j call hj

/-- One goroutine moves to its next statement; the floors are kept, and any other goroutine that
holds the lock keeps it and the pointer. -/
theorem CacheSound.goto (h : CacheSound ttl s)
    (hs : s'.goroutine = Function.update s.goroutine i g) (hcached : WellTimed s'.dataPtr)
    (hclock : s.clock ≤ s'.clock) (hfloor : ∀ floor, Floor floor s → Floor floor s')
    (hlock : ∀ j, j ≠ i → s.writeMu = some j →
      s'.writeMu = some j ∧ s'.dataPtr = s.dataPtr)
    (hg : Knows ttl s' i g) : CacheSound ttl s' := by
  refine ⟨hcached, fun j => ?_⟩
  rw [hs]
  by_cases hji : j = i
  · subst hji
    rw [Function.update_self]
    exact hg
  · rw [Function.update_of_ne hji]
    exact (h.knows j).frame (hlock j hji) hclock hfloor

/-- A goroutine moves on and nothing else changes. -/
theorem CacheSound.move (h : CacheSound ttl s)
    (hinflight : ∀ call, g.inflight = some call → (s.goroutine i).inflight = some call)
    (hg : Knows ttl (s.goto i g) i g) : CacheSound ttl (s.goto i g) := by
  refine h.goto rfl h.cached (Int.le_refl _) (fun floor hf => ?_) (fun j _ hj => ⟨hj, rfl⟩) hg
  exact hf.goto rfl (Nat.le_refl _) hf.cached fun call hc => hf.inflight i call (hinflight call hc)

theorem CacheSound.lock (h : CacheSound ttl s) (hs : s.lock i g = some s')
    (hinflight : g.inflight = none) (hg : s'.writeMu = some i → Knows ttl s' i g) :
    CacheSound ttl s' := by
  rw [InMemory.lock] at hs
  split at hs
  · cases hs
  · rename_i hmu
    obtain rfl := Option.some.inj hs
    refine h.goto rfl h.cached (Int.le_refl _) (fun floor hf => ?_) (fun j _ hj => ?_) (hg rfl)
    · exact hf.goto rfl (Nat.le_refl _) hf.cached fun call hc => by rw [hinflight] at hc; cases hc
    · rw [hj] at hmu
      exact absurd rfl hmu

/-- The lock's holder moves on; it may change the pointer, and gives up the lock or keeps it. -/
theorem CacheSound.holder (h : CacheSound ttl s) (hmu : s.writeMu = some i)
    (hs : s'.goroutine = Function.update s.goroutine i g) (hcached : WellTimed s'.dataPtr)
    (hclock : s.clock ≤ s'.clock) (hfloor : ∀ floor, Floor floor s → Floor floor s')
    (hg : Knows ttl s' i g) : CacheSound ttl s' := by
  refine h.goto hs hcached hclock hfloor (fun j hji hj => ?_) hg
  exact absurd (Option.some.inj (hmu.symm.trans hj)) (Ne.symm hji)

variable [Inhabited T]

theorem sound_proceedCache (h : CacheSound ttl s) (hs : s.proceed ttl i = some s') :
    CacheSound ttl s' := by
  have hi := h.knows i
  rw [InMemory.proceed] at hs
  cases hg : s.goroutine i with
  | getLoading =>
      simp only [hg, Option.some.injEq] at hs
      subst hs
      exact h.move nofun ⟨h.cached, nofun⟩
  | getChecking v locked =>
      rw [hg] at hi
      cases locked with
      | false =>
          simp only [hg] at hs
          split at hs
          · obtain rfl := Option.some.inj hs
            refine h.move nofun ⟨hi.1, fun now hnow => ?_⟩
            obtain rfl := Option.some.inj hnow
            assumption
          · obtain rfl := Option.some.inj hs
            exact h.move nofun trivial
      | true =>
          obtain ⟨hmu, hptr⟩ := hi.2 rfl
          simp only [hg] at hs
          split at hs
          · obtain rfl := Option.some.inj hs
            refine h.move nofun ⟨hmu, hi.1, fun now hnow => ?_⟩
            obtain rfl := Option.some.inj hnow
            assumption
          · -- The value has expired: a new refresher call begins.
            rename_i hv
            obtain rfl := Option.some.inj hs
            refine h.holder hmu rfl h.cached (Int.le_refl _) (fun floor hf => ?_) ⟨hmu, ?_⟩
            · refine hf.goto rfl (Nat.le_succ _) hf.cached fun call hc => ?_
              obtain rfl := Option.some.inj hc
              exact hf.calls
            · rw [← hptr] at hv
              exact Bool.eq_false_iff.mpr hv
  | getWaiting =>
      simp only [hg] at hs
      exact h.lock hs rfl fun hmu => hmu
  | getLoadingLocked =>
      rw [hg] at hi
      simp only [hg, Option.some.injEq] at hs
      subst hs
      exact h.move nofun ⟨h.cached, fun _ => ⟨hi, rfl⟩⟩
  | getStamping call newVal =>
      rw [hg] at hi
      simp only [hg, Option.some.injEq] at hs
      subst hs
      refine h.move (fun c hc => ?_) ⟨hi, Int.le_refl _, rfl⟩
      rw [hg]
      exact hc
  | getStoring v =>
      rw [hg] at hi
      obtain ⟨hmu, htime, hcall⟩ := hi
      have hinflight : (s.goroutine i).inflight = v.call := by rw [hg]; rfl
      simp only [hg, Option.some.injEq] at hs
      subst hs
      have hstored : WellTimed { v with storedAt := s.clock } := by
        refine ⟨fun _ _ => htime, fun hn => ?_⟩
        rw [hn] at hcall
        cases hcall
      refine h.holder hmu rfl hstored (Int.le_refl _) (fun floor hf => ?_) ⟨hmu, hstored, nofun⟩
      exact hf.goto rfl (Nat.le_refl _)
        (fun call hc => hf.inflight i call (hinflight.trans hc)) nofun
  | getUnlocking r =>
      rw [hg] at hi
      simp only [hg, Option.some.injEq] at hs
      subst hs
      refine h.holder hi.1 rfl h.cached (Int.le_refl _) (fun floor hf => ?_) hi.2
      exact hf.goto rfl (Nat.le_refl _) hf.cached nofun
  | invalidateWaiting =>
      simp only [hg] at hs
      exact h.lock hs rfl fun hmu => hmu
  | invalidateStoring =>
      rw [hg] at hi
      simp only [hg, Option.some.injEq] at hs
      subst hs
      have hempty : WellTimed (InMemory.emptyVal s.clock : DataAndTime T) := ⟨nofun, fun _ => rfl⟩
      refine h.holder hi rfl hempty (Int.le_refl _) (fun floor hf => ?_) ⟨hi, ?_⟩
      · exact hf.goto rfl (Nat.le_refl _) nofun nofun
      · -- Nobody else is past the lock, so nothing is on its way to the pointer.
        refine ⟨Nat.le_refl _, nofun, fun j call hj => ?_⟩
        change (Function.update s.goroutine i _ j).inflight = some call at hj
        by_cases hji : j = i
        · subst hji
          rw [Function.update_self] at hj
          cases hj
        · rw [Function.update_of_ne hji] at hj
          have hmu := (h.knows j).locked hj
          exact absurd (Option.some.inj (hmu.symm.trans hi)) hji
  | invalidateUnlocking calls =>
      rw [hg] at hi
      simp only [hg, Option.some.injEq] at hs
      subst hs
      have hfloor : ∀ floor, Floor floor s → Floor floor (s.unlock i (.invalidateDone calls)) :=
        fun floor hf => hf.goto rfl (Nat.le_refl _) hf.cached nofun
      exact h.holder hi.1 rfl h.cached (Int.le_refl _) hfloor (hfloor calls hi.2)
  | _ => simp [hg] at hs

theorem sound_stepCache (h : CacheSound ttl s) {a : CacheAction T}
    (hs : s.step ttl a = some s') : CacheSound ttl s' := by
  cases a with
  | get i =>
      simp only [InMemory.step] at hs
      split at hs
      · obtain rfl := Option.some.inj hs
        exact h.move nofun trivial
      · cases hs
  | invalidate i =>
      simp only [InMemory.step] at hs
      split at hs
      · obtain rfl := Option.some.inj hs
        exact h.move nofun trivial
      · cases hs
  | proceed i => exact sound_proceedCache h hs
  | refreshed i newVal =>
      simp only [InMemory.step] at hs
      split at hs
      · rename_i call newVal hg
        have hi := h.knows i
        rw [hg] at hi
        obtain rfl := Option.some.inj hs
        refine h.move (fun c hc => ?_) hi.1
        rw [hg]
        exact hc
      · rename_i call hg
        have hi := h.knows i
        rw [hg] at hi
        obtain rfl := Option.some.inj hs
        exact h.move nofun ⟨hi.1, trivial⟩
      · cases hs
  | tick elapsed =>
      obtain rfl := Option.some.inj hs
      refine ⟨h.cached, fun i => (h.knows i).frame (fun hmu => ⟨hmu, rfl⟩) ?_ fun floor hf => ?_⟩
      · exact Int.le_add_of_nonneg_right (Int.natCast_nonneg elapsed)
      · exact ⟨hf.calls, hf.cached, hf.inflight⟩

/-- A goroutine that is done stays done. -/
theorem done_of_step {j calls : Nat} (hj : s.goroutine j = .invalidateDone calls)
    {a : CacheAction T} (hs : s.step ttl a = some s') : s'.goroutine j = .invalidateDone calls := by
  have hmove : ∀ {i : Nat} (g : Goroutine T), s.goroutine i ≠ .invalidateDone calls →
      Function.update s.goroutine i g j = .invalidateDone calls := by
    intro i g hi
    have hji : j ≠ i := fun h => hi (h ▸ hj)
    rw [Function.update_of_ne hji]
    exact hj
  cases a with
  | get i =>
      simp only [InMemory.step] at hs
      split at hs
      · obtain rfl := Option.some.inj hs
        exact hmove _ (by simp [*])
      · cases hs
  | invalidate i =>
      simp only [InMemory.step] at hs
      split at hs
      · obtain rfl := Option.some.inj hs
        exact hmove _ (by simp [*])
      · cases hs
  | proceed i =>
      simp only [InMemory.step, InMemory.proceed] at hs
      split at hs
      case h_3 | h_9 =>
        rw [InMemory.lock] at hs
        split at hs
        · cases hs
        · obtain rfl := Option.some.inj hs
          exact hmove _ (by simp [*])
      case h_2 | h_5 =>
        split at hs
        all_goals
          obtain rfl := Option.some.inj hs
          exact hmove _ (by simp [*])
      case h_12 => cases hs
      all_goals
        obtain rfl := Option.some.inj hs
        exact hmove _ (by simp [*])
  | refreshed i newVal =>
      simp only [InMemory.step] at hs
      split at hs
      case h_3 => cases hs
      all_goals
        obtain rfl := Option.some.inj hs
        exact hmove _ (by simp [*])
  | tick elapsed =>
      obtain rfl := Option.some.inj hs
      exact hj

/-- What a goroutine has in hand to answer with comes from the pointer or from its own refresher
call, so it is never older than the floor. -/
theorem holds_of_step {floor j : Nat} (hf : Floor floor s)
    (hj : ∀ call, (s.goroutine j).holds = some call → floor ≤ call) {a : CacheAction T}
    (hs : s.step ttl a = some s') : ∀ call, (s'.goroutine j).holds = some call → floor ≤ call := by
  have hmove : ∀ {i : Nat} {g : Goroutine T},
      (∀ call, g.holds = some call → s.dataPtr.call = some call ∨
        (s.goroutine i).inflight = some call ∨ (s.goroutine i).holds = some call) →
      ∀ call, (Function.update s.goroutine i g j).holds = some call → floor ≤ call := by
    intro i g hg call hc
    by_cases hji : j = i
    · subst hji
      rw [Function.update_self] at hc
      rcases hg call hc with h | h | h
      · exact hf.cached call h
      · exact hf.inflight j call h
      · exact hj call h
    · rw [Function.update_of_ne hji] at hc
      exact hj call hc
  cases a with
  | get i =>
      simp only [InMemory.step] at hs
      split at hs
      · obtain rfl := Option.some.inj hs
        exact hmove nofun
      · cases hs
  | invalidate i =>
      simp only [InMemory.step] at hs
      split at hs
      · obtain rfl := Option.some.inj hs
        exact hmove nofun
      · cases hs
  | proceed i =>
      simp only [InMemory.step, InMemory.proceed] at hs
      split at hs
      case h_3 | h_9 =>
        rw [InMemory.lock] at hs
        split at hs
        · cases hs
        · obtain rfl := Option.some.inj hs
          exact hmove nofun
      case h_1 | h_4 =>
        obtain rfl := Option.some.inj hs
        exact hmove fun call hc => .inl hc
      case h_2 | h_5 =>
        rename_i hg
        split at hs
        · obtain rfl := Option.some.inj hs
          refine hmove fun call hc => .inr (.inr ?_)
          rw [hg]
          exact hc
        · obtain rfl := Option.some.inj hs
          exact hmove nofun
      case h_7 =>
        rename_i hg
        obtain rfl := Option.some.inj hs
        refine hmove fun call hc => .inr (.inl ?_)
        rw [hg]
        exact hc
      case h_8 =>
        rename_i hg
        obtain rfl := Option.some.inj hs
        refine hmove fun call hc => .inr (.inr ?_)
        rw [hg]
        exact hc
      case h_12 => cases hs
      all_goals
        obtain rfl := Option.some.inj hs
        exact hmove nofun
  | refreshed i newVal =>
      simp only [InMemory.step] at hs
      split at hs
      case h_3 => cases hs
      all_goals
        obtain rfl := Option.some.inj hs
        exact hmove nofun
  | tick elapsed =>
      obtain rfl := Option.some.inj hs
      exact hj

theorem getRefreshing_of_refreshed {newVal : Option T}
    (hs : s.step ttl (.refreshed i newVal) = some s') :
    s'.dataPtr = s.dataPtr ∧ ∃ call, s.goroutine i = .getRefreshing call := by
  simp only [InMemory.step] at hs
  split at hs
  case h_3 => cases hs
  all_goals
    obtain rfl := Option.some.inj hs
    exact ⟨rfl, _, by assumption⟩

end Steps

/-! ## Runs -/

section Runs

variable [Inhabited T] {start : Int} {as : List (CacheAction T)}

theorem sound_of_cacheRun (hr : Run (InMemory.step ttl) (InMemory.new start) as s) :
    CacheSound ttl s :=
  hr.invariant (I := fun _ s => CacheSound ttl s) ⟨⟨nofun, fun _ => rfl⟩, fun _ => trivial⟩
    fun _ _ _ _ h hs => sound_stepCache h hs

/-- Once an `Invalidate` has returned, a `Get` that starts afterwards ends up with nothing that is
older. -/
theorem floor_of_later {i g calls : Nat} {s₀ s₁ s₂ : InMemory T} (h₀ : CacheSound ttl s₀)
    (hi : s₀.goroutine i = .invalidateDone calls) (hg : s₀.step ttl (.get g) = some s₁)
    (hr : Run (InMemory.step ttl) s₁ as s₂) :
    ∀ call, (s₂.goroutine g).holds = some call → calls ≤ call := by
  have hstart : s₁.goroutine g = .getLoading := by
    simp only [InMemory.step] at hg
    split at hg
    · obtain rfl := Option.some.inj hg
      exact Function.update_self ..
    · cases hg
  have h : CacheSound ttl s₂ ∧ s₂.goroutine i = .invalidateDone calls ∧
      ∀ call, (s₂.goroutine g).holds = some call → calls ≤ call := by
    refine hr.invariant (I := fun _ s => CacheSound ttl s ∧ s.goroutine i = .invalidateDone calls ∧
      ∀ call, (s.goroutine g).holds = some call → calls ≤ call) ?_ ?_
    · refine ⟨sound_stepCache h₀ hg, done_of_step hi hg, fun call hc => ?_⟩
      rw [hstart] at hc
      cases hc
    · rintro _ s a s' ⟨hsound, hdone, hhold⟩ hs
      have hfloor : Floor calls s := by
        have := hsound.knows i
        rwa [hdone] at this
      exact ⟨sound_stepCache hsound hs, done_of_step hdone hs, holds_of_step hfloor hhold hs⟩
  exact h.2.2

/-- In every interleaving: a `Get` that starts after an `Invalidate` has returned answers no value of
a refresher call that had begun when the `Invalidate` took effect; at most one refresher runs; when a
refresher fails the pointer is left with a value that is expired from then on; and a value served
after a check of its age was stored less than the TTL before the check. -/
theorem cache_of_run (hr : Run (InMemory.step ttl) (InMemory.new start) as s) :
    (∀ i calls g s₁ bs s₂, s.goroutine i = .invalidateDone calls →
      s.step ttl (.get g) = some s₁ → Run (InMemory.step ttl) s₁ bs s₂ →
      ∀ v checked, s₂.goroutine g = .getDone (.value v checked) →
        ∀ call, v.call = some call → calls ≤ call) ∧
    (∀ i j k l, s.goroutine i = .getRefreshing k → s.goroutine j = .getRefreshing l → i = j) ∧
    (∀ i s', s.step ttl (.refreshed i none) = some s' →
      s'.dataPtr = s.dataPtr ∧
        ∀ later, s.clock ≤ later → stillValid s'.dataPtr.time ttl later = false) ∧
    (∀ i v checked, s.goroutine i = .getDone (.value v (some checked)) →
      checked < v.time + ttl ∧ ∀ call, v.call = some call → checked < v.storedAt + ttl) := by
  have h := sound_of_cacheRun hr
  refine ⟨?_, ?_, ?_, ?_⟩
  · intro i calls g s₁ bs s₂ hi hg hr' v checked hv call hc
    refine floor_of_later h hi hg hr' call ?_
    rw [hv]
    exact hc
  · intro i j k l hi hj
    have hmu : s.writeMu = some i := (h.knows i).locked (by rw [hi]; rfl)
    have hmu' : s.writeMu = some j := (h.knows j).locked (by rw [hj]; rfl)
    exact Option.some.inj (hmu.symm.trans hmu')
  · intro i s' hs
    obtain ⟨hptr, call, hi⟩ := getRefreshing_of_refreshed hs
    have hk := h.knows i
    rw [hi] at hk
    refine ⟨hptr, fun later hl => ?_⟩
    rw [hptr]
    exact stillValid_antitone hl hk.2
  · intro i v checked hi
    have hk := h.knows i
    rw [hi] at hk
    obtain ⟨htimed, hvalid⟩ := hk
    have hlt : checked < v.time + ttl := of_decide_eq_true (hvalid checked rfl)
    refine ⟨hlt, fun call hc => ?_⟩
    have := htimed.1 call hc
    omega

end Runs

/-- A `Get` that refreshes, and an `Invalidate` after it. -/
def refreshThenInvalidate : List (CacheAction Nat) :=
  [.get 0, .proceed 0, .proceed 0, .proceed 0, .proceed 0, .proceed 0, .refreshed 0 (some 5),
    .proceed 0, .proceed 0, .proceed 0, .invalidate 1, .proceed 1, .proceed 1, .proceed 1]

/-- The next `Get`, which refreshes again. -/
def refreshAgain : List (CacheAction Nat) :=
  [.proceed 2, .proceed 2, .proceed 2, .proceed 2, .proceed 2, .refreshed 2 (some 6), .proceed 2,
    .proceed 2, .proceed 2]

theorem cache_of_run_refreshed : ∃ s : InMemory Nat,
    s.goroutine 1 = .invalidateDone 1 ∧
    ∃ s₁ s₂ v call, s.step 10 (.get 2) = some s₁ ∧
      Run (InMemory.step 10) s₁ refreshAgain s₂ ∧
      s₂.goroutine 2 = .getDone (.value v none) ∧ v.call = some call ∧ 1 ≤ call := by
  have hrun : (exec (InMemory.step 10) (InMemory.new (2 * cacheEpoch)) refreshThenInvalidate).map
      (·.goroutine 1) = some (.invalidateDone 1) := by decide
  have hagain : ((exec (InMemory.step 10) (InMemory.new (2 * cacheEpoch))
      refreshThenInvalidate).bind fun s => (s.step 10 (.get 2)).bind fun s =>
        exec (InMemory.step 10) s refreshAgain).map (·.goroutine 2) =
      some (.getDone (.value ⟨6, 2 * cacheEpoch, some 1, 2 * cacheEpoch⟩ none)) := by
    decide
  obtain ⟨s, hs, hinv⟩ := Option.map_eq_some_iff.mp hrun
  obtain ⟨s₂, hs₂, hget⟩ := Option.map_eq_some_iff.mp hagain
  rw [hs, Option.bind_some] at hs₂
  obtain ⟨s₁, hs₁, hs₂⟩ := Option.bind_eq_some_iff.mp hs₂
  have hlast := run_of_exec hs₂
  exact ⟨s, hinv, s₁, s₂, _, _, hs₁, hlast, hget, rfl,
    (cache_of_run (run_of_exec hs)).1 1 1 2 s₁ refreshAgain s₂ hinv hs₁ hlast _ _ hget _ rfl⟩

end OcfIms
