import Mathlib
import OcfIms.LibRun

/-!
# The in-memory cache

`lib/cache/cache.go`: one value behind an atomic pointer, fetched anew when it is older than the
cache's TTL. A `Get` first loads the pointer without the lock; if what it finds has expired it takes
the lock, looks again, and calls the refresher. `Invalidate` stores the empty value under the lock.

Every load, store, clock reading, lock operation and refresher call is a step of its own, so any
goroutine can run between two of them. The value a refresher returns and the passing of time are
chosen by the environment. Refresher calls are numbered in the order they begin; a cached value
carries the number of the call that produced it and the moment it was stored, which the code does
not look at.
-/

namespace OcfIms

open RunLib

/-- `epochMs`, in nanoseconds: the time the empty value carries. -/
def cacheEpoch : Int := 519850800000 * 1000000

structure DataAndTime (T : Type) where
  data : T
  time : Int
  /-- The refresher call that produced the value; the empty value has none. -/
  call : Option Nat
  storedAt : Int
  deriving DecidableEq, Repr

/-- `stillValid` at the given moment. -/
def stillValid (creation ttl now : Int) : Bool := now < creation + ttl

/-- What a `Get` answers: a value, with the moment its age was checked if it was, or the refresher's
error. -/
inductive GetResult (T : Type)
  | value (v : DataAndTime T) (checked : Option Int)
  | failed
  deriving DecidableEq, Repr

/-- The next statement of a goroutine. -/
inductive Goroutine (T : Type)
  | idle
  | getLoading
  | getChecking (v : DataAndTime T) (locked : Bool)
  | getWaiting
  | getLoadingLocked
  /-- The refresher is running. -/
  | getRefreshing (call : Nat)
  | getStamping (call : Nat) (newVal : T)
  | getStoring (v : DataAndTime T)
  | getUnlocking (r : GetResult T)
  | getDone (r : GetResult T)
  | invalidateWaiting
  | invalidateStoring
  /-- The empty value is stored; that many refresher calls had begun by then. -/
  | invalidateUnlocking (calls : Nat)
  | invalidateDone (calls : Nat)
  deriving DecidableEq, Repr

structure InMemory (T : Type) where
  dataPtr : DataAndTime T
  writeMu : Option Nat := none
  clock : Int
  calls : Nat := 0
  goroutine : Nat → Goroutine T := fun _ => .idle

inductive CacheAction (T : Type)
  | get (i : Nat)
  | invalidate (i : Nat)
  /-- The next statement of a goroutine. -/
  | proceed (i : Nat)
  /-- The refresher a goroutine has called returns a value or an error. -/
  | refreshed (i : Nat) (newVal : Option T)
  | tick (elapsed : Nat)
  deriving DecidableEq, Repr

namespace InMemory

variable {T : Type}

def goto (s : InMemory T) (i : Nat) (g : Goroutine T) : InMemory T :=
  { s with goroutine := Function.update s.goroutine i g }

def lock (s : InMemory T) (i : Nat) (g : Goroutine T) : Option (InMemory T) :=
  if s.writeMu.isSome then none else some { s.goto i g with writeMu := some i }

def unlock (s : InMemory T) (i : Nat) (g : Goroutine T) : InMemory T :=
  { s.goto i g with writeMu := none }

variable [Inhabited T]

/-- `emptyVal`, as stored at the given moment. -/
def emptyVal (now : Int) : DataAndTime T := ⟨default, cacheEpoch, none, now⟩

/-- A new cache, at the given moment. -/
def new (now : Int) : InMemory T where
  dataPtr := emptyVal now
  clock := now

/-- The next statement of a goroutine, where it is not in the refresher and can go on. -/
def proceed (ttl : Int) (s : InMemory T) (i : Nat) : Option (InMemory T) :=
  match s.goroutine i with
  | .getLoading => some (s.goto i (.getChecking s.dataPtr false))
  | .getChecking v false =>
    if stillValid v.time ttl s.clock then some (s.goto i (.getDone (.value v (some s.clock))))
    else some (s.goto i .getWaiting)
  | .getWaiting => s.lock i .getLoadingLocked
  | .getLoadingLocked => some (s.goto i (.getChecking s.dataPtr true))
  | .getChecking v true =>
    if stillValid v.time ttl s.clock then some (s.goto i (.getUnlocking (.value v (some s.clock))))
    else some { s.goto i (.getRefreshing s.calls) with calls := s.calls + 1 }
  | .getStamping call newVal =>
    some (s.goto i (.getStoring ⟨newVal, s.clock, some call, s.clock⟩))
  | .getStoring v =>
    let stored := { v with storedAt := s.clock }
    some { s.goto i (.getUnlocking (.value stored none)) with dataPtr := stored }
  | .getUnlocking r => some (s.unlock i (.getDone r))
  | .invalidateWaiting => s.lock i .invalidateStoring
  | .invalidateStoring =>
    some { s.goto i (.invalidateUnlocking s.calls) with dataPtr := emptyVal s.clock }
  | .invalidateUnlocking calls => some (s.unlock i (.invalidateDone calls))
  | _ => none

def step (ttl : Int) (s : InMemory T) : CacheAction T → Option (InMemory T)
  | .get i =>
    match s.goroutine i with
    | .idle => some (s.goto i .getLoading)
    | _ => none
  | .invalidate i =>
    match s.goroutine i with
    | .idle => some (s.goto i .invalidateWaiting)
    | _ => none
  | .proceed i => s.proceed ttl i
  | .refreshed i newVal =>
    match s.goroutine i, newVal with
    | .getRefreshing call, some newVal => some (s.goto i (.getStamping call newVal))
    | .getRefreshing _, none => some (s.goto i (.getUnlocking .failed))
    | _, _ => none
  | .tick elapsed => some { s with clock := s.clock + elapsed }

end InMemory

end OcfIms
