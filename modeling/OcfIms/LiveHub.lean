import OcfIms.LibRun

/-!
# The live hub

`features/live/hub.ts` with the loop of `api/stream.ts` that it starts for each event: which stream
loops run, which of them are aborted, and what `isLive` answers. The step relation has the hub's
three entry points and the steps of a loop. A message and the handler call it leads to are two
steps, since the loop may be aborted in between.

An event has one loop that is not aborted exactly while one of its watches is held and the hub is
active, after any run. `isLive` is another matter: `onOpen` sets the flag without asking whose loop
called it, and an event that stays in the map after `setActive(false)` is then shown as live with no
stream at all.
-/

namespace OcfIms

open RunLib

/-! ## The hub's state -/

/-- `Watched`, an object made each time an event enters the map. -/
structure Watched where
  refs : Nat := 0
  /-- The loop whose controller this is. -/
  controller : Option Nat := none
  live : Bool := false
  gap : Bool := false
  deriving DecidableEq, Repr

/-- Where a `watchEvents` loop stands. -/
inductive LoopPhase
  /-- Waiting for a message of its attempt. -/
  | reading
  /-- A message has come; its handlers are still to be called. -/
  | received
  /-- Backing off after a drop. -/
  | sleeping
  /-- Returned; the hub's `finally` is still to run. -/
  | finishing
  | done
  deriving DecidableEq, Repr

/-- A `watchEvents` call, with its local variables. -/
structure StreamLoop where
  event : Int
  /-- The object its handlers close over. -/
  entry : Nat
  aborted : Bool := false
  phase : LoopPhase := .reading
  /-- The attempt's stream has opened. -/
  opened : Bool := false
  everOpened : Bool := false
  deriving DecidableEq, Repr

/-- The attempt's stream has opened and has not dropped. -/
def StreamLoop.isOpen (loop : StreamLoop) : Bool :=
  loop.opened && (loop.phase = .reading || loop.phase = .received)

/-- The release that a `watch` call returned. -/
structure WatchCall where
  event : Int
  entry : Nat
  released : Bool := false
  deriving DecidableEq, Repr

structure LiveHub where
  active : Bool := true
  /-- Every object ever made, by its index. -/
  entries : List Watched := []
  /-- The map, in insertion order. -/
  watched : List (Int × Nat) := []
  watches : List WatchCall := []
  loops : List StreamLoop := []
  deriving DecidableEq, Repr

namespace LiveHub

def setEntry (h : LiveHub) (i : Nat) (f : Watched → Watched) : LiveHub :=
  { h with entries := h.entries.modify i f }

def setLoop (h : LiveHub) (l : Nat) (f : StreamLoop → StreamLoop) : LiveHub :=
  { h with loops := h.loops.modify l f }

/-- `open`. -/
def openStream (h : LiveHub) (event : Int) (i : Nat) : LiveHub :=
  match h.entries[i]? with
  | none => h
  | some entry =>
    if entry.controller.isSome || !h.active then h
    else
      { h.setEntry i fun entry => { entry with controller := some h.loops.length } with
        loops := h.loops ++ [{ event, entry := i }] }

/-- `close`. -/
def close (h : LiveHub) (i : Nat) : LiveHub :=
  match h.entries[i]? with
  | none => h
  | some entry =>
    let h := match entry.controller with
      | some l => h.setLoop l fun loop => { loop with aborted := true }
      | none => h
    h.setEntry i fun entry => { entry with controller := none, live := false }

/-- The object of an event, made where the map has none. -/
def entryOf (h : LiveHub) (event : Int) : LiveHub × Nat :=
  match h.watched.lookup event with
  | some i => (h, i)
  | none =>
    ({ h with
        entries := h.entries ++ [{}]
        watched := h.watched ++ [(event, h.entries.length)] }, h.entries.length)

def watch (h : LiveHub) (event : Int) : LiveHub :=
  let (h, i) := h.entryOf event
  let h := (h.setEntry i fun entry => { entry with refs := entry.refs + 1 }).openStream event i
  { h with watches := h.watches ++ [{ event, entry := i }] }

/-- The release of watch `w`, which may be called again. -/
def release (h : LiveHub) (w : Nat) : Option LiveHub :=
  match h.watches[w]? with
  | none => none
  | some call =>
    if call.released then some h
    else
      let h := { h.setEntry call.entry fun entry => { entry with refs := entry.refs - 1 } with
        watches := h.watches.set w { call with released := true } }
      if h.entries[call.entry]?.map Watched.refs = some 0 then
        some { h.close call.entry with
          watched := h.watched.filter fun slot => slot.1 != call.event }
      else some h

def setActive (h : LiveHub) (next : Bool) : LiveHub :=
  if next = h.active then h
  else if next then
    h.watched.foldl (fun h slot => h.openStream slot.1 slot.2) { h with active := next }
  else h.watched.foldl (fun h slot => h.close slot.2) { h with active := next }

def isLive (h : LiveHub) (event : Int) : Bool :=
  match h.watched.lookup event with
  | some i => (h.entries[i]?.map Watched.live).getD false
  | none => false

/-! ### The loop's steps -/

/-- The handlers' turn after a message: `onOpen` for the first of its attempt, then `onPoke`, which
leaves the hub's state alone. -/
def deliver (h : LiveHub) (l : Nat) (loop : StreamLoop) : LiveHub :=
  if loop.opened then h.setLoop l fun loop => { loop with phase := .reading }
  else
    (h.setEntry loop.entry fun entry => { entry with live := true, gap := true }).setLoop l
      fun loop => { loop with phase := .reading, opened := true, everOpened := true }

/-- The stream of the attempt ended, failed or was cut by its stale timer. -/
def drop (h : LiveHub) (l : Nat) (loop : StreamLoop) : LiveHub :=
  if loop.aborted then h.setLoop l fun loop => { loop with phase := .finishing, opened := false }
  else
    (h.setEntry loop.entry fun entry => { entry with live := false }).setLoop l
      fun loop => { loop with phase := .sleeping, opened := false }

/-- The delay is over: the next attempt, if the loop is not aborted. -/
def wake (h : LiveHub) (l : Nat) (loop : StreamLoop) : LiveHub :=
  if loop.aborted then h.setLoop l fun loop => { loop with phase := .finishing }
  else h.setLoop l fun loop => { loop with phase := .reading }

/-- The hub's `finally`, which clears the slot only of its own controller. -/
def settle (h : LiveHub) (l : Nat) (loop : StreamLoop) : LiveHub :=
  (h.setEntry loop.entry fun entry =>
    if entry.controller = some l then { entry with controller := none } else entry).setLoop l
    fun loop => { loop with phase := .done }

end LiveHub

inductive LiveAction
  | watch (event : Int)
  | release (w : Nat)
  | setActive (next : Bool)
  | receive (l : Nat)
  | deliver (l : Nat)
  | drop (l : Nat)
  | wake (l : Nat)
  | settle (l : Nat)
  deriving DecidableEq, Repr

namespace LiveHub

/-- A step of loop `l`, possible where it stands at `phase`. -/
def loopStep (h : LiveHub) (l : Nat) (phase : LoopPhase) (f : StreamLoop → LiveHub) :
    Option LiveHub :=
  match h.loops[l]? with
  | none => none
  | some loop => if loop.phase = phase then some (f loop) else none

def step (h : LiveHub) : LiveAction → Option LiveHub
  | .watch event => some (h.watch event)
  | .release w => h.release w
  | .setActive next => some (h.setActive next)
  | .receive l => h.loopStep l .reading fun _ => h.setLoop l fun loop =>
      { loop with phase := .received }
  | .deliver l => h.loopStep l .received (h.deliver l)
  | .drop l => h.loopStep l .reading (h.drop l)
  | .wake l => h.loopStep l .sleeping (h.wake l)
  | .settle l => h.loopStep l .finishing (h.settle l)

end LiveHub

/-! ## How the parts refer to each other -/

namespace LiveHub

section Parts

variable (h : LiveHub) (i l : Nat) (f : Watched → Watched) (g : StreamLoop → StreamLoop)

@[simp] theorem setEntry_active : (h.setEntry i f).active = h.active := rfl

@[simp] theorem setEntry_watched : (h.setEntry i f).watched = h.watched := rfl

@[simp] theorem setEntry_watches : (h.setEntry i f).watches = h.watches := rfl

@[simp] theorem setEntry_loops : (h.setEntry i f).loops = h.loops := rfl

@[simp] theorem setLoop_active : (h.setLoop l g).active = h.active := rfl

@[simp] theorem setLoop_watched : (h.setLoop l g).watched = h.watched := rfl

@[simp] theorem setLoop_watches : (h.setLoop l g).watches = h.watches := rfl

@[simp] theorem setLoop_entries : (h.setLoop l g).entries = h.entries := rfl

theorem getElem?_setEntry (j : Nat) :
    (h.setEntry i f).entries[j]? = if i = j then h.entries[j]?.map f else h.entries[j]? := by
  simp only [setEntry, List.getElem?_modify]
  split
  · rfl
  · simp

theorem getElem?_setLoop (m : Nat) :
    (h.setLoop l g).loops[m]? = if l = m then h.loops[m]?.map g else h.loops[m]? := by
  simp only [setLoop, List.getElem?_modify]
  split
  · rfl
  · simp

end Parts

/-- The watches of object `i` that are not released. -/
def held (h : LiveHub) (i : Nat) : Nat :=
  h.watches.countP fun call => call.entry = i && !call.released

/-- Loop `l` runs for `event`, with its handlers on object `i`, and is not aborted. -/
def Streams (h : LiveHub) (event : Int) (i l : Nat) : Prop :=
  ∃ loop, h.loops[l]? = some loop ∧ loop.event = event ∧ loop.entry = i ∧ loop.aborted = false

/-- The map, the objects, the watches and the loops agree, where the objects in `on` have a loop
and the others have none, and `held` counts the watches of each. -/
structure Wired (on : Nat → Prop) (held : Nat → Nat) (h : LiveHub) : Prop where
  key : ∀ {e : Int} {i j : Nat}, (e, i) ∈ h.watched → (e, j) ∈ h.watched → i = j
  slot : ∀ {e f : Int} {i : Nat}, (e, i) ∈ h.watched → (f, i) ∈ h.watched → e = f
  entry : ∀ {e : Int} {i : Nat}, (e, i) ∈ h.watched → ∃ entry : Watched,
    h.entries[i]? = some entry ∧ entry.refs = held i ∧
      (on i → ∃ l, entry.controller = some l ∧ h.Streams e i l) ∧
      (¬ on i → entry.controller = none)
  call : ∀ {call : WatchCall}, call ∈ h.watches → call.released = false →
    (call.event, call.entry) ∈ h.watched
  loop : ∀ {l : Nat} {loop : StreamLoop}, h.loops[l]? = some loop → loop.aborted = false →
    (loop.event, loop.entry) ∈ h.watched ∧
      (∃ entry : Watched, h.entries[loop.entry]? = some entry ∧ entry.controller = some l) ∧
      loop.phase ≠ .finishing ∧ loop.phase ≠ .done

variable {h : LiveHub} {on : Nat → Prop} {held : Nat → Nat}

theorem Wired.congr {on' : Nat → Prop} {held' : Nat → Nat} (hw : Wired on held h)
    (hon : ∀ {e i}, (e, i) ∈ h.watched → (on i ↔ on' i))
    (hheld : ∀ {e i}, (e, i) ∈ h.watched → held i = held' i) : Wired on' held' h := by
  refine ⟨hw.key, hw.slot, ?_, hw.call, hw.loop⟩
  intro e i hi
  obtain ⟨entry, he, hrefs, hopen, hshut⟩ := hw.entry hi
  rw [hon hi] at hopen hshut
  exact ⟨entry, he, hrefs.trans (hheld hi), hopen, hshut⟩

theorem Wired.lookup {e : Int} {i : Nat} (hw : Wired on held h) :
    h.watched.lookup e = some i ↔ (e, i) ∈ h.watched := by
  constructor
  · intro hl
    obtain ⟨_, _, hsplit, _⟩ := List.lookup_eq_some_iff.mp hl
    rw [hsplit]
    simp
  · intro hi
    cases hl : h.watched.lookup e with
    | none =>
        have := List.lookup_eq_none_iff.mp hl (e, i) hi
        simp at this
    | some j =>
        obtain ⟨_, _, hsplit, _⟩ := List.lookup_eq_some_iff.mp hl
        have hj : (e, j) ∈ h.watched := by
          rw [hsplit]
          simp
        rw [hw.key hi hj]

/-- The controller of a watched object belongs to its own loop. -/
theorem Wired.streams_of_controller {e : Int} {i l : Nat} {entry : Watched} (hw : Wired on held h)
    (hi : (e, i) ∈ h.watched) (he : h.entries[i]? = some entry)
    (hc : entry.controller = some l) : h.Streams e i l := by
  obtain ⟨entry', he', _, hopen, hshut⟩ := hw.entry hi
  rw [he] at he'
  cases he'
  by_cases hon : on i
  · obtain ⟨l', hl', hstreams⟩ := hopen hon
    rw [hc] at hl'
    cases hl'
    exact hstreams
  · rw [hshut hon] at hc
    cases hc

/-! ### Opening and closing one object -/

/-- `open` gives the object its loop; the others keep what they have. -/
theorem Wired.openStream {e : Int} {i : Nat} (hw : Wired on held h) (hactive : h.active = true)
    (hi : (e, i) ∈ h.watched) : Wired (fun j => on j ∨ j = i) held (h.openStream e i) := by
  obtain ⟨entry, he, hrefs, hopen, hshut⟩ := hw.entry hi
  by_cases hc : entry.controller.isSome = true
  · have hsame : h.openStream e i = h := by simp [LiveHub.openStream, he, hc]
    rw [hsame]
    apply hw.congr
    · intro f j hj
      constructor
      · exact Or.inl
      · rintro (hon | rfl)
        · exact hon
        · apply Classical.byContradiction
          intro hoff
          rw [hshut hoff] at hc
          cases hc
    · exact fun _ => rfl
  · have hnone : entry.controller = none := by simpa using hc
    have hnew : h.openStream e i =
        { h.setEntry i fun entry => { entry with controller := some h.loops.length } with
          loops := h.loops ++ [{ event := e, entry := i }] } := by
      simp [LiveHub.openStream, he, hnone, hactive]
    rw [hnew]
    refine ⟨hw.key, hw.slot, ?_, hw.call, ?_⟩
    · intro f j hj
      obtain ⟨entry', he', hrefs', hopen', hshut'⟩ := hw.entry hj
      by_cases hij : i = j
      · subst hij
        obtain rfl := hw.slot hi hj
        refine ⟨{ entry with controller := some h.loops.length }, ?_, hrefs, ?_, ?_⟩
        · simp [getElem?_setEntry, he]
        · exact fun _ => ⟨_, rfl, { event := e, entry := i }, by simp, rfl, rfl, rfl⟩
        · exact fun hoff => absurd (Or.inr rfl) hoff
      · refine ⟨entry', by simp [getElem?_setEntry, he', hij], hrefs', ?_, ?_⟩
        · rintro (hon | heq)
          · obtain ⟨l, hl, loop, hloop, hrest⟩ := hopen' hon
            exact ⟨l, hl, loop, List.getElem?_append_left
              (List.getElem?_eq_some_iff.mp hloop).1 ▸ hloop, hrest⟩
          · exact absurd heq.symm hij
        · exact fun hoff => hshut' fun hon => hoff (Or.inl hon)
    · intro l loop hl haborted
      rcases Nat.lt_or_ge l h.loops.length with hlt | hge
      · rw [List.getElem?_append_left hlt] at hl
        obtain ⟨hmem, ⟨entry', he', hc'⟩, hphase⟩ := hw.loop hl haborted
        refine ⟨hmem, ?_, hphase⟩
        by_cases hij : i = loop.entry
        · rw [← hij, he] at he'
          cases he'
          rw [hnone] at hc'
          cases hc'
        · exact ⟨entry', by simp [getElem?_setEntry, he', hij], hc'⟩
      · rw [List.getElem?_append_right hge] at hl
        have hlast : l = h.loops.length := by
          have := (List.getElem?_eq_some_iff.mp hl).1
          simp at this
          omega
        subst hlast
        simp only [Nat.sub_self, List.getElem?_cons_zero, Option.some.injEq] at hl
        subst hl
        exact ⟨hi, ⟨_, by simp [getElem?_setEntry, he]; rfl, rfl⟩, by simp, by simp⟩

theorem openStream_inactive (e : Int) (i : Nat) (hactive : h.active = false) :
    h.openStream e i = h := by
  unfold LiveHub.openStream
  cases h.entries[i]? with
  | none => rfl
  | some entry => simp [hactive]

@[simp] theorem openStream_watched (h : LiveHub) (e : Int) (i : Nat) :
    (h.openStream e i).watched = h.watched := by
  unfold LiveHub.openStream
  cases h.entries[i]? with
  | none => rfl
  | some entry => cases hc : (entry.controller.isSome || !h.active) <;> simp [hc]

@[simp] theorem openStream_watches (h : LiveHub) (e : Int) (i : Nat) :
    (h.openStream e i).watches = h.watches := by
  unfold LiveHub.openStream
  cases h.entries[i]? with
  | none => rfl
  | some entry => cases hc : (entry.controller.isSome || !h.active) <;> simp [hc]

@[simp] theorem openStream_active (h : LiveHub) (e : Int) (i : Nat) :
    (h.openStream e i).active = h.active := by
  unfold LiveHub.openStream
  cases h.entries[i]? with
  | none => rfl
  | some entry => cases hc : (entry.controller.isSome || !h.active) <;> simp [hc]

theorem close_eq {i : Nat} {entry : Watched} (he : h.entries[i]? = some entry) :
    h.close i = (match entry.controller with
      | some l => h.setLoop l fun loop => { loop with aborted := true }
      | none => h).setEntry i fun entry => { entry with controller := none, live := false } := by
  simp only [close, he]

@[simp] theorem close_watched (h : LiveHub) (i : Nat) : (h.close i).watched = h.watched := by
  cases he : h.entries[i]? with
  | none => simp [close, he]
  | some entry =>
      rw [close_eq he]
      cases entry.controller <;> rfl

@[simp] theorem close_watches (h : LiveHub) (i : Nat) : (h.close i).watches = h.watches := by
  cases he : h.entries[i]? with
  | none => simp [close, he]
  | some entry =>
      rw [close_eq he]
      cases entry.controller <;> rfl

@[simp] theorem close_active (h : LiveHub) (i : Nat) : (h.close i).active = h.active := by
  cases he : h.entries[i]? with
  | none => simp [close, he]
  | some entry =>
      rw [close_eq he]
      cases entry.controller <;> rfl

theorem close_withWatches (h : LiveHub) (watches : List WatchCall) (i : Nat) :
    LiveHub.close { h with watches } i = { h.close i with watches } := by
  simp only [close]
  cases h.entries[i]? with
  | none => rfl
  | some entry => cases hc : entry.controller <;> simp only [hc] <;> rfl

theorem getElem?_entries_close {i : Nat} {entry : Watched} (he : h.entries[i]? = some entry)
    (j : Nat) : (h.close i).entries[j]? =
      if i = j then some { entry with controller := none, live := false } else h.entries[j]? := by
  rw [close_eq he, getElem?_setEntry]
  have hentries : (match entry.controller with
      | some l => h.setLoop l fun loop => { loop with aborted := true }
      | none => h).entries = h.entries := by
    cases entry.controller <;> rfl
  rw [hentries]
  by_cases hij : i = j
  · subst hij
    simp [he]
  · simp [hij]

theorem getElem?_loops_close {i : Nat} {entry : Watched} (he : h.entries[i]? = some entry)
    (m : Nat) : (h.close i).loops[m]? =
      if entry.controller = some m then
        h.loops[m]?.map fun loop => { loop with aborted := true }
      else h.loops[m]? := by
  rw [close_eq he, setEntry_loops]
  cases hc : entry.controller with
  | none => simp
  | some l =>
      rw [getElem?_setLoop]
      by_cases hl : l = m
      · simp [hl]
      · simp [hl]

/-- `close` takes the object's loop from it; the others keep theirs. -/
theorem Wired.close {e : Int} {i : Nat} (hw : Wired on held h) (hi : (e, i) ∈ h.watched) :
    Wired (fun j => on j ∧ j ≠ i) held (h.close i) := by
  obtain ⟨entry, he, hrefs, _, _⟩ := hw.entry hi
  refine ⟨by rw [close_watched]; exact hw.key, by rw [close_watched]; exact hw.slot, ?_,
    by rw [close_watches, close_watched]; exact hw.call, ?_⟩
  · intro f j hj
    rw [close_watched] at hj
    obtain ⟨entry', he', hrefs', hopen', hshut'⟩ := hw.entry hj
    rw [getElem?_entries_close he]
    by_cases hij : i = j
    · subst hij
      refine ⟨_, if_pos rfl, hrefs, fun hon => absurd rfl hon.2, fun _ => rfl⟩
    · refine ⟨entry', by rw [if_neg hij, he'], hrefs', ?_, ?_⟩
      · rintro ⟨hon, _⟩
        obtain ⟨l, hl, loop, hloop, hevent, hentry, haborted⟩ := hopen' hon
        refine ⟨l, hl, loop, ?_, hevent, hentry, haborted⟩
        rw [getElem?_loops_close he, if_neg, hloop]
        -- the loop of another object is not the one that is aborted
        intro hc
        obtain ⟨loop', hloop', _, hentry', _⟩ := hw.streams_of_controller hi he hc
        rw [hloop] at hloop'
        cases hloop'
        exact hij (hentry'.symm.trans hentry)
      · exact fun hoff => hshut' fun hon => hoff ⟨hon, fun heq => hij heq.symm⟩
  · intro l loop hl haborted
    rw [getElem?_loops_close he] at hl
    rw [close_watched]
    by_cases hc : entry.controller = some l
    · rw [if_pos hc] at hl
      cases hloop : h.loops[l]? with
      | none => simp [hloop] at hl
      | some loop' =>
          rw [hloop] at hl
          simp only [Option.map_some, Option.some.injEq] at hl
          subst hl
          cases haborted
    · rw [if_neg hc] at hl
      obtain ⟨hmem, ⟨entry', he', hc'⟩, hphase⟩ := hw.loop hl haborted
      refine ⟨hmem, ⟨entry', ?_, hc'⟩, hphase⟩
      rw [getElem?_entries_close he, if_neg, he']
      intro hij
      rw [← hij, he] at he'
      cases he'
      exact hc hc'

/-! ### The entry points -/

/-- Between two calls the objects of the map are open exactly where the hub is active, and each is
held by at least one watch. -/
structure Inv (h : LiveHub) : Prop where
  wired : Wired (fun _ => h.active = true) h.held h
  heldPos : ∀ {e : Int} {i : Nat}, (e, i) ∈ h.watched → 0 < h.held i

/-- What one call leaves alone, the walk over the map leaves alone. -/
theorem foldl_keeps {β : Type} {f : LiveHub → Int × Nat → LiveHub} (part : LiveHub → β)
    (hf : ∀ h slot, part (f h slot) = part h) (slots : List (Int × Nat)) :
    ∀ h, part (slots.foldl f h) = part h := by
  induction slots with
  | nil => exact fun h => rfl
  | cons slot slots ih => exact fun h => (ih (f h slot)).trans (hf h slot)

theorem Wired.foldl_openStream (slots : List (Int × Nat)) : ∀ (h : LiveHub) (on : Nat → Prop),
    Wired on held h → h.active = true → (∀ slot ∈ slots, slot ∈ h.watched) →
      Wired (fun j => on j ∨ j ∈ slots.map Prod.snd) held
        (slots.foldl (fun h slot => h.openStream slot.1 slot.2) h) := by
  induction slots with
  | nil =>
      intro h on hw _ _
      exact hw.congr (fun _ => by simp) fun _ => rfl
  | cons slot slots ih =>
      intro h on hw hactive hmem
      have hone := hw.openStream hactive (hmem slot (List.mem_cons_self ..))
      have hrest := ih (h.openStream slot.1 slot.2) _ hone
        ((openStream_active ..).trans hactive)
        (fun t ht => by rw [openStream_watched]; exact hmem t (List.mem_cons_of_mem _ ht))
      refine hrest.congr (fun _ => ?_) fun _ => rfl
      simp only [List.map_cons, List.mem_cons]
      tauto

theorem Wired.foldl_close (slots : List (Int × Nat)) : ∀ (h : LiveHub) (on : Nat → Prop),
    Wired on held h → (∀ slot ∈ slots, slot ∈ h.watched) →
      Wired (fun j => on j ∧ j ∉ slots.map Prod.snd) held
        (slots.foldl (fun h slot => h.close slot.2) h) := by
  induction slots with
  | nil =>
      intro h on hw _
      exact hw.congr (fun _ => by simp) fun _ => rfl
  | cons slot slots ih =>
      intro h on hw hmem
      have hone := hw.close (hmem slot (List.mem_cons_self ..))
      have hrest := ih (h.close slot.2) _ hone
        (fun t ht => by rw [close_watched]; exact hmem t (List.mem_cons_of_mem _ ht))
      refine hrest.congr (fun _ => ?_) fun _ => rfl
      simp only [List.map_cons, List.mem_cons]
      tauto

theorem Wired.withActive (hw : Wired on held h) (next : Bool) :
    Wired on held { h with active := next } :=
  ⟨hw.key, hw.slot, hw.entry, hw.call, hw.loop⟩

theorem Inv.setActive (hi : h.Inv) (next : Bool) : (h.setActive next).Inv := by
  by_cases hsame : next = h.active
  · rw [LiveHub.setActive, if_pos hsame]
    exact hi
  have hstart := hi.wired.withActive next
  have hslot : ∀ {e : Int} {i : Nat}, (e, i) ∈ h.watched → i ∈ h.watched.map Prod.snd :=
    fun hmem => List.mem_map_of_mem (f := Prod.snd) hmem
  cases next with
  | true =>
      have hoff : h.active = false := by simpa using Ne.symm hsame
      have hshut : Wired (fun _ => False) h.held { h with active := true } :=
        hstart.congr (fun _ => by simp [hoff]) fun _ => rfl
      have hopened := hshut.foldl_openStream h.watched _ _ rfl fun _ ht => ht
      have hwatched := foldl_keeps LiveHub.watched (f := fun h slot => h.openStream slot.1 slot.2)
        (fun _ _ => openStream_watched ..) h.watched { h with active := true }
      have hwatches := foldl_keeps LiveHub.watches (f := fun h slot => h.openStream slot.1 slot.2)
        (fun _ _ => openStream_watches ..) h.watched { h with active := true }
      have hactive := foldl_keeps LiveHub.active (f := fun h slot => h.openStream slot.1 slot.2)
        (fun _ _ => openStream_active ..) h.watched { h with active := true }
      rw [LiveHub.setActive, if_neg hsame, if_pos rfl]
      constructor
      · rw [hactive]
        apply hopened.congr
        · intro e i hmem
          rw [hwatched] at hmem
          simp [hslot hmem]
        · intro e i _
          simp only [LiveHub.held, hwatches]
      · intro e i hmem
        rw [hwatched] at hmem
        simp only [LiveHub.held, hwatches]
        exact hi.heldPos hmem
  | false =>
      have hclosed := hstart.foldl_close h.watched _ _ fun _ ht => ht
      have hwatched := foldl_keeps LiveHub.watched (f := fun h slot => h.close slot.2)
        (fun _ _ => close_watched ..) h.watched { h with active := false }
      have hwatches := foldl_keeps LiveHub.watches (f := fun h slot => h.close slot.2)
        (fun _ _ => close_watches ..) h.watched { h with active := false }
      have hactive := foldl_keeps LiveHub.active (f := fun h slot => h.close slot.2)
        (fun _ _ => close_active ..) h.watched { h with active := false }
      rw [LiveHub.setActive, if_neg hsame, if_neg Bool.false_ne_true]
      constructor
      · rw [hactive]
        apply hclosed.congr
        · intro e i hmem
          rw [hwatched] at hmem
          simp [hslot hmem]
        · intro e i _
          simp only [LiveHub.held, hwatches]
      · intro e i hmem
        rw [hwatched] at hmem
        simp only [LiveHub.held, hwatches]
        exact hi.heldPos hmem

/-! ### A loop's steps -/

/-- A loop may move on as long as an un-aborted one does not return. -/
theorem Wired.setLoop {l : Nat} {g : StreamLoop → StreamLoop} (hw : Wired on held h)
    (hevent : ∀ loop, (g loop).event = loop.event) (hentry : ∀ loop, (g loop).entry = loop.entry)
    (haborted : ∀ loop, (g loop).aborted = loop.aborted)
    (hphase : ∀ loop, h.loops[l]? = some loop → loop.aborted = false →
      (g loop).phase ≠ .finishing ∧ (g loop).phase ≠ .done) :
    Wired on held (h.setLoop l g) := by
  have hstreams : ∀ {e i m}, h.Streams e i m → (h.setLoop l g).Streams e i m := by
    rintro e i m ⟨loop, hloop, he, hi, ha⟩
    by_cases hlm : l = m
    · refine ⟨g loop, by simp [getElem?_setLoop, hlm, hloop], ?_, ?_, ?_⟩
      · rw [hevent, he]
      · rw [hentry, hi]
      · rw [haborted, ha]
    · exact ⟨loop, by simp [getElem?_setLoop, hlm, hloop], he, hi, ha⟩
  refine ⟨hw.key, hw.slot, ?_, hw.call, ?_⟩
  · intro e i hi
    obtain ⟨entry, he, hrefs, hopen, hshut⟩ := hw.entry hi
    refine ⟨entry, he, hrefs, fun hon => ?_, hshut⟩
    obtain ⟨m, hm, hs⟩ := hopen hon
    exact ⟨m, hm, hstreams hs⟩
  · intro m loop hm ha
    rw [getElem?_setLoop] at hm
    by_cases hlm : l = m
    · subst hlm
      rw [if_pos rfl] at hm
      cases hloop : h.loops[l]? with
      | none => simp [hloop] at hm
      | some loop' =>
          rw [hloop] at hm
          simp only [Option.map_some, Option.some.injEq] at hm
          subst hm
          rw [haborted] at ha
          obtain ⟨hmem, hslot, _⟩ := hw.loop hloop ha
          rw [hevent, hentry]
          exact ⟨hmem, hslot, hphase loop' hloop ha⟩
    · rw [if_neg hlm] at hm
      exact hw.loop hm ha

/-- An object may change where its controller stays and its references follow the count. -/
theorem Wired.setRefs {i : Nat} {f : Watched → Watched} {held' : Nat → Nat} (hw : Wired on held h)
    (hc : ∀ e entry, (e, i) ∈ h.watched → h.entries[i]? = some entry →
      (f entry).controller = entry.controller)
    (hrefs : ∀ e entry, (e, i) ∈ h.watched → h.entries[i]? = some entry →
      entry.refs = held i → (f entry).refs = held' i)
    (hother : ∀ j, j ≠ i → held' j = held j) : Wired on held' (h.setEntry i f) := by
  refine ⟨hw.key, hw.slot, ?_, hw.call, ?_⟩
  · intro e j hj
    obtain ⟨entry, he, hr, hopen, hshut⟩ := hw.entry hj
    by_cases hij : i = j
    · subst hij
      refine ⟨f entry, by simp [getElem?_setEntry, he], hrefs e entry hj he hr, ?_, ?_⟩
      · rw [hc e entry hj he]
        exact hopen
      · rw [hc e entry hj he]
        exact hshut
    · exact ⟨entry, by simp [getElem?_setEntry, hij, he],
        hr.trans (hother j (Ne.symm hij)).symm, hopen, hshut⟩
  · intro l loop hl ha
    obtain ⟨hmem, ⟨entry, he, hctl⟩, hphase⟩ := hw.loop hl ha
    refine ⟨hmem, ?_, hphase⟩
    by_cases hij : i = loop.entry
    · subst hij
      exact ⟨f entry, by simp [getElem?_setEntry, he], (hc _ entry hmem he).trans hctl⟩
    · exact ⟨entry, by simp [getElem?_setEntry, hij, he], hctl⟩

theorem Wired.setEntry {i : Nat} {f : Watched → Watched} (hw : Wired on held h)
    (hf : ∀ e entry, (e, i) ∈ h.watched → h.entries[i]? = some entry →
      (f entry).refs = entry.refs ∧ (f entry).controller = entry.controller) :
    Wired on held (h.setEntry i f) :=
  hw.setRefs (fun e entry hmem he => (hf e entry hmem he).2)
    (fun e entry hmem he hr => (hf e entry hmem he).1.trans hr) fun _ _ => rfl

theorem Inv.of_wired {h' : LiveHub} (hi : h.Inv) (hactive : h'.active = h.active)
    (hwatched : h'.watched = h.watched) (hwatches : h'.watches = h.watches)
    (hw : Wired (fun _ => h.active = true) h.held h') : h'.Inv := by
  constructor
  · rw [hactive]
    exact hw.congr (fun _ => Iff.rfl) fun _ => by simp only [LiveHub.held, hwatches]
  · intro e i hmem
    rw [hwatched] at hmem
    simp only [LiveHub.held, hwatches]
    exact hi.heldPos hmem

theorem Inv.deliver {l : Nat} {loop : StreamLoop} (hi : h.Inv) : (h.deliver l loop).Inv := by
  unfold LiveHub.deliver
  split
  · refine hi.of_wired rfl rfl rfl ?_
    exact hi.wired.setLoop (fun _ => rfl) (fun _ => rfl) (fun _ => rfl) fun _ _ _ => by simp
  · refine hi.of_wired rfl rfl rfl ?_
    refine Wired.setLoop ?_ (fun _ => rfl) (fun _ => rfl) (fun _ => rfl) fun _ _ _ => by simp
    exact hi.wired.setEntry fun _ _ _ _ => ⟨rfl, rfl⟩

theorem Inv.drop {l : Nat} {loop : StreamLoop} (hi : h.Inv) (hloop : h.loops[l]? = some loop) :
    (h.drop l loop).Inv := by
  unfold LiveHub.drop
  split
  · rename_i habort
    refine hi.of_wired rfl rfl rfl ?_
    refine hi.wired.setLoop (fun _ => rfl) (fun _ => rfl) (fun _ => rfl) ?_
    intro loop' hloop' hlive
    rw [hloop] at hloop'
    cases hloop'
    rw [habort] at hlive
    cases hlive
  · refine hi.of_wired rfl rfl rfl ?_
    refine Wired.setLoop ?_ (fun _ => rfl) (fun _ => rfl) (fun _ => rfl) fun _ _ _ => by simp
    exact hi.wired.setEntry fun _ _ _ _ => ⟨rfl, rfl⟩

theorem Inv.wake {l : Nat} {loop : StreamLoop} (hi : h.Inv) (hloop : h.loops[l]? = some loop) :
    (h.wake l loop).Inv := by
  unfold LiveHub.wake
  split
  · rename_i habort
    refine hi.of_wired rfl rfl rfl ?_
    refine hi.wired.setLoop (fun _ => rfl) (fun _ => rfl) (fun _ => rfl) ?_
    intro loop' hloop' hlive
    rw [hloop] at hloop'
    cases hloop'
    rw [habort] at hlive
    cases hlive
  · refine hi.of_wired rfl rfl rfl ?_
    exact hi.wired.setLoop (fun _ => rfl) (fun _ => rfl) (fun _ => rfl) fun _ _ _ => by simp

/-- The `finally` of a loop finds another controller in the slot, if any: only an aborted loop
returns, and the abort emptied the slot. -/
theorem Inv.settle {l : Nat} {loop : StreamLoop} (hi : h.Inv) (hloop : h.loops[l]? = some loop)
    (hphase : loop.phase = .finishing) : (h.settle l loop).Inv := by
  have habort : loop.aborted = true := by
    apply Classical.byContradiction
    intro hlive
    exact (hi.wired.loop hloop (by simpa using hlive)).2.2.1 hphase
  refine hi.of_wired rfl rfl rfl ?_
  refine Wired.setLoop ?_ (fun _ => rfl) (fun _ => rfl) (fun _ => rfl) ?_
  rotate_left
  · intro loop' hloop' hlive
    rw [setEntry_loops, hloop] at hloop'
    cases hloop'
    rw [habort] at hlive
    cases hlive
  · apply hi.wired.setEntry
    intro e entry hmem he
    by_cases hc : entry.controller = some l
    · obtain ⟨loop', hloop', _, _, hlive⟩ := hi.wired.streams_of_controller hmem he hc
      rw [hloop] at hloop'
      cases hloop'
      rw [habort] at hlive
      cases hlive
    · simp [hc]

/-! ### Watching and releasing -/

theorem Wired.withWatches {watches : List WatchCall} (hw : Wired on held h)
    (hcall : ∀ call ∈ watches, call.released = false → (call.event, call.entry) ∈ h.watched) :
    Wired on held { h with watches } :=
  ⟨hw.key, hw.slot, hw.entry, fun {call} => hcall call, hw.loop⟩

/-- A new object enters the map closed and unheld. -/
theorem Wired.entryOf {e : Int} (hw : Wired on held h) (hnone : h.watched.lookup e = none)
    (hheld : held h.entries.length = 0) :
    Wired (fun j => on j ∧ j ≠ h.entries.length) held (h.entryOf e).1 := by
  have hlt : ∀ {f : Int} {j : Nat}, (f, j) ∈ h.watched → j < h.entries.length := by
    intro f j hj
    obtain ⟨entry, he, _⟩ := hw.entry hj
    exact (List.getElem?_eq_some_iff.mp he).1
  have hnew : ∀ {j : Nat}, (e, j) ∉ h.watched := by
    intro j hj
    have := List.lookup_eq_none_iff.mp hnone _ hj
    simp at this
  have heq : h.entryOf e = ({ h with
      entries := h.entries ++ [{}]
      watched := h.watched ++ [(e, h.entries.length)] }, h.entries.length) := by
    simp only [LiveHub.entryOf, hnone]
  rw [heq]
  constructor
  · intro f j k hj hk
    simp only [List.mem_append, List.mem_singleton, Prod.mk.injEq] at hj hk
    rcases hj with hj | ⟨rfl, rfl⟩
    · rcases hk with hk | ⟨rfl, rfl⟩
      · exact hw.key hj hk
      · exact absurd hj hnew
    · rcases hk with hk | ⟨_, rfl⟩
      · exact absurd hk hnew
      · rfl
  · intro f g j hj hk
    simp only [List.mem_append, List.mem_singleton, Prod.mk.injEq] at hj hk
    rcases hj with hj | ⟨rfl, rfl⟩
    · rcases hk with hk | ⟨rfl, rfl⟩
      · exact hw.slot hj hk
      · exact absurd (hlt hj) (Nat.lt_irrefl _)
    · rcases hk with hk | ⟨rfl, _⟩
      · exact absurd (hlt hk) (Nat.lt_irrefl _)
      · rfl
  · intro f j hj
    simp only [List.mem_append, List.mem_singleton, Prod.mk.injEq] at hj
    rcases hj with hj | ⟨rfl, rfl⟩
    · obtain ⟨entry, he, hr, hopen, hshut⟩ := hw.entry hj
      have hj' := hlt hj
      refine ⟨entry, by simp [List.getElem?_append_left hj', he], hr, fun hon => hopen hon.1, ?_⟩
      exact fun hoff => hshut fun hon => hoff ⟨hon, Nat.ne_of_lt hj'⟩
    · exact ⟨{}, by simp, hheld.symm, fun hon => absurd rfl hon.2, fun _ => rfl⟩
  · intro call hcall hreleased
    exact List.mem_append_left _ (hw.call hcall hreleased)
  · intro l loop hl ha
    obtain ⟨hmem, ⟨entry, he, hc⟩, hphase⟩ := hw.loop hl ha
    exact ⟨List.mem_append_left _ hmem,
      ⟨entry, by simp [List.getElem?_append_left (hlt hmem), he], hc⟩, hphase⟩

/-- An event whose object is closed and held by nobody may leave the map. -/
theorem Wired.unmap {e : Int} {i : Nat} (hw : Wired on held h) (hi : (e, i) ∈ h.watched)
    (hoff : ¬ on i)
    (hcall : ∀ call ∈ h.watches, call.released = false → call.entry ≠ i) :
    Wired on held { h with watched := h.watched.filter fun slot => slot.1 != e } := by
  constructor
  · intro f j k hj hk
    exact hw.key (List.mem_filter.mp hj).1 (List.mem_filter.mp hk).1
  · intro f g j hj hk
    exact hw.slot (List.mem_filter.mp hj).1 (List.mem_filter.mp hk).1
  · intro f j hj
    exact hw.entry (List.mem_filter.mp hj).1
  · intro call hmem hreleased
    have hin := hw.call hmem hreleased
    refine List.mem_filter.mpr ⟨hin, ?_⟩
    simp only [bne_iff_ne, ne_eq]
    intro he
    rw [he] at hin
    exact hcall call hmem hreleased (hw.key hin hi)
  · intro l loop hl ha
    obtain ⟨hmem, ⟨entry, he, hc⟩, hphase⟩ := hw.loop hl ha
    refine ⟨List.mem_filter.mpr ⟨hmem, ?_⟩, ⟨entry, he, hc⟩, hphase⟩
    simp only [bne_iff_ne, ne_eq]
    intro hevent
    rw [hevent] at hmem
    have hentry := hw.key hmem hi
    obtain ⟨entry', he', _, _, hshut⟩ := hw.entry hi
    rw [hentry, he'] at he
    cases he
    rw [hshut hoff] at hc
    cases hc

theorem held_snoc (call : WatchCall) (i : Nat) :
    LiveHub.held { h with watches := h.watches ++ [call] } i =
      h.held i + if call.entry = i ∧ call.released = false then 1 else 0 := by
  simp only [LiveHub.held, List.countP_append, List.countP_singleton]
  congr 1
  cases hr : call.released <;> simp

theorem held_set {w : Nat} {call : WatchCall} (hcall : h.watches[w]? = some call)
    (hreleased : call.released = false) (i : Nat) :
    LiveHub.held { h with watches := h.watches.set w { call with released := true } } i =
      h.held i - if call.entry = i then 1 else 0 := by
  obtain ⟨hlt, hget⟩ := List.getElem?_eq_some_iff.mp hcall
  simp only [LiveHub.held, List.countP_set hlt, hget, hreleased]
  simp

/-- The rest of `watch`, once the event's object is found or made. -/
theorem Inv.retain {h₁ : LiveHub} {e : Int} {i : Nat} {on : Nat → Prop} (hi : h.Inv)
    (hw : Wired on h.held h₁) (hmem : (e, i) ∈ h₁.watched) (hactive : h₁.active = h.active)
    (hwatches : h₁.watches = h.watches)
    (hon : ∀ {f : Int} {j : Nat}, (f, j) ∈ h₁.watched → j ≠ i →
      (f, j) ∈ h.watched ∧ (on j ↔ h.active = true))
    (hoff : on i → h.active = true) :
    Inv { (h₁.setEntry i fun entry => { entry with refs := entry.refs + 1 }).openStream e i with
      watches := h₁.watches ++ [{ event := e, entry := i }] } := by
  have hone : Wired on (fun j => if j = i then h.held j + 1 else h.held j)
      (h₁.setEntry i fun entry => { entry with refs := entry.refs + 1 }) := by
    refine hw.setRefs (fun _ _ _ _ => rfl) (fun _ entry _ _ hr => ?_) fun j hj => ?_
    · simp [hr]
    · simp [hj]
  have hopened : Wired (fun _ => h.active = true)
      (fun j => if j = i then h.held j + 1 else h.held j)
      ((h₁.setEntry i fun entry => { entry with refs := entry.refs + 1 }).openStream e i) := by
    cases ha : h.active with
    | true =>
        refine (hone.openStream (hactive.trans ha) hmem).congr (fun {f j} hj => ?_) fun _ => rfl
        rw [openStream_watched, setEntry_watched] at hj
        by_cases hij : j = i
        · simp [hij]
        · have := (hon hj hij).2
          simp [this, ha]
    | false =>
        rw [openStream_inactive _ _ ((setEntry_active ..).trans (hactive.trans ha))]
        refine hone.congr (fun {f j} hj => ?_) fun _ => rfl
        rw [setEntry_watched] at hj
        by_cases hij : j = i
        · subst hij
          constructor
          · intro h
            rw [hoff h] at ha
            cases ha
          · intro h
            cases h
        · have := (hon hj hij).2
          rw [this, ha]
  have hheld : ∀ j, LiveHub.held
      { (h₁.setEntry i fun entry => { entry with refs := entry.refs + 1 }).openStream e i with
        watches := h₁.watches ++ [{ event := e, entry := i }] } j =
        if j = i then h.held j + 1 else h.held j := by
    intro j
    have hsnoc := held_snoc (h := h) { event := e, entry := i } j
    simp only [LiveHub.held, hwatches] at hsnoc ⊢
    rw [hsnoc]
    by_cases hij : j = i
    · simp [hij]
    · simp [hij, Ne.symm hij]
  constructor
  · have hcalls : ∀ call ∈ h₁.watches ++ [{ event := e, entry := i }], call.released = false →
        (call.event, call.entry) ∈ ((h₁.setEntry i fun entry =>
          { entry with refs := entry.refs + 1 }).openStream e i).watched := by
      intro call hcall hreleased
      rw [openStream_watched, setEntry_watched]
      rcases List.mem_append.mp hcall with hcall | hcall
      · exact hw.call hcall hreleased
      · rw [List.mem_singleton.mp hcall]
        exact hmem
    have hpushed := hopened.withWatches hcalls
    refine hpushed.congr (fun _ => ?_) fun _ => (hheld _).symm
    rw [openStream_active, setEntry_active, hactive]
  · intro f j hj
    rw [openStream_watched, setEntry_watched] at hj
    rw [hheld]
    by_cases hij : j = i
    · simp [hij]
    · rw [if_neg hij]
      exact hi.heldPos (hon hj hij).1

theorem Inv.watch (hi : h.Inv) (e : Int) : (h.watch e).Inv := by
  cases hl : h.watched.lookup e with
  | some i =>
      have heq : h.entryOf e = (h, i) := by simp only [LiveHub.entryOf, hl]
      simp only [LiveHub.watch, heq, openStream_watches, setEntry_watches]
      exact hi.retain hi.wired (hi.wired.lookup.mp hl) rfl rfl
        (fun hj _ => ⟨hj, Iff.rfl⟩) id
  | none =>
      have hfresh : h.held h.entries.length = 0 := by
        apply List.countP_eq_zero.mpr
        intro call hcall hcount
        simp only [Bool.and_eq_true, decide_eq_true_eq, Bool.not_eq_true'] at hcount
        obtain ⟨entry, he, _⟩ := hi.wired.entry (hi.wired.call hcall hcount.2)
        rw [hcount.1] at he
        exact absurd (List.getElem?_eq_some_iff.mp he).1 (Nat.lt_irrefl _)
      have hmade := hi.wired.entryOf hl hfresh
      have heq : h.entryOf e = ({ h with
          entries := h.entries ++ [{}]
          watched := h.watched ++ [(e, h.entries.length)] }, h.entries.length) := by
        simp only [LiveHub.entryOf, hl]
      rw [heq] at hmade
      simp only [LiveHub.watch, heq, openStream_watches, setEntry_watches]
      refine hi.retain hmade (by simp) rfl rfl ?_ And.left
      intro f j hj hne
      simp only [List.mem_append, List.mem_singleton, Prod.mk.injEq] at hj
      rcases hj with hj | ⟨_, rfl⟩
      · exact ⟨hj, by simp [hne]⟩
      · exact absurd rfl hne

theorem Inv.release {h' : LiveHub} {w : Nat} (hi : h.Inv) (hs : h.release w = some h') :
    h'.Inv := by
  unfold LiveHub.release at hs
  cases hcall : h.watches[w]? with
  | none => simp [hcall] at hs
  | some call =>
  simp only [hcall] at hs
  cases hreleased : call.released with
  | true =>
      rw [hreleased] at hs
      cases hs
      exact hi
  | false =>
  simp only [hreleased, Bool.false_eq_true, if_false] at hs
  have hmem := hi.wired.call (List.mem_of_getElem? hcall) hreleased
  obtain ⟨entry, he, hrefs, _, _⟩ := hi.wired.entry hmem
  have hheld := held_set hcall hreleased
  -- one reference less, and the watch marked
  have hless : Wired (fun _ => h.active = true)
      (LiveHub.held { h with watches := h.watches.set w { call with released := true } })
      { h.setEntry call.entry fun entry => { entry with refs := entry.refs - 1 } with
        watches := h.watches.set w { call with released := true } } := by
    refine Wired.withWatches (h := h.setEntry call.entry fun entry =>
      { entry with refs := entry.refs - 1 }) ?_ ?_
    · refine hi.wired.setRefs (fun _ _ _ _ => rfl) (fun _ entry _ _ hr => ?_) fun j hj => ?_
      · rw [hheld, if_pos rfl, ← hr]
      · rw [hheld, if_neg (Ne.symm hj), Nat.sub_zero]
    · intro call' hcall' hreleased'
      rcases List.mem_or_eq_of_mem_set hcall' with h | h
      · exact hi.wired.call h hreleased'
      · rw [h] at hreleased'
        cases hreleased'
  split at hs
  · rename_i hzero
    cases hs
    have hnone : LiveHub.held
        { h with watches := h.watches.set w { call with released := true } } call.entry = 0 := by
      rw [hheld, if_pos rfl, ← hrefs]
      simpa [getElem?_setEntry, he] using hzero
    have hgone := (hless.close hmem).unmap (by rw [close_watched]; exact hmem)
      (fun hon => hon.2 rfl) (by
        intro call' hcall' hreleased' hentry'
        rw [close_watches] at hcall'
        have := List.countP_eq_zero.mp hnone call' hcall'
        simp [hentry', hreleased'] at this)
    simp only [close_watched, setEntry_watched] at hgone
    constructor
    · refine hgone.congr (fun {f j} hj => ?_) fun _ => ?_
      · obtain ⟨hj, hne⟩ := List.mem_filter.mp hj
        simp only [bne_iff_ne, ne_eq] at hne
        rw [close_active]
        refine ⟨And.left, fun h => ⟨h, fun heq => hne ?_⟩⟩
        subst heq
        exact hi.wired.slot hj hmem
      · simp only [LiveHub.held, close_watches]
    · intro f j hj
      obtain ⟨hj, hne⟩ := List.mem_filter.mp hj
      simp only [bne_iff_ne, ne_eq] at hne
      have hother : j ≠ call.entry := by
        rintro rfl
        exact hne (hi.wired.slot hj hmem)
      have := hheld j
      rw [if_neg (Ne.symm hother), Nat.sub_zero] at this
      simp only [LiveHub.held, close_watches] at this ⊢
      rw [this]
      exact hi.heldPos hj
  · rename_i hzero
    cases hs
    refine ⟨hless, ?_⟩
    intro f j hj
    have := hheld j
    simp only [LiveHub.held] at this ⊢
    rw [this]
    have hpos := hi.heldPos hj
    simp only [LiveHub.held] at hpos
    by_cases hother : call.entry = j
    · subst hother
      have : entry.refs - 1 ≠ 0 := by simpa [getElem?_setEntry, he] using hzero
      have hr : entry.refs = h.watches.countP fun c => c.entry = call.entry && !c.released := hrefs
      rw [if_pos rfl]
      omega
    · rw [if_neg hother]
      omega

/-- A step of loop `l` finds the loop at its phase. -/
theorem loopStep_eq_some {h' : LiveHub} {l : Nat} {phase : LoopPhase} {f : StreamLoop → LiveHub}
    (hs : h.loopStep l phase f = some h') :
    ∃ loop, h.loops[l]? = some loop ∧ loop.phase = phase ∧ f loop = h' := by
  unfold loopStep at hs
  cases hl : h.loops[l]? with
  | none => simp [hl] at hs
  | some loop =>
      simp only [hl] at hs
      split at hs
      · exact ⟨loop, rfl, ‹_›, Option.some.inj hs⟩
      · cases hs

theorem Inv.step {h' : LiveHub} {a : LiveAction} (hi : h.Inv) (hs : h.step a = some h') :
    h'.Inv := by
  cases a with
  | watch event =>
      cases hs
      exact hi.watch event
  | release w => exact hi.release hs
  | setActive next =>
      cases hs
      exact hi.setActive next
  | receive l =>
      obtain ⟨loop, _, _, rfl⟩ := loopStep_eq_some hs
      refine hi.of_wired rfl rfl rfl ?_
      exact hi.wired.setLoop (fun _ => rfl) (fun _ => rfl) (fun _ => rfl) fun _ _ _ => by simp
  | deliver l =>
      obtain ⟨loop, _, _, rfl⟩ := loopStep_eq_some hs
      exact hi.deliver
  | drop l =>
      obtain ⟨loop, hl, _, rfl⟩ := loopStep_eq_some hs
      exact hi.drop hl
  | wake l =>
      obtain ⟨loop, hl, _, rfl⟩ := loopStep_eq_some hs
      exact hi.wake hl
  | settle l =>
      obtain ⟨loop, hl, hphase, rfl⟩ := loopStep_eq_some hs
      exact hi.settle hl hphase

theorem inv_start (active : Bool) : Inv { active } := by
  constructor
  · constructor <;> simp
  · simp

theorem inv_of_run {active : Bool} {as : List LiveAction} (hr : Run step { active } as h) :
    h.Inv :=
  hr.invariant (I := fun _ h => h.Inv) (inv_start active) fun _ _ _ _ hi hs => hi.step hs

/-! ## One loop for each event -/

/-- `l` is a loop of the event that is not aborted. -/
def Streaming (h : LiveHub) (e : Int) (l : Nat) : Prop :=
  ∃ loop, h.loops[l]? = some loop ∧ loop.event = e ∧ loop.aborted = false

/-- Somebody holds a watch of the event. -/
def Held (h : LiveHub) (e : Int) : Prop :=
  ∃ call ∈ h.watches, call.event = e ∧ call.released = false

/-- The hub runs one loop for an event that somebody watches while the hub is active, and none
otherwise; the loop does not end on its own. -/
structure OneLoop (h : LiveHub) : Prop where
  one : ∀ e, h.active = true → h.Held e → ∃! l, h.Streaming e l
  off : ∀ e, ¬ (h.active = true ∧ h.Held e) → ∀ l, ¬ h.Streaming e l
  running : ∀ (l : Nat) (loop : StreamLoop), h.loops[l]? = some loop → loop.aborted = false →
    loop.phase ≠ .finishing ∧ loop.phase ≠ .done

theorem Inv.held_of_mem (hi : h.Inv) {e : Int} {i : Nat} (hmem : (e, i) ∈ h.watched) :
    h.Held e := by
  obtain ⟨call, hcall, hcount⟩ := List.countP_pos_iff.mp (hi.heldPos hmem)
  simp only [Bool.and_eq_true, decide_eq_true_eq, Bool.not_eq_true'] at hcount
  have hin := hi.wired.call hcall hcount.2
  rw [hcount.1] at hin
  exact ⟨call, hcall, hi.wired.slot hin hmem, hcount.2⟩

theorem Inv.oneLoop (hi : h.Inv) : h.OneLoop := by
  constructor
  · rintro e hactive ⟨call, hcall, rfl, hreleased⟩
    have hmem := hi.wired.call hcall hreleased
    obtain ⟨entry, he, _, hopen, _⟩ := hi.wired.entry hmem
    obtain ⟨l, hl, loop, hloop, hevent, _, haborted⟩ := hopen hactive
    refine ⟨l, ⟨loop, hloop, hevent, haborted⟩, ?_⟩
    rintro m ⟨other, hother, hevent', haborted'⟩
    obtain ⟨hmem', ⟨entry', he', hc'⟩, _⟩ := hi.wired.loop hother haborted'
    rw [hevent'] at hmem'
    rw [hi.wired.key hmem' hmem, he] at he'
    cases he'
    rw [hl] at hc'
    cases hc'
    rfl
  · rintro e hnot l ⟨loop, hloop, hevent, haborted⟩
    obtain ⟨hmem, ⟨entry, he, hc⟩, _⟩ := hi.wired.loop hloop haborted
    rw [hevent] at hmem
    obtain ⟨entry', he', _, _, hshut⟩ := hi.wired.entry hmem
    rw [he] at he'
    cases he'
    have hoff : ¬ h.active = true := fun hactive => hnot ⟨hactive, hi.held_of_mem hmem⟩
    rw [hshut hoff] at hc
    cases hc
  · intro l loop hloop haborted
    exact (hi.wired.loop hloop haborted).2.2

/-! ## What `isLive` says -/

/-- A loop of the event that is not aborted has an open stream. -/
def hasOpenStream (h : LiveHub) (e : Int) : Bool :=
  h.loops.any fun loop => loop.event = e && !loop.aborted && loop.isOpen

def LiveHonest (h : LiveHub) : Prop := ∀ e, h.isLive e = true → h.hasOpenStream e = true

/-- The handlers of an aborted loop are called for the first message of its attempt while the
object they write to is still in the map, and its event has no open stream. -/
def lateOpen (h : LiveHub) : LiveAction → Bool
  | .deliver l =>
    match h.loops[l]? with
    | some loop =>
      loop.aborted && !loop.opened &&
        h.watched.any fun slot => slot.2 = loop.entry && !h.hasOpenStream slot.1
    | none => false
  | _ => false

theorem hasOpenStream_iff {e : Int} : h.hasOpenStream e = true ↔
    ∃ (l : Nat) (loop : StreamLoop), h.loops[l]? = some loop ∧ loop.event = e ∧
      loop.aborted = false ∧ loop.isOpen = true := by
  simp only [hasOpenStream, List.any_eq_true, List.mem_iff_getElem?, Bool.and_eq_true,
    decide_eq_true_eq, Bool.not_eq_true']
  constructor
  · rintro ⟨loop, ⟨l, hl⟩, ⟨he, ha⟩, ho⟩
    exact ⟨l, loop, hl, he, ha, ho⟩
  · rintro ⟨l, loop, hl, he, ha, ho⟩
    exact ⟨loop, ⟨l, hl⟩, ⟨he, ha⟩, ho⟩

/-- `LiveHonest`, read off the objects of the map. -/
def LiveOk (h : LiveHub) : Prop := ∀ (e : Int) (i : Nat) (entry : Watched),
  (e, i) ∈ h.watched → h.entries[i]? = some entry → entry.live = true → h.hasOpenStream e = true

theorem Wired.liveHonest_iff (hw : Wired on held h) : h.LiveHonest ↔ h.LiveOk := by
  constructor
  · intro hl e i entry hmem he hlive
    apply hl e
    simp [isLive, hw.lookup.mpr hmem, he, hlive]
  · intro hl e hlive
    unfold isLive at hlive
    cases hlook : h.watched.lookup e with
    | none => simp [hlook] at hlive
    | some i =>
        have hmem := hw.lookup.mp hlook
        obtain ⟨entry, he, _⟩ := hw.entry hmem
        simp only [hlook, he, Option.map_some, Option.getD_some] at hlive
        exact hl _ _ _ hmem he hlive

theorem LiveOk.setEntry {i : Nat} {f : Watched → Watched} (hl : h.LiveOk)
    (hf : ∀ entry : Watched, (f entry).live = true → entry.live = true) :
    (h.setEntry i f).LiveOk := by
  intro e j entry hmem he hlive
  rw [getElem?_setEntry] at he
  by_cases hij : i = j
  · rw [if_pos hij] at he
    cases hold : h.entries[j]? with
    | none => simp [hold] at he
    | some old =>
        rw [hold] at he
        cases he
        exact hl _ _ _ hmem hold (hf old hlive)
  · rw [if_neg hij] at he
    exact hl _ _ _ hmem he hlive

/-- A loop may move on as long as it does not lose an open stream. -/
theorem hasOpenStream_setLoop {l : Nat} {g : StreamLoop → StreamLoop} {e : Int}
    (hg : ∀ loop, h.loops[l]? = some loop → loop.event = e → loop.aborted = false →
      loop.isOpen = true → (g loop).event = e ∧ (g loop).aborted = false ∧ (g loop).isOpen = true)
    (ho : h.hasOpenStream e = true) : (h.setLoop l g).hasOpenStream e = true := by
  obtain ⟨m, loop, hm, he, ha, hopen⟩ := hasOpenStream_iff.mp ho
  rw [hasOpenStream_iff]
  by_cases hlm : l = m
  · subst hlm
    obtain ⟨he', ha', hopen'⟩ := hg loop hm he ha hopen
    exact ⟨l, g loop, by simp [getElem?_setLoop, hm], he', ha', hopen'⟩
  · exact ⟨m, loop, by simp [getElem?_setLoop, hlm, hm], he, ha, hopen⟩

theorem LiveOk.setLoop {l : Nat} {g : StreamLoop → StreamLoop} (hl : h.LiveOk)
    (hg : ∀ e loop, h.loops[l]? = some loop → loop.event = e → loop.aborted = false →
      loop.isOpen = true → (g loop).event = e ∧ (g loop).aborted = false ∧
        (g loop).isOpen = true) : (h.setLoop l g).LiveOk :=
  fun _ _ _ hmem he hlive => hasOpenStream_setLoop (hg _) (hl _ _ _ hmem he hlive)

theorem LiveOk.openStream (hl : h.LiveOk) (e : Int) (i : Nat) : (h.openStream e i).LiveOk := by
  unfold LiveHub.openStream
  cases h.entries[i]? with
  | none => exact hl
  | some entry =>
      cases hc : (entry.controller.isSome || !h.active) with
      | true =>
          simp only [hc, if_true]
          exact hl
      | false =>
          simp only [hc, Bool.false_eq_true, if_false]
          intro f j entry' hmem he hlive
          have hold := hl.setEntry (i := i)
            (f := fun entry => { entry with controller := some h.loops.length }) (fun _ h => h)
            _ _ _ hmem he hlive
          obtain ⟨l, loop, hloop, hrest⟩ := hasOpenStream_iff.mp hold
          refine hasOpenStream_iff.mpr ⟨l, loop, ?_, hrest⟩
          rw [setEntry_loops] at hloop
          exact (List.getElem?_append_left (List.getElem?_eq_some_iff.mp hloop).1).trans hloop

theorem LiveOk.close {e : Int} {i : Nat} (hl : h.LiveOk) (hw : Wired on held h)
    (hi : (e, i) ∈ h.watched) : (h.close i).LiveOk := by
  obtain ⟨entry, he, _⟩ := hw.entry hi
  intro f j entry' hmem he' hlive
  rw [close_watched] at hmem
  rw [getElem?_entries_close he] at he'
  by_cases hij : i = j
  · rw [if_pos hij] at he'
    cases he'
    cases hlive
  · rw [if_neg hij] at he'
    obtain ⟨l, loop, hloop, hevent, haborted, hopen⟩ := hasOpenStream_iff.mp (hl _ _ _ hmem he' hlive)
    refine hasOpenStream_iff.mpr ⟨l, loop, ?_, hevent, haborted, hopen⟩
    rw [getElem?_loops_close he, if_neg, hloop]
    -- the aborted loop runs for the closed object's event
    intro hc
    obtain ⟨loop', hloop', hevent', _⟩ := hw.streams_of_controller hi he hc
    rw [hloop] at hloop'
    cases hloop'
    rw [hevent] at hevent'
    subst hevent'
    exact hij (hw.key hi hmem)

theorem LiveOk.entryOf (hl : h.LiveOk) (e : Int) : (h.entryOf e).1.LiveOk := by
  unfold LiveHub.entryOf
  cases h.watched.lookup e with
  | some i => exact hl
  | none =>
      intro f j entry hmem he hlive
      rcases Nat.lt_or_ge j h.entries.length with hlt | hge
      · rw [List.getElem?_append_left hlt] at he
        simp only [List.mem_append, List.mem_singleton, Prod.mk.injEq] at hmem
        rcases hmem with hmem | ⟨_, rfl⟩
        · exact hl _ _ _ hmem he hlive
        · omega
      · rw [List.getElem?_append_right hge] at he
        have := List.mem_of_getElem? he
        rw [List.mem_singleton.mp this] at hlive
        cases hlive

theorem LiveOk.watch (hl : h.LiveOk) (e : Int) : (h.watch e).LiveOk := by
  have hheld : ((h.entryOf e).1.setEntry (h.entryOf e).2 fun entry =>
      { entry with refs := entry.refs + 1 }).LiveOk := (hl.entryOf e).setEntry fun _ h => h
  have hopened := hheld.openStream e (h.entryOf e).2
  exact fun _ _ _ hmem he hlive => hopened _ _ _ hmem he hlive

theorem LiveOk.release {h' : LiveHub} {w : Nat} (hl : h.LiveOk) (hi : h.Inv)
    (hs : h.release w = some h') : h'.LiveOk := by
  unfold LiveHub.release at hs
  cases hcall : h.watches[w]? with
  | none => simp [hcall] at hs
  | some call =>
  simp only [hcall] at hs
  cases hreleased : call.released with
  | true =>
      rw [hreleased] at hs
      cases hs
      exact hl
  | false =>
  simp only [hreleased, Bool.false_eq_true, if_false] at hs
  have hmem := hi.wired.call (List.mem_of_getElem? hcall) hreleased
  have hless : (h.setEntry call.entry fun entry =>
      { entry with refs := entry.refs - 1 }).LiveOk := hl.setEntry fun _ h => h
  have hwired : Wired (fun _ => h.active = true)
      (fun j => if j = call.entry then h.held j - 1 else h.held j)
      (h.setEntry call.entry fun entry => { entry with refs := entry.refs - 1 }) := by
    refine hi.wired.setRefs (fun _ _ _ _ => rfl) (fun _ entry _ _ hr => ?_) fun j hj => ?_
    · simp [hr]
    · simp [hj]
  split at hs
  · cases hs
    have hclosed := hless.close hwired hmem
    intro f j entry hj he hlive
    rw [close_withWatches] at he ⊢
    have := hclosed f j entry (by
      rw [close_watched]
      exact (List.mem_filter.mp hj).1) he hlive
    exact this
  · cases hs
    exact fun _ _ _ hmem he hlive => hless _ _ _ hmem he hlive

theorem LiveOk.foldl_openStream (slots : List (Int × Nat)) : ∀ h : LiveHub, h.LiveOk →
    (slots.foldl (fun h slot => h.openStream slot.1 slot.2) h).LiveOk := by
  induction slots with
  | nil => exact fun h hl => hl
  | cons slot slots ih => exact fun h hl => ih _ (hl.openStream slot.1 slot.2)

theorem LiveOk.foldl_close (slots : List (Int × Nat)) : ∀ (h : LiveHub) (on : Nat → Prop),
    Wired on held h → (∀ slot ∈ slots, slot ∈ h.watched) → h.LiveOk →
      (slots.foldl (fun h slot => h.close slot.2) h).LiveOk := by
  induction slots with
  | nil => exact fun h on _ _ hl => hl
  | cons slot slots ih =>
      intro h on hw hmem hl
      have hslot := hmem slot (List.mem_cons_self ..)
      refine ih (h.close slot.2) _ (hw.close hslot) ?_ (hl.close hw hslot)
      intro t ht
      rw [close_watched]
      exact hmem t (List.mem_cons_of_mem _ ht)

theorem LiveOk.setActive (hl : h.LiveOk) (hi : h.Inv) (next : Bool) : (h.setActive next).LiveOk := by
  unfold LiveHub.setActive
  split
  · exact hl
  · split
    · exact LiveOk.foldl_openStream _ _ fun _ _ _ hmem he hlive => hl _ _ _ hmem he hlive
    · exact LiveOk.foldl_close _ _ _ (hi.wired.withActive next) (fun _ ht => ht)
        fun _ _ _ hmem he hlive => hl _ _ _ hmem he hlive

/-- A loop that has no open stream may do as it likes. -/
theorem LiveOk.setLoop_shut {l : Nat} {loop : StreamLoop} {g : StreamLoop → StreamLoop}
    (hl : h.LiveOk) (hloop : h.loops[l]? = some loop)
    (hshut : loop.aborted = true ∨ loop.isOpen = false) : (h.setLoop l g).LiveOk := by
  apply hl.setLoop
  intro e loop' hloop' _ ha ho
  rw [hloop] at hloop'
  cases hloop'
  rcases hshut with h | h
  · rw [h] at ha
    cases ha
  · rw [h] at ho
    cases ho

/-- The handlers' turn keeps the promise unless it is a late opening. -/
theorem LiveOk.deliver {l : Nat} {loop : StreamLoop} (hl : h.LiveOk) (hi : h.Inv)
    (hloop : h.loops[l]? = some loop) (hlate : h.lateOpen (.deliver l) = false) :
    (h.deliver l loop).LiveOk := by
  unfold LiveHub.deliver
  split
  · apply hl.setLoop
    intro e loop' _ he ha ho
    exact ⟨he, ha, by
      simp only [StreamLoop.isOpen, Bool.and_eq_true] at ho ⊢
      exact ⟨ho.1, by simp⟩⟩
  · rename_i hunopened
    have hopened : loop.opened = false := by simpa using hunopened
    have hkept : ∀ e, h.hasOpenStream e = true → ((h.setEntry loop.entry fun entry =>
        { entry with live := true, gap := true }).setLoop l fun loop =>
          { loop with phase := .reading, opened := true, everOpened := true }).hasOpenStream e =
        true := by
      intro e ho
      apply hasOpenStream_setLoop
      · intro loop' hloop' he ha _
        exact ⟨he, ha, by simp [StreamLoop.isOpen]⟩
      · exact ho
    intro e j entry hmem he hlive
    rw [setLoop_watched, setEntry_watched] at hmem
    rw [setLoop_entries, getElem?_setEntry] at he
    by_cases hij : loop.entry = j
    · -- the object whose flag is set
      subst hij
      by_cases habort : loop.aborted = true
      · apply hkept
        simp only [lateOpen, hloop, habort, hopened, Bool.not_false, Bool.true_and,
          List.any_eq_false, Bool.and_eq_true, decide_eq_true_eq, Bool.not_eq_true',
          not_and] at hlate
        simpa using hlate (e, loop.entry) hmem rfl
      · have hnot : loop.aborted = false := by simpa using habort
        obtain ⟨hown, _⟩ := hi.wired.loop hloop hnot
        have hevent := hi.wired.slot hown hmem
        refine hasOpenStream_iff.mpr ⟨l,
          { loop with phase := .reading, opened := true, everOpened := true }, ?_, hevent, hnot, ?_⟩
        · simp [getElem?_setLoop, hloop]
        · simp [StreamLoop.isOpen]
    · rw [if_neg hij] at he
      exact hkept e (hl _ _ _ hmem he hlive)

theorem LiveOk.drop {l : Nat} {loop : StreamLoop} (hl : h.LiveOk) (hi : h.Inv)
    (hloop : h.loops[l]? = some loop) : (h.drop l loop).LiveOk := by
  unfold LiveHub.drop
  split
  · exact hl.setLoop_shut hloop (Or.inl ‹_›)
  · rename_i habort
    have hnot : loop.aborted = false := by simpa using habort
    obtain ⟨hown, _⟩ := hi.wired.loop hloop hnot
    intro e j entry hmem he hlive
    rw [setLoop_watched, setEntry_watched] at hmem
    rw [setLoop_entries, getElem?_setEntry] at he
    by_cases hij : loop.entry = j
    · rw [if_pos hij] at he
      cases hold : h.entries[j]? with
      | none => simp [hold] at he
      | some old =>
          rw [hold] at he
          cases he
          cases hlive
    · rw [if_neg hij] at he
      obtain ⟨m, other, hother, hevent, haborted, hopen⟩ :=
        hasOpenStream_iff.mp (hl _ _ _ hmem he hlive)
      refine hasOpenStream_iff.mpr ⟨m, other, ?_, hevent, haborted, hopen⟩
      rw [getElem?_setLoop, if_neg, setEntry_loops, hother]
      -- the loop that drops runs for another event
      rintro rfl
      rw [hloop] at hother
      cases hother
      rw [hevent] at hown
      exact hij (hi.wired.key hown hmem)

theorem LiveOk.step {h' : LiveHub} {a : LiveAction} (hl : h.LiveOk) (hi : h.Inv)
    (hs : h.step a = some h') (hlate : h.lateOpen a = false) : h'.LiveOk := by
  cases a with
  | watch event =>
      cases hs
      exact hl.watch event
  | release w => exact hl.release hi hs
  | setActive next =>
      cases hs
      exact hl.setActive hi next
  | receive l =>
      obtain ⟨loop, hloop, _, rfl⟩ := loopStep_eq_some hs
      apply hl.setLoop
      intro e loop' _ he ha ho
      simp only [StreamLoop.isOpen, Bool.and_eq_true] at ho ⊢
      exact ⟨he, ha, ho.1, by simp⟩
  | deliver l =>
      obtain ⟨loop, hloop, _, rfl⟩ := loopStep_eq_some hs
      exact hl.deliver hi hloop hlate
  | drop l =>
      obtain ⟨loop, hloop, _, rfl⟩ := loopStep_eq_some hs
      exact hl.drop hi hloop
  | wake l =>
      obtain ⟨loop, hloop, hphase, rfl⟩ := loopStep_eq_some hs
      have hshut : loop.isOpen = false := by simp [StreamLoop.isOpen, hphase]
      unfold LiveHub.wake
      split
      · exact hl.setLoop_shut hloop (Or.inr hshut)
      · exact hl.setLoop_shut hloop (Or.inr hshut)
  | settle l =>
      obtain ⟨loop, hloop, hphase, rfl⟩ := loopStep_eq_some hs
      have hshut : loop.isOpen = false := by simp [StreamLoop.isOpen, hphase]
      refine LiveOk.setLoop_shut ?_ ((setEntry_loops ..).symm ▸ hloop) (Or.inr hshut)
      apply hl.setEntry
      intro entry hlive
      by_cases hc : entry.controller = some l
      · rw [if_pos hc] at hlive
        exact hlive
      · rw [if_neg hc] at hlive
        exact hlive

/-- A late opening shows the event as live with no stream. -/
theorem not_liveOk_of_lateOpen {h' : LiveHub} {a : LiveAction} (hi : h.Inv)
    (hs : h.step a = some h') (hlate : h.lateOpen a = true) : ¬ h'.LiveOk := by
  cases a with
  | deliver l =>
      obtain ⟨loop, hloop, _, rfl⟩ := loopStep_eq_some hs
      simp only [lateOpen, hloop, Bool.and_eq_true, Bool.not_eq_true', List.any_eq_true,
        decide_eq_true_eq] at hlate
      obtain ⟨⟨habort, hopened⟩, ⟨e, i⟩, hmem, hentry, hnone⟩ := hlate
      simp only at hentry hnone
      subst hentry
      obtain ⟨entry, he, _⟩ := hi.wired.entry hmem
      intro hl
      have hlive := hl e loop.entry { entry with live := true, gap := true }
      simp only [LiveHub.deliver, hopened, Bool.false_eq_true, if_false, setLoop_watched,
        setEntry_watched, setLoop_entries, getElem?_setEntry, he] at hlive
      obtain ⟨m, other, hother, hevent, haborted, hopen⟩ :=
        hasOpenStream_iff.mp (hlive hmem rfl trivial)
      have hopenBefore : h.hasOpenStream e = true := by
        rw [getElem?_setLoop] at hother
        by_cases hlm : l = m
        · subst hlm
          rw [if_pos rfl, setEntry_loops, hloop] at hother
          cases hother
          rw [habort] at haborted
          cases haborted
        · rw [if_neg hlm] at hother
          exact hasOpenStream_iff.mpr ⟨m, other, hother, hevent, haborted, hopen⟩
      rw [hnone] at hopenBefore
      cases hopenBefore
  | _ => cases hlate

theorem liveOk_start (active : Bool) : LiveOk { active } := by
  intro e i entry hmem
  cases hmem

/-! ## The lifecycle -/

/-- After every run an event has its one loop or none, and `isLive` told the truth all along if and
only if no step of the run was a late opening. -/
theorem lifecycle_of_run {active : Bool} {as : List LiveAction}
    (hr : Run step { active } as h) :
    h.OneLoop ∧
      (RunMeeting step (fun h a => h.lateOpen a = false) { active } as h ↔
        ∀ bs t, bs <+: as → Run step { active } bs t → t.LiveHonest) := by
  refine ⟨(inv_of_run hr).oneLoop, ?_⟩
  induction hr with
  | start =>
      constructor
      · intro _ bs t hpre ht
        rw [List.prefix_nil.mp hpre] at ht
        obtain rfl := ht.unique .start
        exact (inv_start active).wired.liveHonest_iff.mpr (liveOk_start active)
      · exact fun _ => .start
  | @next as h h' a hr hs ih =>
      have hi := inv_of_run hr
      have hi' := hi.step hs
      rw [RunMeeting.snoc_iff hr hs, ih]
      constructor
      · rintro ⟨hall, hlate⟩ bs t hpre ht
        rcases List.prefix_concat_iff.mp hpre with rfl | hpre
        · obtain rfl := ht.unique (hr.next hs)
          have hl := hi.wired.liveHonest_iff.mp (hall _ _ (List.prefix_refl _) hr)
          exact hi'.wired.liveHonest_iff.mpr (hl.step hi hs hlate)
        · exact hall bs t hpre ht
      · intro hall
        refine ⟨fun bs t hpre ht => hall bs t (hpre.trans (List.prefix_append ..)) ht, ?_⟩
        apply Classical.byContradiction
        intro hlate
        apply not_liveOk_of_lateOpen hi hs (by simpa using hlate)
        exact hi'.wired.liveHonest_iff.mp (hall _ _ (List.prefix_refl _) (hr.next hs))

/-- Two screens watch an event, one leaves it, and the app goes to the background and comes back. -/
def watchedTwice : List LiveAction :=
  [.watch 1, .receive 0, .deliver 0, .watch 1, .release 0, .release 0, .setActive false, .drop 0,
    .settle 0, .setActive true, .receive 1, .deliver 1]

theorem lifecycle_of_run_watchedTwice :
    ∃ h, Run step {} watchedTwice h ∧ h.OneLoop ∧ h.LiveHonest ∧ h.isLive 1 = true := by
  have hmeeting : RunMeeting step (fun h a => h.lateOpen a = false) {} watchedTwice
      ((exec step {} watchedTwice).get (by decide)) :=
    runMeeting_of_exec (by decide)
  obtain ⟨hone, hlive⟩ := lifecycle_of_run hmeeting.run
  exact ⟨_, hmeeting.run, hone, hlive.mp hmeeting _ _ (List.prefix_refl _) hmeeting.run, by decide⟩

/-- A stream's first message comes, the app leaves the foreground, and the handlers run. -/
def openedInBackground : List LiveAction :=
  [.watch 1, .receive 0, .setActive false, .deliver 0]

theorem openedInBackground_live :
    ∃ h, Run step {} openedInBackground h ∧ h.isLive 1 = true ∧ h.hasOpenStream 1 = false ∧
      ¬ h.LiveHonest := by
  have hrun : Run step {} openedInBackground
      ((exec step {} openedInBackground).get (by decide)) :=
    run_of_exec (by decide)
  refine ⟨_, hrun, by decide, by decide, ?_⟩
  intro h
  exact absurd (h 1 (by decide)) (by decide)

end LiveHub

end OcfIms
