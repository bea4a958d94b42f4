import OcfIms.LiveHub
import OcfIms.PatchedRow

/-!
# The live list

`patchIncidentList` of `features/live/hub.ts` over the hub's streams: what the cached
`listIncidents` of an event shows while commits, pokes, row reads and whole-list reads overtake
each other. The hub itself is the one of `LiveHub`; here its loops also carry messages. The server
is what its reads answer this viewer, and a session of it checks a poke when it takes it: one for an
incident that the viewer may not see then is withheld.

A cached list is what the last list read left, with the patches since. Reports' pokes touch no
incident list, and are left out.
-/

namespace OcfIms

open RunLib

/-! ## The rows of a list -/

/-- The rows that show incident `n`. -/
def rowsOf (rows : List IncidentView) (n : Int) : List IncidentView :=
  rows.filter fun view => view.incident.number = n

/-- No two rows show the same incident. -/
def OneRowEach (rows : List IncidentView) : Prop := ∀ n, (rowsOf rows n).length ≤ 1

/-- The updater of `setQueriesData`: the row of `n` is replaced, inserted or removed. -/
def patchRows (rows : List IncidentView) (n : Int) (patched : Option IncidentView) :
    List IncidentView :=
  match rows.findIdx? (fun view => view.incident.number = n), patched with
  | none, none => rows
  | some i, none => rows.eraseIdx i
  | none, some view => rows ++ [view]
  | some i, some view => rows.set i view

@[simp] theorem stripSystemEntries_number (view : IncidentView) :
    (stripSystemEntries view).incident.number = view.incident.number := rfl

section Rows

variable {rows : List IncidentView} {n m : Int} {view : IncidentView}

theorem rowsOf_append (rows rows' : List IncidentView) (n : Int) :
    rowsOf (rows ++ rows') n = rowsOf rows n ++ rowsOf rows' n :=
  List.filter_append ..

theorem rowsOf_singleton (view : IncidentView) (n : Int) :
    rowsOf [view] n = if view.incident.number = n then [view] else [] := by
  simp [rowsOf, List.filter_cons]

theorem rowsOf_middle (before : List IncidentView) (view : IncidentView)
    (after : List IncidentView) (n : Int) : rowsOf (before ++ view :: after) n =
      rowsOf before n ++ (if view.incident.number = n then [view] else []) ++ rowsOf after n := by
  rw [List.append_cons, rowsOf_append, rowsOf_append, rowsOf_singleton]

theorem rowsOf_strip (rows : List IncidentView) (n : Int) :
    rowsOf (rows.map stripSystemEntries) n = (rowsOf rows n).map stripSystemEntries := by
  simp only [rowsOf, List.filter_map]
  rfl

theorem rowsOf_eq_nil (h : ∀ view ∈ rows, view.incident.number ≠ n) : rowsOf rows n = [] := by
  simpa [rowsOf] using h

/-- A list is cut at the first row of `n`. -/
theorem split_of_findIdx? {i : Nat}
    (hi : rows.findIdx? (fun view => view.incident.number = n) = some i) :
    ∃ before old after, rows = before ++ old :: after ∧ before.length = i ∧
      old.incident.number = n ∧ ∀ view ∈ before, view.incident.number ≠ n := by
  rw [List.findIdx?_eq_some_iff_getElem] at hi
  obtain ⟨hlt, hold, hbefore⟩ := hi
  refine ⟨rows.take i, rows[i], rows.drop (i + 1), ?_, ?_, by simpa using hold, ?_⟩
  · rw [List.getElem_cons_drop, List.take_append_drop]
  · simp only [List.length_take]
    omega
  · intro view hview
    obtain ⟨j, hj, rfl⟩ := List.mem_take_iff_getElem.mp hview
    simpa using hbefore j (by omega)

/-- The other rows stay, and the row of `n` is what the patch says. -/
theorem rowsOf_patchRows (hone : OneRowEach rows) (patched : Option IncidentView)
    (hnumber : ∀ view ∈ patched, view.incident.number = n) (m : Int) :
    rowsOf (patchRows rows n patched) m = if m = n then patched.toList else rowsOf rows m := by
  unfold patchRows
  cases hi : rows.findIdx? fun view => view.incident.number = n with
  | none =>
      have hnone : rowsOf rows n = [] := by
        apply rowsOf_eq_nil
        simpa using hi
      cases patched with
      | none =>
          by_cases hm : m = n
          · simp [hm, hnone]
          · simp [hm]
      | some view =>
          have hview : view.incident.number = n := hnumber view rfl
          simp only [rowsOf_append, rowsOf_singleton, hview]
          by_cases hm : m = n
          · simp [hm, hnone]
          · simp [hm, Ne.symm hm]
  | some i =>
      obtain ⟨before, old, after, rfl, rfl, hold, hbefore⟩ := split_of_findIdx? hi
      have hrest : rowsOf after n = [] := by
        have hlen := hone n
        rw [rowsOf_append, rowsOf_eq_nil hbefore, List.nil_append] at hlen
        simpa [rowsOf, hold] using hlen
      cases patched with
      | none =>
          have herase : (before ++ old :: after).eraseIdx before.length = before ++ after := by
            simp [List.eraseIdx_append_of_length_le]
          change rowsOf ((before ++ old :: after).eraseIdx before.length) m = _
          rw [herase, rowsOf_middle, rowsOf_append]
          by_cases hm : m = n
          · subst hm
            simp [rowsOf_eq_nil hbefore, hrest]
          · simp [hold, hm, Ne.symm hm]
      | some view =>
          have hview : view.incident.number = n := hnumber view rfl
          have hset : (before ++ old :: after).set before.length view =
              before ++ view :: after := by
            simp
          simp only [hset, rowsOf_middle, hold, hview]
          by_cases hm : m = n
          · subst hm
            simp [rowsOf_eq_nil hbefore, hrest]
          · simp [hm, Ne.symm hm]

theorem OneRowEach.patch (hone : OneRowEach rows) (patched : Option IncidentView)
    (hnumber : ∀ view ∈ patched, view.incident.number = n) :
    OneRowEach (patchRows rows n patched) := by
  intro m
  rw [rowsOf_patchRows hone patched hnumber]
  split
  · cases patched <;> simp
  · exact hone m

theorem OneRowEach.strip (hone : OneRowEach rows) :
    OneRowEach (rows.map stripSystemEntries) := by
  intro m
  rw [rowsOf_strip, List.length_map]
  exact hone m

end Rows

/-! ## The server -/

/-- The incidents of an event that the viewer may see, after a commit to number `n`: the viewer sees
`view` of it now, or nothing. The order is the server's. -/
def putIncident (incidents : List IncidentView) (n : Int) (view : Option IncidentView) :
    List IncidentView :=
  incidents.filter (fun old => old.incident.number ≠ n) ++ view.toList

theorem rowsOf_putIncident {n : Int} {view : Option IncidentView}
    (hnumber : ∀ v ∈ view, v.incident.number = n) (incidents : List IncidentView) (m : Int) :
    rowsOf (putIncident incidents n view) m =
      if m = n then view.toList else rowsOf incidents m := by
  have hkept : rowsOf (incidents.filter fun old => old.incident.number ≠ n) m =
      if m = n then [] else rowsOf incidents m := by
    rw [rowsOf, List.filter_filter]
    split
    · rename_i hm
      subst hm
      simp
    · rename_i hm
      refine List.filter_congr fun old _ => ?_
      by_cases hold : old.incident.number = m
      · simp [hold, hm]
      · simp [hold]
  rw [putIncident, rowsOf_append, hkept]
  cases view with
  | none => simp [rowsOf]
  | some v =>
      have hv : v.incident.number = n := hnumber v rfl
      simp only [Option.toList_some, rowsOf_singleton, hv]
      by_cases hm : m = n
      · simp [hm]
      · simp [hm, Ne.symm hm]

/-- A message of a stream. -/
inductive EventPoke
  | heartbeat
  | incidentChanged (eventID number : Int)
  deriving DecidableEq, Repr

/-- A `getIncident` call of `patchIncidentList`. -/
structure PatchRead where
  event : Int
  number : Int
  seq : Nat
  /-- What the server has read: the view, or NotFound. -/
  answer : Option (Option IncidentView) := none
  settled : Bool := false
  deriving DecidableEq, Repr

/-- A `listIncidents` call of the event's list query. -/
structure ListRead where
  event : Int
  answer : Option (List IncidentView) := none
  settled : Bool := false
  deriving DecidableEq, Repr

/-- The server as the viewer reads it, the streams on their way, and the client. -/
structure LiveList where
  hub : LiveHub := {}
  /-- The incidents of an event that the viewer may see. -/
  incidents : Int → List IncidentView := fun _ => []
  /-- The pokes that wait in the server's session of a loop's attempt, while there is one. -/
  sessions : Nat → Option (List EventPoke) := fun _ => none
  /-- What a session has written and the loop not taken. -/
  wire : Nat → List EventPoke := fun _ => []
  /-- The message whose handlers are to be called. -/
  taken : Nat → Option EventPoke := fun _ => none
  patchSeq : Int × Int → Nat := fun _ => 0
  patchReads : List PatchRead := []
  listReads : List ListRead := []
  cached : Int → Option (List IncidentView) := fun _ => none
  /-- The list has been invalidated since one was last put into the cache. -/
  invalidated : Int → Bool := fun _ => false

namespace LiveList

/-! ### What the server answers -/

def getIncident (s : LiveList) (e n : Int) : Option IncidentView :=
  (s.incidents e).find? fun view => view.incident.number = n

/-- `ListIncidents` with the system entries left out. -/
def listIncidents (s : LiveList) (e : Int) : List IncidentView :=
  (s.incidents e).map stripSystemEntries

/-- A write to incident `n`, after which the viewer sees `view` of it, and its poke on every session
of the event. -/
def commit (s : LiveList) (e n : Int) (view : Option IncidentView) : LiveList :=
  { s with
    incidents := Function.update s.incidents e (putIncident (s.incidents e) n view)
    sessions := fun l => (s.sessions l).map fun pokes =>
      if s.hub.loops[l]?.map StreamLoop.event = some e then pokes ++ [.incidentChanged e n]
      else pokes }

/-- `pokeVisible`, for the viewer. -/
def visible (s : LiveList) : EventPoke → Bool
  | .heartbeat => true
  | .incidentChanged e n => (s.getIncident e n).isSome

/-! ### The handlers -/

def invalidateList (s : LiveList) (e : Int) : LiveList :=
  { s with invalidated := Function.update s.invalidated e true }

/-- `patchIncidentList`, up to its request. -/
def startPatch (s : LiveList) (e n : Int) : LiveList :=
  { s with
    patchSeq := Function.update s.patchSeq (e, n) (s.patchSeq (e, n) + 1)
    patchReads := s.patchReads ++ [{ event := e, number := n, seq := s.patchSeq (e, n) + 1 }] }

/-- `onOpen`, for the first message of an attempt: `refetchEvent` where it resumes. -/
def onOpen (s : LiveList) (loop : StreamLoop) : LiveList :=
  let gap := (s.hub.entries[loop.entry]?.map Watched.gap).getD false
  if !loop.opened && (loop.everOpened || gap) then s.invalidateList loop.event else s

def onPoke (s : LiveList) : EventPoke → LiveList
  | .heartbeat => s
  | .incidentChanged e n => s.startPatch e n

def setRead (s : LiveList) (r : Nat) (f : PatchRead → PatchRead) : LiveList :=
  { s with patchReads := s.patchReads.modify r f }

def setListRead (s : LiveList) (k : Nat) (f : ListRead → ListRead) : LiveList :=
  { s with listReads := s.listReads.modify k f }

/-- The end of `patchIncidentList`: only the latest fetch may write. -/
def patchIncidentList (s : LiveList) (read : PatchRead) (incident : Option IncidentView) :
    LiveList :=
  if s.patchSeq (read.event, read.number) ≠ read.seq then s
  else
    { s with cached := Function.update s.cached read.event ((s.cached read.event).map fun rows =>
        patchRows rows read.number (incident.map stripSystemEntries)) }

/-- The list query's answer replaces the cached list. -/
def putList (s : LiveList) (e : Int) (rows : List IncidentView) : LiveList :=
  { s with
    cached := Function.update s.cached e (some rows)
    invalidated := Function.update s.invalidated e false }

end LiveList

inductive ListAction
  /-- A step of the hub in which no message moves. -/
  | hub (a : LiveAction)
  | subscribe (l : Nat)
  | hangUp (l : Nat)
  | beat (l : Nat)
  | send (l : Nat)
  | receive (l : Nat)
  | deliver (l : Nat)
  | drop (l : Nat)
  | commit (event number : Int) (view : Option IncidentView)
  | readIncident (r : Nat)
  | incidentAnswered (r : Nat)
  | incidentFailed (r : Nat)
  | fetchList (event : Int)
  | readList (k : Nat)
  | listAnswered (k : Nat)
  | listFailed (k : Nat)
  deriving DecidableEq, Repr

/-- The steps of a loop that have to do with its messages. -/
def LiveAction.movesMessage : LiveAction → Bool
  | .receive _ => true
  | .deliver _ => true
  | .drop _ => true
  | _ => false

namespace LiveList

/-- The server registers a loop's attempt and writes the first beat. -/
def subscribe (s : LiveList) (l : Nat) : Option LiveList :=
  match s.hub.loops[l]?, s.sessions l, s.wire l with
  | some loop, none, [] =>
    if loop.phase = .reading && !loop.opened then
      some { s with
        sessions := Function.update s.sessions l (some [])
        wire := Function.update s.wire l [.heartbeat] }
    else none
  | _, _, _ => none

/-- The session takes a poke, and writes it or withholds it. -/
def send (s : LiveList) (l : Nat) : Option LiveList :=
  match s.sessions l with
  | some (poke :: rest) =>
    some { s with
      sessions := Function.update s.sessions l (some rest)
      wire := if s.visible poke then Function.update s.wire l (s.wire l ++ [poke]) else s.wire }
  | _ => none

def receive (s : LiveList) (l : Nat) : Option LiveList :=
  match s.wire l, s.taken l, s.hub.step (.receive l) with
  | poke :: rest, none, some hub =>
    some { s with
      hub, wire := Function.update s.wire l rest, taken := Function.update s.taken l (some poke) }
  | _, _, _ => none

def deliver (s : LiveList) (l : Nat) : Option LiveList :=
  match s.taken l, s.hub.loops[l]?, s.hub.step (.deliver l) with
  | some poke, some loop, some hub =>
    some (({ s.onOpen loop with hub, taken := Function.update s.taken l none } :
      LiveList).onPoke poke)
  | _, _, _ => none

def step (s : LiveList) : ListAction → Option LiveList
  | .hub a => if a.movesMessage then none else (s.hub.step a).map fun hub => { s with hub }
  | .subscribe l => s.subscribe l
  | .hangUp l =>
    (s.sessions l).map fun _ => { s with sessions := Function.update s.sessions l none }
  | .beat l =>
    (s.sessions l).map fun _ =>
      { s with wire := Function.update s.wire l (s.wire l ++ [.heartbeat]) }
  | .send l => s.send l
  | .receive l => s.receive l
  | .deliver l => s.deliver l
  | .drop l =>
    (s.hub.step (.drop l)).map fun hub =>
      { s with
        hub, sessions := Function.update s.sessions l none, wire := Function.update s.wire l [] }
  | .commit e n view =>
    if view.all fun v => v.incident.number = n then some (s.commit e n view) else none
  | .readIncident r =>
    match s.patchReads[r]? with
    | some read =>
      if read.settled || read.answer.isSome then none
      else some (s.setRead r fun read =>
        { read with answer := some (s.getIncident read.event read.number) })
    | none => none
  | .incidentAnswered r =>
    match s.patchReads[r]? with
    | some read =>
      match read.settled, read.answer with
      | false, some incident =>
        some ((s.setRead r fun read => { read with settled := true }).patchIncidentList read
          incident)
      | _, _ => none
    | none => none
  | .incidentFailed r =>
    match s.patchReads[r]? with
    | some read =>
      if read.settled then none
      else some ((s.setRead r fun read => { read with settled := true }).invalidateList read.event)
    | none => none
  | .fetchList e => some { s with listReads := s.listReads ++ [{ event := e }] }
  | .readList k =>
    match s.listReads[k]? with
    | some read =>
      if read.settled || read.answer.isSome then none
      else some (s.setListRead k fun read =>
        { read with answer := some (s.listIncidents read.event) })
    | none => none
  | .listAnswered k =>
    match s.listReads[k]? with
    | some read =>
      match read.settled, read.answer with
      | false, some rows =>
        some ((s.setListRead k fun read => { read with settled := true }).putList read.event rows)
      | _, _ => none
    | none => none
  | .listFailed k =>
    match s.listReads[k]? with
    | some read =>
      if read.settled then none
      else some (s.setListRead k fun read => { read with settled := true })
    | none => none

end LiveList

/-! ## What a step of the hub leaves alone -/

namespace LiveHub

variable {h h' h'' : LiveHub} {i l : Nat}

/-- A loop that backs off has no open stream. -/
def Rested (h : LiveHub) : Prop := ∀ {l : Nat} {loop : StreamLoop}, h.loops[l]? = some loop →
  loop.phase = .sleeping → loop.opened = false

/-- No stream has come open that was not, and every object that has seen one open still says so. -/
structure Onward (h h' : LiveHub) : Prop where
  rested : h.Rested → h'.Rested
  open' : ∀ {l : Nat} {loop' : StreamLoop}, h'.loops[l]? = some loop' → loop'.aborted = false →
    loop'.isOpen = true → ∃ loop, h.loops[l]? = some loop ∧ loop.aborted = false ∧
      loop.isOpen = true ∧ loop.event = loop'.event
  gap : ∀ {i : Nat}, h.entries[i]?.map Watched.gap = some true →
    h'.entries[i]?.map Watched.gap = some true

theorem Onward.refl (h : LiveHub) : Onward h h :=
  ⟨fun hr => hr, fun hl ha ho => ⟨_, hl, ha, ho, rfl⟩, fun hg => hg⟩

theorem Onward.trans (h₁ : Onward h h') (h₂ : Onward h' h'') : Onward h h'' := by
  refine ⟨fun hr => h₂.rested (h₁.rested hr), fun hl ha ho => ?_, fun hg => h₂.gap (h₁.gap hg)⟩
  obtain ⟨loop', hl', ha', ho', he'⟩ := h₂.open' hl ha ho
  obtain ⟨loop, hl'', ha'', ho'', he''⟩ := h₁.open' hl' ha' ho'
  exact ⟨loop, hl'', ha'', ho'', he''.trans he'⟩

theorem Onward.of_parts (hloops : h'.loops = h.loops) (hentries : h'.entries = h.entries) :
    Onward h h' := by
  refine ⟨fun hr => ?_, fun hl ha ho => ?_, fun hg => ?_⟩
  · intro l loop hl
    rw [hloops] at hl
    exact hr hl
  · rw [hloops] at hl
    exact ⟨_, hl, ha, ho, rfl⟩
  · rw [hentries]
    exact hg

theorem Onward.setEntry (h : LiveHub) (i : Nat) (f : Watched → Watched)
    (hf : ∀ entry, entry.gap = true → (f entry).gap = true) : Onward h (h.setEntry i f) := by
  refine ⟨fun hr => hr, fun hl ha ho => ⟨_, hl, ha, ho, rfl⟩, fun {j} hg => ?_⟩
  rw [getElem?_setEntry]
  split
  · cases hj : h.entries[j]? with
    | none => simp [hj] at hg
    | some entry =>
        rw [hj] at hg
        simpa using hf entry (by simpa using hg)
  · exact hg

theorem Onward.setLoop (h : LiveHub) (l : Nat) {g : StreamLoop → StreamLoop}
    (hg : ∀ loop, h.loops[l]? = some loop → (g loop).event = loop.event ∧
      ((g loop).aborted = false → (g loop).isOpen = true →
        loop.aborted = false ∧ loop.isOpen = true))
    (hrest : ∀ loop, h.loops[l]? = some loop → (loop.phase = .sleeping → loop.opened = false) →
      (g loop).phase = .sleeping → (g loop).opened = false) : Onward h (h.setLoop l g) := by
  refine ⟨fun hr m loop' hl => ?_, fun {m loop'} hl ha ho => ?_, fun hgap => hgap⟩
  all_goals
    rw [getElem?_setLoop] at hl
    split at hl
  · rename_i hlm
    subst hlm
    obtain ⟨loop, hloop, rfl⟩ := Option.map_eq_some_iff.mp hl
    exact hrest loop hloop (hr hloop)
  · exact hr hl
  · rename_i hlm
    subst hlm
    obtain ⟨loop, hloop, rfl⟩ := Option.map_eq_some_iff.mp hl
    obtain ⟨hevent, hback⟩ := hg loop hloop
    obtain ⟨ha', ho'⟩ := hback ha ho
    exact ⟨loop, hloop, ha', ho', hevent.symm⟩
  · exact ⟨loop', hl, ha, ho, rfl⟩

theorem Onward.openStream (h : LiveHub) (e : Int) (i : Nat) : Onward h (h.openStream e i) := by
  unfold LiveHub.openStream
  split
  · exact .refl h
  · split
    · exact .refl h
    · have hslot := Onward.setEntry h i
        (fun entry => { entry with controller := some h.loops.length }) fun _ hg => hg
      have hcase : ∀ {m : Nat} {loop' : StreamLoop},
          (h.loops ++ [({ event := e, entry := i } : StreamLoop)])[m]? = some loop' →
            h.loops[m]? = some loop' ∨ loop' = { event := e, entry := i } := by
        intro m loop' hl
        rcases Nat.lt_or_ge m h.loops.length with hlt | hge
        · rw [List.getElem?_append_left hlt] at hl
          exact .inl hl
        · rw [List.getElem?_append_right hge] at hl
          exact .inr (List.mem_singleton.mp (List.mem_of_getElem? hl))
      refine hslot.trans ⟨fun hr m loop' hl => ?_, fun {m loop'} hl ha ho => ?_, fun hg => hg⟩
      · rcases hcase hl with hl | rfl
        · exact hr hl
        · exact fun hphase => by cases hphase
      · rcases hcase hl with hl | rfl
        · exact ⟨loop', hl, ha, ho, rfl⟩
        · cases ho

theorem Onward.close (h : LiveHub) (i : Nat) : Onward h (h.close i) := by
  unfold LiveHub.close
  split
  · exact .refl h
  · rename_i entry _
    refine Onward.trans ?_ (.setEntry _ i _ fun _ hg => hg)
    split
    · refine .setLoop h _ (fun loop _ => ⟨rfl, fun ha => ?_⟩) fun _ _ hr => hr
      cases ha
    · exact .refl h

theorem Onward.foldl {β : Type} {f : LiveHub → β → LiveHub} (hf : ∀ h slot, Onward h (f h slot))
    (slots : List β) : ∀ h, Onward h (slots.foldl f h) := by
  induction slots with
  | nil => exact .refl
  | cons slot slots ih => exact fun h => (hf h slot).trans (ih _)

theorem Onward.setActive (h : LiveHub) (next : Bool) : Onward h (h.setActive next) := by
  have hstart : Onward h { h with active := next } := .of_parts rfl rfl
  unfold LiveHub.setActive
  split
  · exact .refl h
  · split
    · exact hstart.trans (.foldl (fun h (slot : Int × Nat) => .openStream h slot.1 slot.2) _ _)
    · exact hstart.trans (.foldl (fun h (slot : Int × Nat) => .close h slot.2) _ _)

theorem Onward.entryOf (h : LiveHub) (e : Int) : Onward h (h.entryOf e).1 := by
  unfold LiveHub.entryOf
  split
  · exact .refl h
  · refine ⟨fun hr => hr, fun hl ha ho => ⟨_, hl, ha, ho, rfl⟩, fun {i} hg => ?_⟩
    cases hi : h.entries[i]? with
    | none => simp [hi] at hg
    | some entry =>
        have hlt : i < h.entries.length := (List.getElem?_eq_some_iff.mp hi).1
        rw [List.getElem?_append_left hlt]
        exact hg

theorem Onward.watch (h : LiveHub) (e : Int) : Onward h (h.watch e) := by
  unfold LiveHub.watch
  refine (Onward.entryOf h e).trans ?_
  refine (Onward.setEntry _ (h.entryOf e).2 (fun entry => { entry with refs := entry.refs + 1 })
    fun _ hg => hg).trans ?_
  exact (Onward.openStream _ e (h.entryOf e).2).trans (.of_parts rfl rfl)

theorem Onward.release {w : Nat} (hs : h.release w = some h') : Onward h h' := by
  unfold LiveHub.release at hs
  split at hs
  · cases hs
  · rename_i call _
    split at hs
    · cases hs
      exact .refl h
    · have hstart : Onward h
          { h.setEntry call.entry fun entry => { entry with refs := entry.refs - 1 } with
            watches := h.watches.set w { call with released := true } } :=
        (Onward.setEntry h call.entry (fun entry => { entry with refs := entry.refs - 1 })
          fun _ hg => hg).trans (.of_parts rfl rfl)
      simp only at hs
      split at hs
      · cases hs
        exact (hstart.trans (.close _ _)).trans (.of_parts rfl rfl)
      · cases hs
        exact hstart

/-- A step of loop `l` after which its stream is not open, or is as it was. -/
theorem Onward.shut {loop : StreamLoop} {g : StreamLoop → StreamLoop}
    (hl : h.loops[l]? = some loop) (hevent : (g loop).event = loop.event)
    (hopen : (g loop).isOpen = false) (hopened : (g loop).opened = false) :
    Onward h (h.setLoop l g) := by
  refine .setLoop h l (fun loop' hl' => ?_) fun loop' hl' _ _ => ?_
  all_goals
    rw [hl] at hl'
    cases hl'
  · exact ⟨hevent, fun _ ho => by simp [hopen] at ho⟩
  · exact hopened

/-- Every step but the delivery of a message. -/
theorem Onward.step {a : LiveAction} (ha : ∀ l, a ≠ .deliver l) (hr : h.Rested)
    (hs : h.step a = some h') : Onward h h' := by
  cases a with
  | watch e =>
      cases hs
      exact .watch h e
  | release w => exact .release hs
  | setActive next =>
      cases hs
      exact .setActive h next
  | deliver l => exact absurd rfl (ha l)
  | receive l =>
      obtain ⟨loop, hl, hphase, rfl⟩ := loopStep_eq_some hs
      refine .setLoop h l (fun loop' hl' => ⟨rfl, fun ha ho => ⟨ha, ?_⟩⟩)
        fun _ _ _ hsleep => by cases hsleep
      rw [hl] at hl'
      cases hl'
      simpa [StreamLoop.isOpen, hphase] using ho
  | drop l =>
      obtain ⟨loop, hl, hphase, rfl⟩ := loopStep_eq_some hs
      unfold LiveHub.drop
      split
      · exact .shut hl rfl rfl rfl
      · have hquiet := Onward.setEntry h loop.entry (fun entry => { entry with live := false })
          fun _ hg => hg
        have hl' : (h.setEntry loop.entry fun entry => { entry with live := false }).loops[l]? =
            some loop := hl
        exact hquiet.trans (.shut hl' rfl rfl rfl)
  | wake l =>
      obtain ⟨loop, hl, hphase, rfl⟩ := loopStep_eq_some hs
      have hshut := hr hl hphase
      unfold LiveHub.wake
      split
      · exact .shut hl rfl (by simp [StreamLoop.isOpen, hshut]) hshut
      · exact .shut hl rfl (by simp [StreamLoop.isOpen, hshut]) hshut
  | settle l =>
      obtain ⟨loop, hl, hphase, rfl⟩ := loopStep_eq_some hs
      unfold LiveHub.settle
      refine (Onward.setEntry h loop.entry (fun entry =>
        if entry.controller = some l then { entry with controller := none } else entry)
          fun entry hg => ?_).trans (.setLoop _ l (fun loop' _ => ⟨rfl, fun _ ho => ?_⟩) ?_)
      · split <;> exact hg
      · simp [StreamLoop.isOpen] at ho
      · exact fun _ _ _ hsleep => by cases hsleep

/-- A delivery, but for the stream that it may open. -/
theorem deliver_loops {loop : StreamLoop} (hl : h.loops[l]? = some loop)
    (hphase : loop.phase = .received) {m : Nat} {loop' : StreamLoop}
    (hm : (h.deliver l loop).loops[m]? = some loop') : ∃ old, h.loops[m]? = some old ∧
      loop'.event = old.event ∧ loop'.entry = old.entry ∧ loop'.aborted = old.aborted ∧
        (m ≠ l → loop' = old) ∧ (old.opened = true → loop'.isOpen = true → old.isOpen = true) := by
  have hloops : ∃ g : StreamLoop → StreamLoop, (h.deliver l loop).loops = h.loops.modify l g ∧
      ∀ old, (g old).event = old.event ∧ (g old).entry = old.entry ∧
        (g old).aborted = old.aborted := by
    unfold LiveHub.deliver
    split
    · exact ⟨_, rfl, fun _ => ⟨rfl, rfl, rfl⟩⟩
    · exact ⟨_, rfl, fun _ => ⟨rfl, rfl, rfl⟩⟩
  obtain ⟨g, hloops, hg⟩ := hloops
  rw [hloops, List.getElem?_modify] at hm
  obtain ⟨old, hold, rfl⟩ := Option.map_eq_some_iff.mp hm
  by_cases hlm : l = m
  · subst hlm
    rw [hl] at hold
    cases hold
    simp only [if_pos]
    obtain ⟨hevent, hentry, haborted⟩ := hg loop
    refine ⟨loop, hl, hevent, hentry, haborted, fun hne => absurd rfl hne, fun hopened _ => ?_⟩
    simp [StreamLoop.isOpen, hopened, hphase]
  · simp only [if_neg hlm]
    exact ⟨old, hold, rfl, rfl, rfl, fun _ => rfl, fun _ ho => ho⟩

theorem Rested.deliver {loop : StreamLoop} (hr : h.Rested) : (h.deliver l loop).Rested := by
  intro m loop' hm
  unfold LiveHub.deliver at hm
  split at hm
  all_goals
    rw [getElem?_setLoop] at hm
    split at hm
  · obtain ⟨old, -, rfl⟩ := Option.map_eq_some_iff.mp hm
    exact fun hsleep => by cases hsleep
  · exact hr hm
  · obtain ⟨old, -, rfl⟩ := Option.map_eq_some_iff.mp hm
    exact fun hsleep => by cases hsleep
  · exact hr hm

theorem gap_deliver {loop : StreamLoop} (hg : h.entries[i]?.map Watched.gap = some true) :
    (h.deliver l loop).entries[i]?.map Watched.gap = some true := by
  unfold LiveHub.deliver
  split
  · exact hg
  · exact (Onward.setEntry h loop.entry (fun entry => { entry with live := true, gap := true })
      fun _ _ => rfl).gap hg

end LiveHub

/-! ## What is kept -/

namespace LiveList

variable {s s' : LiveList} {e n m : Int} {l i : Nat} {poke : EventPoke}

theorem getIncident_eq (s : LiveList) (e n : Int) :
    s.getIncident e n = (rowsOf (s.incidents e) n).head? :=
  (List.head?_filter ..).symm

theorem getIncident_number {view : IncidentView} (h : s.getIncident e n = some view) :
    view.incident.number = n := by
  simpa using List.find?_some h

theorem getIncident_commit {view : Option IncidentView}
    (hnumber : ∀ v ∈ view, v.incident.number = n) (e' m : Int) :
    (s.commit e n view).getIncident e' m = if e' = e ∧ m = n then view else s.getIncident e' m := by
  rw [getIncident_eq, getIncident_eq, commit]
  simp only
  by_cases he : e' = e
  · subst he
    rw [Function.update_self, rowsOf_putIncident hnumber]
    by_cases hm : m = n
    · cases view <;> simp [hm]
    · simp [hm]
  · simp [he]

/-- What the client and the server hold is well formed: one row for each incident. -/
structure Sound (s : LiveList) : Prop where
  hub : s.hub.Inv
  rested : s.hub.Rested
  server : ∀ e, OneRowEach (s.incidents e)
  cached : ∀ {e rows}, s.cached e = some rows → OneRowEach rows
  listed : ∀ {read : ListRead} {rows : List IncidentView}, read ∈ s.listReads →
    read.answer = some rows → OneRowEach rows
  named : ∀ {read : PatchRead} {incident : Option IncidentView}, read ∈ s.patchReads →
    read.answer = some incident → ∀ view ∈ incident, view.incident.number = read.number
  bound : ∀ {read : PatchRead}, read ∈ s.patchReads →
    read.seq ≤ s.patchSeq (read.event, read.number)

theorem mem_modify {α : Type} {xs : List α} {j : Nat} {f : α → α} {y : α}
    (h : y ∈ xs.modify j f) : y ∈ xs ∨ ∃ x, xs[j]? = some x ∧ y = f x := by
  obtain ⟨m, hm⟩ := List.mem_iff_getElem?.mp h
  rw [List.getElem?_modify] at hm
  obtain ⟨x, hx, rfl⟩ := Option.map_eq_some_iff.mp hm
  by_cases hj : j = m
  · subst hj
    exact .inr ⟨x, hx, by simp⟩
  · simp only [if_neg hj]
    exact .inl (List.mem_of_getElem? hx)

theorem Sound.setRead {r : Nat} {f : PatchRead → PatchRead} (hs : Sound s)
    (hkey : ∀ read, (f read).event = read.event ∧ (f read).number = read.number ∧
      (f read).seq = read.seq)
    (hnamed : ∀ read, s.patchReads[r]? = some read → ∀ incident, (f read).answer = some incident →
      ∀ view ∈ incident, view.incident.number = read.number) : Sound (s.setRead r f) := by
  refine { hs with named := fun {read incident} hread hanswer => ?_, bound := fun {read} hread => ?_ }
  · rcases mem_modify hread with hread | ⟨old, hold, rfl⟩
    · exact hs.named hread hanswer
    · rw [(hkey old).2.1]
      exact hnamed old hold incident hanswer
  · rcases mem_modify hread with hread | ⟨old, hold, rfl⟩
    · exact hs.bound hread
    · obtain ⟨hevent, hnumber, hseq⟩ := hkey old
      rw [hevent, hnumber, hseq]
      exact hs.bound (List.mem_of_getElem? hold)

theorem Sound.setListRead {k : Nat} {f : ListRead → ListRead} (hs : Sound s)
    (hlisted : ∀ read, s.listReads[k]? = some read → ∀ rows, (f read).answer = some rows →
      OneRowEach rows) : Sound (s.setListRead k f) := by
  refine { hs with listed := fun {read rows} hread hanswer => ?_ }
  rcases mem_modify hread with hread | ⟨old, hold, rfl⟩
  · exact hs.listed hread hanswer
  · exact hlisted old hold rows hanswer

theorem Sound.withCached {e : Int} {rows : Option (List IncidentView)} (hs : Sound s)
    (hrows : ∀ rows' ∈ rows, OneRowEach rows') :
    Sound { s with cached := Function.update s.cached e rows } := by
  refine { hs with cached := fun {e' rows'} hcached => ?_ }
  by_cases he : e' = e
  · subst he
    simp only [Function.update_self] at hcached
    exact hrows rows' hcached
  · simp only [Function.update_of_ne he] at hcached
    exact hs.cached hcached

theorem Sound.onPoke (hs : Sound s) (poke : EventPoke) : Sound (s.onPoke poke) := by
  cases poke with
  | heartbeat => exact hs
  | incidentChanged e n =>
      refine { hs with named := fun {read incident} hread hanswer => ?_,
                       bound := fun {read} hread => ?_ }
      · rcases List.mem_append.mp hread with hread | hread
        · exact hs.named hread hanswer
        · cases List.mem_singleton.mp hread
          cases hanswer
      · change read.seq ≤ Function.update s.patchSeq (e, n) _ (read.event, read.number)
        rcases List.mem_append.mp hread with hread | hread
        · have hold := hs.bound hread
          by_cases hkey : (read.event, read.number) = (e, n)
          · rw [hkey] at hold ⊢
            rw [Function.update_self]
            omega
          · rwa [Function.update_of_ne hkey]
        · cases List.mem_singleton.mp hread
          simp

theorem Sound.step {a : ListAction} (hs : Sound s) (h : s.step a = some s') : Sound s' := by
  cases a with
  | hub a =>
      simp only [LiveList.step] at h
      split at h
      · cases h
      · rename_i hmoves
        obtain ⟨hub, hhub, rfl⟩ := Option.map_eq_some_iff.mp h
        have hon := LiveHub.Onward.step (fun l heq => by simp [heq, LiveAction.movesMessage] at hmoves)
          hs.rested hhub
        exact { hs with hub := hs.hub.step hhub, rested := hon.rested hs.rested }
  | subscribe l =>
      simp only [LiveList.step, LiveList.subscribe] at h
      split at h
      · split at h
        · cases h
          exact { hs with }
        · cases h
      · cases h
  | hangUp l =>
      obtain ⟨_, -, rfl⟩ := Option.map_eq_some_iff.mp h
      exact { hs with }
  | beat l =>
      obtain ⟨_, -, rfl⟩ := Option.map_eq_some_iff.mp h
      exact { hs with }
  | send l =>
      simp only [LiveList.step, LiveList.send] at h
      split at h
      · cases h
        exact { hs with }
      · cases h
  | receive l =>
      simp only [LiveList.step, LiveList.receive] at h
      split at h
      · rename_i hhub
        cases h
        have hon := LiveHub.Onward.step (fun _ heq => by cases heq) hs.rested hhub
        exact { hs with hub := hs.hub.step hhub, rested := hon.rested hs.rested }
      · cases h
  | deliver l =>
      simp only [LiveList.step, LiveList.deliver] at h
      split at h
      · rename_i poke loop hub _ hl hhub
        cases h
        have hrested : hub.Rested := by
          obtain ⟨loop', _, _, rfl⟩ := LiveHub.loopStep_eq_some hhub
          exact LiveHub.Rested.deliver hs.rested
        refine Sound.onPoke ?_ poke
        unfold LiveList.onOpen
        simp only
        split
        · exact { hs with hub := hs.hub.step hhub, rested := hrested }
        · exact { hs with hub := hs.hub.step hhub, rested := hrested }
      · cases h
  | drop l =>
      obtain ⟨hub, hhub, rfl⟩ := Option.map_eq_some_iff.mp h
      have hon := LiveHub.Onward.step (fun _ heq => by cases heq) hs.rested hhub
      exact { hs with hub := hs.hub.step hhub, rested := hon.rested hs.rested }
  | commit e n view =>
      simp only [LiveList.step] at h
      split at h
      · rename_i hall
        cases h
        have hnumber : ∀ v ∈ view, v.incident.number = n := by
          intro v hv
          simpa [Option.mem_def.mp hv] using hall
        refine { hs with server := fun e' m => ?_ }
        by_cases he : e' = e
        · subst he
          simp only [LiveList.commit, Function.update_self, rowsOf_putIncident hnumber]
          split
          · cases view <;> simp
          · exact hs.server _ m
        · simp only [LiveList.commit, Function.update_of_ne he]
          exact hs.server e' m
      · cases h
  | readIncident r =>
      simp only [LiveList.step] at h
      split at h
      · split at h
        · cases h
        · cases h
          refine hs.setRead (fun _ => ⟨rfl, rfl, rfl⟩) fun read _ incident hanswer view hview => ?_
          cases hanswer
          exact getIncident_number hview
      · cases h
  | incidentAnswered r =>
      simp only [LiveList.step] at h
      split at h
      · rename_i read hread
        split at h
        · rename_i incident _ hanswer
          cases h
          have hnamed := hs.named (List.mem_of_getElem? hread) hanswer
          have hset : Sound (s.setRead r fun read => { read with settled := true }) :=
            hs.setRead (fun _ => ⟨rfl, rfl, rfl⟩) fun old hold incident hincident =>
              hs.named (List.mem_of_getElem? hold) hincident
          unfold LiveList.patchIncidentList
          split
          · exact hset
          · refine hset.withCached fun rows' hrows' => ?_
            obtain ⟨rows, hrows, rfl⟩ := Option.map_eq_some_iff.mp hrows'
            refine (hs.cached hrows).patch _ fun view hview => ?_
            obtain ⟨shown, hshown, rfl⟩ := Option.map_eq_some_iff.mp hview
            exact hnamed shown hshown
        · cases h
      · cases h
  | incidentFailed r =>
      simp only [LiveList.step] at h
      split at h
      · split at h
        · cases h
        · cases h
          have hset : Sound (s.setRead r fun read => { read with settled := true }) :=
            hs.setRead (fun _ => ⟨rfl, rfl, rfl⟩) fun old hold incident hincident =>
              hs.named (List.mem_of_getElem? hold) hincident
          exact { hset with }
      · cases h
  | fetchList e =>
      cases h
      refine { hs with listed := fun {read rows} hread hanswer => ?_ }
      rcases List.mem_append.mp hread with hread | hread
      · exact hs.listed hread hanswer
      · cases List.mem_singleton.mp hread
        cases hanswer
  | readList k =>
      simp only [LiveList.step] at h
      split at h
      · split at h
        · cases h
        · cases h
          refine hs.setListRead fun read _ rows hanswer => ?_
          cases hanswer
          exact (hs.server read.event).strip
      · cases h
  | listAnswered k =>
      simp only [LiveList.step] at h
      split at h
      · rename_i read hread
        split at h
        · rename_i rows _ hanswer
          cases h
          have hset : Sound (s.setListRead k fun read => { read with settled := true }) :=
            hs.setListRead fun old hold rows hrows => hs.listed (List.mem_of_getElem? hold) hrows
          have hrows : ∀ rows' ∈ some rows, OneRowEach rows' := fun rows' hrows' => by
            cases hrows'
            exact hs.listed (List.mem_of_getElem? hread) hanswer
          have hput := hset.withCached (e := read.event) hrows
          exact { hput with }
        · cases h
      · cases h
  | listFailed k =>
      simp only [LiveList.step] at h
      split at h
      · split at h
        · cases h
        · cases h
          exact hs.setListRead fun old hold rows hrows =>
            hs.listed (List.mem_of_getElem? hold) hrows
      · cases h

/-! ### The rows of one event -/

/-- The event's stream: a loop that is not aborted, open, with a session on the server. -/
def OpenOn (s : LiveList) (e : Int) (l : Nat) : Prop :=
  (∃ loop, s.hub.loops[l]? = some loop ∧ loop.event = e ∧ loop.aborted = false ∧
    loop.isOpen = true) ∧ s.sessions l ≠ none

/-- A poke is on its way to the handlers of loop `l`. -/
def Pending (s : LiveList) (l : Nat) (poke : EventPoke) : Prop :=
  (∃ pokes, s.sessions l = some pokes ∧ poke ∈ pokes) ∨ poke ∈ s.wire l ∨ s.taken l = some poke

/-- A row read that is still out, and may write when it is answered. -/
def LatestRead (s : LiveList) (e n : Int) (read : PatchRead) : Prop :=
  read ∈ s.patchReads ∧ read.event = e ∧ read.number = n ∧ read.settled = false ∧
    read.seq = s.patchSeq (e, n)

/-- A cached list shows incident `n` as the server has it, once. -/
def Shows (s : LiveList) (e n : Int) : Prop :=
  ∀ rows, s.cached e = some rows →
    rowsOf rows n = ((s.getIncident e n).map stripSystemEntries).toList

/-- The row is as the server has it, or the read that will write it has not missed a commit. -/
structure UpToDate (s : LiveList) (e n : Int) : Prop where
  read : ∀ read, s.LatestRead e n read → ∀ incident, read.answer = some incident →
    incident = s.getIncident e n
  row : (∀ read, ¬ s.LatestRead e n read) → s.Shows e n

/-- A poke is on its way, or the row is up to date. -/
def Followed (s : LiveList) (l : Nat) (e n : Int) : Prop :=
  s.Pending l (.incidentChanged e n) ∨ s.UpToDate e n

/-- The incidents of the event that the viewer may see are followed on its open stream, unless the
list has been invalidated; the event's object has seen a stream open. -/
structure Tracked (s : LiveList) (e : Int) (i : Nat) : Prop where
  gap : s.hub.entries[i]?.map Watched.gap = some true
  rows : s.invalidated e = true ∨
    ∀ l, s.OpenOn e l → ∀ n, s.getIncident e n ≠ none → s.Followed l e n

theorem Tracked.carry (h : Tracked s e i) (hgap : s'.hub.entries[i]?.map Watched.gap = some true)
    (hinvalid : s.invalidated e = true → s'.invalidated e = true)
    (hopen : ∀ l, s'.OpenOn e l → s.OpenOn e l)
    (hrow : ∀ l n, s'.OpenOn e l → s'.getIncident e n ≠ none →
      (s.getIncident e n ≠ none → s.Followed l e n) → s'.Followed l e n) : Tracked s' e i := by
  refine ⟨hgap, h.rows.imp hinvalid fun hrows l hl n hn => ?_⟩
  exact hrow l n hl hn fun hold => hrows l (hopen l hl) n hold

theorem UpToDate.congr (h : UpToDate s e n) (hreads : s'.patchReads = s.patchReads)
    (hseq : s'.patchSeq (e, n) = s.patchSeq (e, n)) (hcached : s'.cached e = s.cached e)
    (hget : s'.getIncident e n = s.getIncident e n) : UpToDate s' e n := by
  have hlatest : ∀ read, s'.LatestRead e n read ↔ s.LatestRead e n read := by
    intro read
    rw [LatestRead, LatestRead, hreads, hseq]
  refine ⟨fun read hread => ?_, fun hnone rows hrows => ?_⟩
  · rw [hget]
    exact h.read read ((hlatest read).mp hread)
  · rw [hget]
    rw [hcached] at hrows
    exact h.row (fun read hread => hnone read ((hlatest read).mpr hread)) rows hrows

/-- A step of the streams: what is shown and what is read stay. -/
theorem Tracked.ofStreams (h : Tracked s e i)
    (hparts : s'.incidents = s.incidents ∧ s'.patchReads = s.patchReads ∧
      s'.patchSeq = s.patchSeq ∧ s'.cached = s.cached ∧ s'.invalidated = s.invalidated)
    (hgap : s'.hub.entries[i]?.map Watched.gap = some true)
    (hopen : ∀ l, s'.OpenOn e l → s.OpenOn e l)
    (hpending : ∀ l n, s'.OpenOn e l → s.getIncident e n ≠ none →
      s.Pending l (.incidentChanged e n) → s'.Pending l (.incidentChanged e n)) :
    Tracked s' e i := by
  obtain ⟨hincidents, hreads, hseq, hcached, hinvalid⟩ := hparts
  have hget : ∀ n, s'.getIncident e n = s.getIncident e n := by
    intro n
    rw [getIncident, hincidents]
    rfl
  refine h.carry hgap (fun hi => by rwa [hinvalid]) hopen fun l n hl hn hold => ?_
  rw [hget] at hn
  refine (hold hn).imp (hpending l n hl hn) fun hup => ?_
  exact hup.congr hreads (by rw [hseq]) (by rw [hcached]) (hget n)

theorem openOn_of_onward (h : s'.OpenOn e l) (hon : s.hub.Onward s'.hub)
    (hsession : s'.sessions l ≠ none → s.sessions l ≠ none) : s.OpenOn e l := by
  obtain ⟨⟨loop', hl, hevent, habort, hopen⟩, hs⟩ := h
  obtain ⟨loop, hl', habort', hopen', hevent'⟩ := hon.open' hl habort hopen
  exact ⟨⟨loop, hl', hevent'.trans hevent, habort', hopen'⟩, hsession hs⟩

/-- A list that is put into the cache is still what the server answers, and so is every row read of
the event that has been answered and is still on its way. -/
def InOrder (s : LiveList) (e : Int) : ListAction → Prop
  | .listAnswered k => ∀ read ∈ s.listReads[k]?, read.event = e →
      read.answer = some (s.listIncidents e) ∧
        ∀ read ∈ s.patchReads, read.event = e → read.settled = false →
          ∀ incident ∈ read.answer, incident = s.getIncident e read.number
  | _ => True

instance (s : LiveList) (e : Int) : (a : ListAction) → Decidable (s.InOrder e a)
  | .listAnswered k => inferInstanceAs (Decidable (∀ read ∈ s.listReads[k]?, read.event = e →
      read.answer = some (s.listIncidents e) ∧
        ∀ read ∈ s.patchReads, read.event = e → read.settled = false →
          ∀ incident ∈ read.answer, incident = s.getIncident e read.number))
  | .hub _ | .subscribe _ | .hangUp _ | .beat _ | .send _ | .receive _ | .deliver _ | .drop _
  | .commit .. | .readIncident _ | .incidentAnswered _ | .incidentFailed _ | .fetchList _
  | .readList _ | .listFailed _ => inferInstanceAs (Decidable True)

theorem shows_listIncidents (hs : Sound s) (h : s'.cached e = some (s.listIncidents e))
    (hget : s'.getIncident e n = s.getIncident e n) : s'.Shows e n := by
  intro rows hrows
  rw [h] at hrows
  cases hrows
  rw [listIncidents, rowsOf_strip, hget, getIncident_eq]
  have hone := hs.server e n
  cases hrow : rowsOf (s.incidents e) n with
  | nil => rfl
  | cons view rest =>
      rw [hrow] at hone
      cases rest with
      | nil => rfl
      | cons _ _ => simp at hone

theorem Tracked.subscribe (ht : Tracked s e i) (h : s.subscribe l = some s') : Tracked s' e i := by
  unfold LiveList.subscribe at h
  split at h
  · rename_i loop hl hsession hwire
    split at h
    · rename_i hphase
      cases h
      have hshut : loop.opened = false := by
        simp only [Bool.and_eq_true, Bool.not_eq_true'] at hphase
        exact hphase.2
      have hne : ∀ m, OpenOn { s with
          sessions := Function.update s.sessions l (some [])
          wire := Function.update s.wire l [.heartbeat] } e m → m ≠ l := by
        rintro m ⟨⟨loop', hl', -, -, hopen⟩, -⟩ rfl
        rw [hl] at hl'
        cases hl'
        simp [StreamLoop.isOpen, hshut] at hopen
      refine ht.ofStreams ⟨rfl, rfl, rfl, rfl, rfl⟩ ht.gap (fun m hm => ?_) fun m n hm _ hp => ?_
      · refine ⟨hm.1, ?_⟩
        have hsome := hm.2
        simpa only [Function.update_of_ne (hne m hm)] using hsome
      · simpa only [Pending, Function.update_of_ne (hne m hm)] using hp
    · cases h
  · cases h

theorem Tracked.hangUp (ht : Tracked s e i) :
    Tracked { s with sessions := Function.update s.sessions l none } e i := by
  have hne : ∀ m, OpenOn { s with sessions := Function.update s.sessions l none } e m → m ≠ l := by
    rintro m ⟨-, hsession⟩ rfl
    simp at hsession
  refine ht.ofStreams ⟨rfl, rfl, rfl, rfl, rfl⟩ ht.gap (fun m hm => ?_) fun m n hm _ hp => ?_
  · refine ⟨hm.1, ?_⟩
    have hsome := hm.2
    simpa only [Function.update_of_ne (hne m hm)] using hsome
  · simpa only [Pending, Function.update_of_ne (hne m hm)] using hp

theorem Tracked.send (ht : Tracked s e i) (h : s.send l = some s') : Tracked s' e i := by
  unfold LiveList.send at h
  split at h
  · rename_i poke rest hsession
    cases h
    refine ht.ofStreams ⟨rfl, rfl, rfl, rfl, rfl⟩ ht.gap (fun m hm => ⟨hm.1, ?_⟩)
      fun m n hm hn hp => ?_
    · by_cases hml : m = l
      · simp [hml, hsession]
      · have hsome := hm.2
        simpa only [Function.update_of_ne hml] using hsome
    · by_cases hml : m = l
      · subst hml
        rcases hp with ⟨pokes, hpokes, hmem⟩ | hwire | htaken
        · rw [hsession] at hpokes
          cases hpokes
          rcases List.mem_cons.mp hmem with rfl | hmem
          · -- the poke that is checked now: its incident can be seen
            have hvisible : s.visible (.incidentChanged e n) = true := by
              simpa [LiveList.visible, Option.isSome_iff_ne_none] using hn
            refine .inr (.inl ?_)
            simp [hvisible]
          · exact .inl ⟨rest, by simp, hmem⟩
        · refine .inr (.inl ?_)
          simp only
          split
          · simp [hwire]
          · exact hwire
        · exact .inr (.inr htaken)
      · rcases hp with ⟨pokes, hpokes, hmem⟩ | hwire | htaken
        · exact .inl ⟨pokes, by simpa only [Function.update_of_ne hml] using hpokes, hmem⟩
        · refine .inr (.inl ?_)
          simp only
          split
          · simpa only [Function.update_of_ne hml] using hwire
          · exact hwire
        · exact .inr (.inr htaken)
  · cases h

theorem Tracked.receive (ht : Tracked s e i) (hs : Sound s) (h : s.receive l = some s') :
    Tracked s' e i := by
  unfold LiveList.receive at h
  split at h
  · rename_i poke rest hub hwire htaken hhub
    cases h
    have hon := LiveHub.Onward.step (fun _ heq => by cases heq) hs.rested hhub
    refine ht.ofStreams ⟨rfl, rfl, rfl, rfl, rfl⟩ (hon.gap ht.gap)
      (fun m hm => openOn_of_onward hm hon fun h => h) fun m n _ _ hp => ?_
    by_cases hml : m = l
    · subst hml
      rcases hp with hsession | hmem | htook
      · exact .inl hsession
      · rw [hwire] at hmem
        rcases List.mem_cons.mp hmem with rfl | hmem
        · exact .inr (.inr (by simp))
        · exact .inr (.inl (by simpa using hmem))
      · rw [htaken] at htook
        cases htook
    · simpa only [Pending, Function.update_of_ne hml] using hp
  · cases h

theorem Tracked.drop {hub : LiveHub} (ht : Tracked s e i) (hs : Sound s)
    (hhub : s.hub.step (.drop l) = some hub) : Tracked { s with
      hub, sessions := Function.update s.sessions l none, wire := Function.update s.wire l [] }
        e i := by
  have hon := LiveHub.Onward.step (fun _ heq => by cases heq) hs.rested hhub
  have hne : ∀ m, OpenOn { s with
      hub, sessions := Function.update s.sessions l none, wire := Function.update s.wire l [] } e m →
        m ≠ l := by
    rintro m ⟨-, hsession⟩ rfl
    simp at hsession
  refine ht.ofStreams ⟨rfl, rfl, rfl, rfl, rfl⟩ (hon.gap ht.gap) (fun m hm => ?_)
    fun m n hm _ hp => ?_
  · refine openOn_of_onward hm hon fun hsome => ?_
    simpa only [Function.update_of_ne (hne m hm)] using hsome
  · simpa only [Pending, Function.update_of_ne (hne m hm)] using hp

theorem Tracked.commit {view : Option IncidentView} {e' : Int} (ht : Tracked s e i)
    (hnumber : ∀ v ∈ view, v.incident.number = n) : Tracked (s.commit e' n view) e i := by
  have hpending : ∀ l poke, s.Pending l poke → (s.commit e' n view).Pending l poke := by
    intro l poke hp
    refine hp.imp_left fun ⟨pokes, hpokes, hmem⟩ => ?_
    simp only [LiveList.commit, hpokes, Option.map_some]
    refine ⟨_, rfl, ?_⟩
    split
    · exact List.mem_append_left _ hmem
    · exact hmem
  refine ht.carry ht.gap (fun h => h) (fun l hl => ⟨hl.1, fun hnone => hl.2 ?_⟩)
    fun l m hl hm hold => ?_
  · simp [LiveList.commit, hnone]
  · by_cases hkey : e = e' ∧ m = n
    · -- the incident of the commit: its poke is on the open session
      obtain ⟨rfl, rfl⟩ := hkey
      obtain ⟨⟨loop, hloop, hevent, -, -⟩, hsession⟩ := hl
      left
      left
      cases hpokes : s.sessions l with
      | none => simp [LiveList.commit, hpokes] at hsession
      | some pokes =>
          have hloop' : s.hub.loops[l]? = some loop := hloop
          refine ⟨pokes ++ [.incidentChanged e m], ?_, by simp⟩
          simp [LiveList.commit, hpokes, hloop', hevent]
    · have hget : (s.commit e' n view).getIncident e m = s.getIncident e m := by
        rw [getIncident_commit hnumber, if_neg hkey]
      rw [hget] at hm
      exact (hold hm).imp (hpending l _) fun hup => hup.congr rfl rfl rfl hget

/-! ### The handlers' turn -/

theorem UpToDate.startPatch {e' n' : Int} (h : e = e' ∧ n = n' ∨ s.UpToDate e n)
    (hbound : ∀ read ∈ s.patchReads, read.seq ≤ s.patchSeq (read.event, read.number)) :
    (s.startPatch e' n').UpToDate e n := by
  by_cases hkey : e = e' ∧ n = n'
  · -- the new read is the only one that may write, and has not been answered
    obtain ⟨rfl, rfl⟩ := hkey
    have hnew : ∀ read, (s.startPatch e n).LatestRead e n read →
        read = { event := e, number := n, seq := s.patchSeq (e, n) + 1 } := by
      rintro read ⟨hmem, hevent, hnumber, -, hseq⟩
      rcases List.mem_append.mp hmem with hmem | hmem
      · have hold := hbound read hmem
        rw [hevent, hnumber] at hold
        simp only [LiveList.startPatch, Function.update_self] at hseq
        omega
      · exact List.mem_singleton.mp hmem
    refine ⟨fun read hread incident hanswer => ?_, fun hnone => ?_⟩
    · rw [hnew read hread] at hanswer
      cases hanswer
    · exact absurd ⟨by simp [LiveList.startPatch], rfl, rfl, rfl, by simp [LiveList.startPatch]⟩
        (hnone { event := e, number := n, seq := s.patchSeq (e, n) + 1 })
  · have hup : s.UpToDate e n := h.resolve_left hkey
    have hlatest : ∀ read, (s.startPatch e' n').LatestRead e n read ↔ s.LatestRead e n read := by
      intro read
      have hseq : (s.startPatch e' n').patchSeq (e, n) = s.patchSeq (e, n) := by
        refine Function.update_of_ne (fun heq => hkey ?_) ..
        simpa using heq
      rw [LatestRead, LatestRead, hseq]
      refine and_congr_left fun ⟨hevent, hnumber, _⟩ => ?_
      refine ⟨fun hmem => ?_, fun hmem => List.mem_append_left _ hmem⟩
      refine (List.mem_append.mp hmem).resolve_right fun hnew => hkey ?_
      cases List.mem_singleton.mp hnew
      exact ⟨hevent.symm, hnumber.symm⟩
    exact ⟨fun read hread => hup.read read ((hlatest read).mp hread),
      fun hnone => hup.row fun read hread => hnone read ((hlatest read).mpr hread)⟩

theorem onPoke_parts (s : LiveList) (poke : EventPoke) :
    (s.onPoke poke).hub = s.hub ∧ (s.onPoke poke).incidents = s.incidents ∧
      (s.onPoke poke).sessions = s.sessions ∧ (s.onPoke poke).wire = s.wire ∧
        (s.onPoke poke).taken = s.taken ∧ (s.onPoke poke).invalidated = s.invalidated := by
  cases poke <;> exact ⟨rfl, rfl, rfl, rfl, rfl, rfl⟩

theorem UpToDate.onPoke (h : poke = .incidentChanged e n ∨ s.UpToDate e n)
    (hbound : ∀ read ∈ s.patchReads, read.seq ≤ s.patchSeq (read.event, read.number)) :
    (s.onPoke poke).UpToDate e n := by
  cases poke with
  | heartbeat => exact h.resolve_left nofun
  | incidentChanged e' n' =>
      refine UpToDate.startPatch (h.imp_left fun heq => ?_) hbound
      cases heq
      exact ⟨rfl, rfl⟩

theorem onOpen_parts (s : LiveList) (loop : StreamLoop) :
    (s.onOpen loop).patchReads = s.patchReads ∧ (s.onOpen loop).patchSeq = s.patchSeq ∧
      (s.onOpen loop).cached = s.cached ∧ (s.onOpen loop).incidents = s.incidents ∧
        (s.onOpen loop).sessions = s.sessions ∧ (s.onOpen loop).wire = s.wire := by
  unfold LiveList.onOpen
  simp only
  split
  · exact ⟨rfl, rfl, rfl, rfl, rfl, rfl⟩
  · exact ⟨rfl, rfl, rfl, rfl, rfl, rfl⟩

theorem onOpen_invalidated {loop : StreamLoop} (h : s.invalidated e = true) :
    (s.onOpen loop).invalidated e = true := by
  unfold LiveList.onOpen
  simp only
  split
  · by_cases he : e = loop.event
    · simp [invalidateList, he]
    · simpa [invalidateList, he] using h
  · exact h

/-- The first message of an attempt invalidates the list, where the event has seen one before. -/
theorem onOpen_resumes {loop : StreamLoop} (hopened : loop.opened = false)
    (hgap : s.hub.entries[loop.entry]?.map Watched.gap = some true) :
    (s.onOpen loop).invalidated loop.event = true := by
  simp [LiveList.onOpen, invalidateList, hopened, hgap]

theorem Tracked.deliver (ht : Tracked s e i) (hs : Sound s)
    (hwatched : s.hub.watched.lookup e = some i) (h : s.deliver l = some s') :
    Tracked s' e i := by
  unfold LiveList.deliver at h
  split at h
  · rename_i poke loop hub htaken hl hhub
    cases h
    obtain ⟨loop', hl', hphase, rfl⟩ := LiveHub.loopStep_eq_some hhub
    rw [hl] at hl'
    cases hl'
    obtain ⟨hreads, hseq, hcached, hincidents, hsessions, hwire⟩ := onOpen_parts s loop
    set t : LiveList := { s.onOpen loop with
      hub := s.hub.deliver l loop, taken := Function.update s.taken l none } with ht'
    obtain ⟨phub, pincidents, psessions, pwire, ptaken, pinvalid⟩ := onPoke_parts t poke
    refine ⟨?_, ?_⟩
    · rw [phub]
      exact LiveHub.gap_deliver ht.gap
    rw [pinvalid]
    by_cases hresume : loop.opened = false ∧ loop.event = e ∧ loop.aborted = false
    · -- the event's own loop opens: its object is the one that has seen a stream
      obtain ⟨hopened, rfl, haborted⟩ := hresume
      have hmem := (hs.hub.wired.loop hl haborted).1
      have hentry : loop.entry = i :=
        hs.hub.wired.key hmem (hs.hub.wired.lookup.mp hwatched)
      left
      exact onOpen_resumes hopened (by rw [hentry]; exact ht.gap)
    refine ht.rows.imp (fun hi => onOpen_invalidated hi) fun hrows m hm n hn => ?_
    have hm' : s.OpenOn e m := by
      obtain ⟨⟨loop', hloop', hevent, habort, hopen⟩, hsession⟩ := hm
      rw [phub] at hloop'
      rw [psessions] at hsession
      obtain ⟨old, hold, hevent', hentry, habort', hother, hback⟩ :=
        LiveHub.deliver_loops hl hphase hloop'
      refine ⟨⟨old, hold, hevent'.symm.trans hevent, habort'.symm.trans habort, ?_⟩,
        by rwa [← hsessions]⟩
      by_cases hml : m = l
      · subst hml
        rw [hl] at hold
        cases hold
        refine hback ?_ hopen
        by_contra hshut
        refine hresume ⟨by simpa using hshut, hevent'.symm.trans hevent, habort'.symm.trans habort⟩
      · rwa [hother hml] at hopen
    have hget : t.getIncident e n = s.getIncident e n := by
      rw [getIncident, ht', hincidents]
      rfl
    have hget' : (t.onPoke poke).getIncident e n = s.getIncident e n := by
      rw [← hget, getIncident, pincidents]
      rfl
    rw [hget'] at hn
    have hbound : ∀ read ∈ t.patchReads, read.seq ≤ t.patchSeq (read.event, read.number) := by
      intro read hread
      change read ∈ (s.onOpen loop).patchReads at hread
      change read.seq ≤ (s.onOpen loop).patchSeq (read.event, read.number)
      rw [hreads] at hread
      rw [hseq]
      exact hs.bound hread
    have hup : s.UpToDate e n → (t.onPoke poke).UpToDate e n := fun hup =>
      UpToDate.onPoke (.inr (hup.congr hreads (congrFun hseq _) (congrFun hcached e) hget)) hbound
    rcases hrows m hm' n hn with (⟨pokes, hpokes, hmem⟩ | hmem | htook) | hup'
    · exact .inl (.inl ⟨pokes, by rw [psessions]; exact (congrFun hsessions m).trans hpokes, hmem⟩)
    · refine .inl (.inr (.inl ?_))
      rw [pwire]
      change _ ∈ (s.onOpen loop).wire m
      rwa [hwire]
    · by_cases hml : m = l
      · subst hml
        rw [htaken] at htook
        cases htook
        exact .inr (UpToDate.onPoke (.inl rfl) hbound)
      · refine .inl (.inr (.inr ?_))
        rw [ptaken]
        exact (Function.update_of_ne hml ..).trans htook
    · exact .inr (hup hup')
  · cases h

/-! ### The reads -/

/-- A row read is answered by the server, or settles. -/
theorem latestRead_setRead {r : Nat} {f : PatchRead → PatchRead} {read : PatchRead}
    (h : (s.setRead r f).LatestRead e n read)
    (hkey : ∀ read, (f read).event = read.event ∧ (f read).number = read.number ∧
      (f read).seq = read.seq ∧ ((f read).settled = false → read.settled = false)) :
    s.LatestRead e n read ∨ ∃ old, s.patchReads[r]? = some old ∧ s.LatestRead e n old ∧ read = f old := by
  obtain ⟨hmem, hevent, hnumber, hsettled, hseq⟩ := h
  rcases mem_modify hmem with hmem | ⟨old, hold, rfl⟩
  · exact .inl ⟨hmem, hevent, hnumber, hsettled, hseq⟩
  · obtain ⟨kevent, knumber, kseq, ksettled⟩ := hkey old
    refine .inr ⟨old, hold, ⟨List.mem_of_getElem? hold, kevent.symm.trans hevent,
      knumber.symm.trans hnumber, ksettled hsettled, kseq.symm.trans hseq⟩, rfl⟩

theorem setRead_of_latestRead {r : Nat} (f : PatchRead → PatchRead) {read : PatchRead}
    (h : s.LatestRead e n read)
    (hkey : ∀ old, s.patchReads[r]? = some old → s.LatestRead e n old →
      (f old).event = old.event ∧ (f old).number = old.number ∧ (f old).seq = old.seq ∧
        (f old).settled = old.settled) : ∃ read', (s.setRead r f).LatestRead e n read' := by
  obtain ⟨hmem, hevent, hnumber, hsettled, hseq⟩ := h
  obtain ⟨j, hj⟩ := List.mem_iff_getElem?.mp hmem
  by_cases hjr : j = r
  · subst hjr
    have hnew : (s.setRead j f).patchReads[j]? = some (f read) := by
      simp [LiveList.setRead, hj]
    obtain ⟨kevent, knumber, kseq, ksettled⟩ :=
      hkey read hj ⟨hmem, hevent, hnumber, hsettled, hseq⟩
    exact ⟨f read, List.mem_of_getElem? hnew, kevent.trans hevent, knumber.trans hnumber,
      ksettled.trans hsettled, kseq.trans hseq⟩
  · have hsame : (s.setRead r f).patchReads[j]? = some read := by
      simp [LiveList.setRead, hj, Ne.symm hjr]
    exact ⟨read, List.mem_of_getElem? hsame, hevent, hnumber, hsettled, hseq⟩

theorem UpToDate.readIncident {r : Nat} (h : s.UpToDate e n) :
    (s.setRead r fun read =>
      { read with answer := some (s.getIncident read.event read.number) }).UpToDate e n := by
  refine ⟨fun read hread incident hanswer => ?_, fun hnone => ?_⟩
  · rcases latestRead_setRead hread (fun _ => ⟨rfl, rfl, rfl, fun h => h⟩) with
      hold | ⟨old, -, ⟨-, hevent, hnumber, -⟩, rfl⟩
    · exact h.read read hold incident hanswer
    · cases hanswer
      rw [hevent, hnumber]
      rfl
  · refine h.row fun read hread => ?_
    obtain ⟨read', hread'⟩ := setRead_of_latestRead (r := r)
      (fun read => { read with answer := some (s.getIncident read.event read.number) }) hread
      fun _ _ _ => ⟨rfl, rfl, rfl, rfl⟩
    exact hnone read' hread'

/-- A read settles that could not have written the row. -/
theorem UpToDate.settle {r : Nat} {read : PatchRead} (h : s.UpToDate e n)
    (hread : s.patchReads[r]? = some read) (hnot : ¬ s.LatestRead e n read) :
    (s.setRead r fun read => { read with settled := true }).UpToDate e n := by
  refine ⟨fun q hq incident hanswer => ?_, fun hnone => ?_⟩
  · rcases latestRead_setRead hq (fun _ => ⟨rfl, rfl, rfl, fun h => by cases h⟩) with
      hold | ⟨old, -, -, rfl⟩
    · exact h.read q hold incident hanswer
    · exact absurd hq.2.2.2.1 (by simp)
  · refine h.row fun q hq => ?_
    obtain ⟨q', hq'⟩ := setRead_of_latestRead (r := r) (fun read => { read with settled := true })
      hq fun old hold hlatest => by
        rw [hread] at hold
        cases hold
        exact absurd hlatest hnot
    exact hnone q' hq'

theorem patchIncidentList_parts (s : LiveList) (read : PatchRead)
    (incident : Option IncidentView) :
    (s.patchIncidentList read incident).hub = s.hub ∧
      (s.patchIncidentList read incident).incidents = s.incidents ∧
        (s.patchIncidentList read incident).sessions = s.sessions ∧
          (s.patchIncidentList read incident).wire = s.wire ∧
            (s.patchIncidentList read incident).taken = s.taken ∧
              (s.patchIncidentList read incident).invalidated = s.invalidated ∧
                (s.patchIncidentList read incident).patchReads = s.patchReads ∧
                  (s.patchIncidentList read incident).patchSeq = s.patchSeq := by
  unfold LiveList.patchIncidentList
  split <;> exact ⟨rfl, rfl, rfl, rfl, rfl, rfl, rfl, rfl⟩

/-- The answer of another read leaves the row alone. -/
theorem Shows.patch {read : PatchRead} {incident : Option IncidentView} (h : s.Shows e n)
    (hs : Sound s) (hnumber : ∀ view ∈ incident, view.incident.number = read.number)
    (hother : ¬ (read.event = e ∧ read.number = n ∧ read.seq = s.patchSeq (e, n))) :
    (s.patchIncidentList read incident).Shows e n := by
  intro rows hrows
  have hget : (s.patchIncidentList read incident).getIncident e n = s.getIncident e n := by
    rw [getIncident, (patchIncidentList_parts s read incident).2.1]
    rfl
  rw [hget]
  unfold LiveList.patchIncidentList at hrows
  split at hrows
  · exact h rows hrows
  · rename_i hseq
    by_cases hevent : read.event = e
    · subst hevent
      simp only [Function.update_self] at hrows
      obtain ⟨old, hold, rfl⟩ := Option.map_eq_some_iff.mp hrows
      have hn : n ≠ read.number := by
        rintro rfl
        exact hother ⟨rfl, rfl, by simpa using Eq.symm (not_not.mp hseq)⟩
      rw [rowsOf_patchRows (hs.cached hold) _ (fun view hview => ?_), if_neg hn]
      · exact h old hold
      · obtain ⟨shown, hshown, rfl⟩ := Option.map_eq_some_iff.mp hview
        exact hnumber shown hshown
    · simp only [Function.update_of_ne (Ne.symm hevent)] at hrows
      exact h rows hrows

theorem UpToDate.incidentAnswered {r : Nat} {read : PatchRead} {incident : Option IncidentView}
    (h : s.UpToDate e n) (hs : Sound s) (hread : s.patchReads[r]? = some read)
    (hout : read.settled = false) (hanswer : read.answer = some incident) :
    ((s.setRead r fun read => { read with settled := true }).patchIncidentList read
      incident).UpToDate e n := by
  set t := s.setRead r fun read => { read with settled := true } with ht
  have hmem := List.mem_of_getElem? hread
  have hnamed := hs.named hmem hanswer
  have hset : Sound t := hs.setRead (fun _ => ⟨rfl, rfl, rfl⟩) fun old hold q hq =>
    hs.named (List.mem_of_getElem? hold) hq
  obtain ⟨-, hincidents, -, -, -, -, hreads, hseq⟩ := patchIncidentList_parts t read incident
  have hlatest : ∀ q, (t.patchIncidentList read incident).LatestRead e n q ↔
      t.LatestRead e n q := by
    intro q
    rw [LatestRead, LatestRead, hreads, hseq]
  have hget : (t.patchIncidentList read incident).getIncident e n = s.getIncident e n := by
    rw [getIncident, hincidents]
    rfl
  by_cases hwrites : s.LatestRead e n read
  · -- the read that may write: it has not missed a commit
    have hcurrent : incident = s.getIncident e n := h.read read hwrites incident hanswer
    obtain ⟨-, rfl, rfl, -, hnow⟩ := hwrites
    refine ⟨fun q hq q' hq' => ?_, fun _ rows hrows => ?_⟩
    · rw [hlatest] at hq
      rw [hget]
      rcases latestRead_setRead hq (fun _ => ⟨rfl, rfl, rfl, fun h => by cases h⟩) with
        hold | ⟨old, -, -, rfl⟩
      · exact h.read q hold q' hq'
      · exact absurd hq.2.2.2.1 (by simp)
    · have hpatch : ¬ t.patchSeq (read.event, read.number) ≠ read.seq := not_not.mpr hnow.symm
      rw [LiveList.patchIncidentList, if_neg hpatch] at hrows
      simp only [Function.update_self] at hrows
      obtain ⟨old, hold, rfl⟩ := Option.map_eq_some_iff.mp hrows
      rw [rowsOf_patchRows (hset.cached hold) _ (fun view hview => ?_), if_pos rfl, hget, hcurrent]
      obtain ⟨shown, hshown, rfl⟩ := Option.map_eq_some_iff.mp hview
      exact hnamed shown hshown
  · have hup : t.UpToDate e n := h.settle hread hwrites
    refine ⟨fun q hq => ?_, fun hnone => ?_⟩
    · rw [hget]
      exact hup.read q ((hlatest q).mp hq)
    · refine (hup.row fun q hq => hnone q ((hlatest q).mpr hq)).patch hset hnamed ?_
      rintro ⟨hevent, hnumber, hnow⟩
      exact hwrites ⟨hmem, hevent, hnumber, hout, hnow⟩

/-- A step that changes nothing the rows are followed by. -/
theorem Tracked.ofParts (h : Tracked s e i)
    (hparts : s'.hub = s.hub ∧ s'.incidents = s.incidents ∧ s'.sessions = s.sessions ∧
      s'.wire = s.wire ∧ s'.taken = s.taken)
    (hinvalid : s.invalidated e = true → s'.invalidated e = true)
    (hup : ∀ n, s.UpToDate e n → s'.UpToDate e n) : Tracked s' e i := by
  obtain ⟨hhub, hincidents, hsessions, hwire, htaken⟩ := hparts
  refine h.carry (by rw [hhub]; exact h.gap) hinvalid (fun l hl => ?_) fun l n _ hn hold => ?_
  · rwa [OpenOn, hhub, hsessions] at hl
  · rw [getIncident, hincidents] at hn
    refine (hold hn).imp (fun hp => ?_) (hup n)
    rwa [Pending, hsessions, hwire, htaken]

theorem Tracked.putList {read : ListRead} {rows : List IncidentView} (ht : Tracked s e i)
    (hs : Sound s) (horder : read.event = e → read.answer = some (s.listIncidents e) ∧
      ∀ read ∈ s.patchReads, read.event = e → read.settled = false →
        ∀ incident ∈ read.answer, incident = s.getIncident e read.number)
    (hanswer : read.answer = some rows) : Tracked (s.putList read.event rows) e i := by
  by_cases hevent : read.event = e
  · obtain ⟨hcurrent, hreads⟩ := horder hevent
    rw [hanswer] at hcurrent
    cases hcurrent
    subst hevent
    refine ⟨ht.gap, .inr fun l _ n _ => .inr ⟨fun q hq incident hincident => ?_, fun _ => ?_⟩⟩
    · obtain ⟨hmem, hqe, rfl, hout, -⟩ := hq
      exact hreads q hmem hqe hout incident hincident
    · exact shows_listIncidents hs (by simp [LiveList.putList]) rfl
  · refine ht.ofParts ⟨rfl, rfl, rfl, rfl, rfl⟩ (fun hi => ?_) fun n hup => ?_
    · simpa [LiveList.putList, Ne.symm hevent] using hi
    · exact hup.congr rfl rfl (Function.update_of_ne (Ne.symm hevent) ..) rfl

theorem Tracked.step {a : ListAction} (ht : Tracked s e i) (hs : Sound s)
    (hwatched : s.hub.watched.lookup e = some i) (horder : s.InOrder e a)
    (h : s.step a = some s') : Tracked s' e i := by
  cases a with
  | hub a =>
      simp only [LiveList.step] at h
      split at h
      · cases h
      · rename_i hmoves
        obtain ⟨hub, hhub, rfl⟩ := Option.map_eq_some_iff.mp h
        have hon := LiveHub.Onward.step (fun l heq => by simp [heq, LiveAction.movesMessage] at hmoves)
          hs.rested hhub
        exact ht.ofStreams ⟨rfl, rfl, rfl, rfl, rfl⟩ (hon.gap ht.gap)
          (fun m hm => openOn_of_onward hm hon fun h => h) fun _ _ _ _ hp => hp
  | subscribe l => exact ht.subscribe h
  | hangUp l =>
      obtain ⟨_, -, rfl⟩ := Option.map_eq_some_iff.mp h
      exact ht.hangUp
  | beat l =>
      obtain ⟨_, -, rfl⟩ := Option.map_eq_some_iff.mp h
      refine ht.ofStreams ⟨rfl, rfl, rfl, rfl, rfl⟩ ht.gap (fun _ hm => hm) fun m n _ _ hp => ?_
      refine hp.imp_right (Or.imp_left fun hmem => ?_)
      by_cases hml : m = l
      · subst hml
        simp [hmem]
      · simpa only [Function.update_of_ne hml] using hmem
  | send l => exact ht.send h
  | receive l => exact ht.receive hs h
  | deliver l => exact ht.deliver hs hwatched h
  | drop l =>
      obtain ⟨hub, hhub, rfl⟩ := Option.map_eq_some_iff.mp h
      exact ht.drop hs hhub
  | commit e' n view =>
      simp only [LiveList.step] at h
      split at h
      · rename_i hall
        cases h
        refine ht.commit fun v hv => ?_
        simpa [Option.mem_def.mp hv] using hall
      · cases h
  | readIncident r =>
      simp only [LiveList.step] at h
      split at h
      · split at h
        · cases h
        · cases h
          exact ht.ofParts ⟨rfl, rfl, rfl, rfl, rfl⟩ (fun hi => hi) fun n hup => hup.readIncident
      · cases h
  | incidentAnswered r =>
      simp only [LiveList.step] at h
      split at h
      · rename_i read hread
        split at h
        · rename_i incident hout hanswer
          cases h
          obtain ⟨hhub, hincidents, hsessions, hwire, htaken, hinvalid, -⟩ :=
            patchIncidentList_parts (s.setRead r fun read => { read with settled := true }) read
              incident
          refine ht.ofParts ⟨hhub, hincidents, hsessions, hwire, htaken⟩ (fun hi => ?_)
            fun n hup => hup.incidentAnswered hs hread hout hanswer
          rw [hinvalid]
          exact hi
        · cases h
      · cases h
  | incidentFailed r =>
      simp only [LiveList.step] at h
      split at h
      · rename_i read hread
        split at h
        · cases h
        · cases h
          by_cases hevent : read.event = e
          · subst hevent
            exact ⟨ht.gap, .inl (by simp [LiveList.invalidateList])⟩
          · refine ht.ofParts ⟨rfl, rfl, rfl, rfl, rfl⟩ (fun hi => ?_) fun n hup => ?_
            · simpa [LiveList.invalidateList, LiveList.setRead, Ne.symm hevent] using hi
            · have hup' := hup.settle hread fun hlatest => hevent hlatest.2.1
              exact hup'.congr rfl rfl rfl rfl
      · cases h
  | fetchList e' =>
      cases h
      exact ht.ofParts ⟨rfl, rfl, rfl, rfl, rfl⟩ (fun hi => hi) fun n hup => hup.congr rfl rfl rfl rfl
  | readList k =>
      simp only [LiveList.step] at h
      split at h
      · split at h
        · cases h
        · cases h
          exact ht.ofParts ⟨rfl, rfl, rfl, rfl, rfl⟩ (fun hi => hi)
            fun n hup => hup.congr rfl rfl rfl rfl
      · cases h
  | listAnswered k =>
      simp only [LiveList.step] at h
      split at h
      · rename_i read hread
        split at h
        · rename_i rows _ hanswer
          cases h
          have hsame : Tracked (s.setListRead k fun read => { read with settled := true }) e i :=
            ht.ofParts ⟨rfl, rfl, rfl, rfl, rfl⟩ (fun hi => hi)
              fun n hup => hup.congr rfl rfl rfl rfl
          have hset : Sound (s.setListRead k fun read => { read with settled := true }) :=
            hs.setListRead fun old hold rows hrows => hs.listed (List.mem_of_getElem? hold) hrows
          exact hsame.putList hset (horder read hread) hanswer
        · cases h
      · cases h
  | listFailed k =>
      simp only [LiveList.step] at h
      split at h
      · split at h
        · cases h
        · cases h
          exact ht.ofParts ⟨rfl, rfl, rfl, rfl, rfl⟩ (fun hi => hi)
            fun n hup => hup.congr rfl rfl rfl rfl
      · cases h

/-! ## Convergence -/

theorem sound_of_run {active : Bool} {as : List ListAction}
    (hr : Run step { hub := { active } } as s) : Sound s := by
  refine hr.invariant (I := fun _ s => Sound s) ?_ fun _ _ _ _ hs h => hs.step h
  refine ⟨LiveHub.inv_start active, fun h => ?_, fun e n => ?_, fun h => ?_, fun h => ?_, fun h => ?_,
    fun h => ?_⟩
  · simp at h
  · simp [rowsOf]
  · cases h
  · cases h
  · cases h
  · cases h

/-- The cached list shows every incident of the event that the viewer may see as the server has it,
and no row read of the event is out. -/
structure Converged (s : LiveList) (e : Int) : Prop where
  reads : ∀ read ∈ s.patchReads, read.event = e → read.settled = true
  rows : ∀ n, s.getIncident e n ≠ none → s.Shows e n

/-- The event's stream is open, no poke of it is on its way, and no row read of it is out. -/
structure Quiet (s : LiveList) (e : Int) : Prop where
  stream : ∃ l, s.OpenOn e l ∧ ∀ n, ¬ s.Pending l (.incidentChanged e n)
  reads : ∀ read ∈ s.patchReads, read.event = e → read.settled = true

theorem Converged.tracked (h : Converged s e)
    (hgap : s.hub.entries[i]?.map Watched.gap = some true) : Tracked s e i := by
  refine ⟨hgap, .inr fun l _ n hn => .inr ⟨fun read hread => ?_, fun _ => h.rows n hn⟩⟩
  obtain ⟨hmem, hevent, -, hout, -⟩ := hread
  rw [h.reads read hmem hevent] at hout
  cases hout

/-- **The live list converges.** Once an event's stream has been open and its list has converged,
then, as long as the event stays watched and no list is put into the cache that a commit has
overtaken, the list has converged again whenever the stream is quiet, or has been invalidated. -/
theorem liveList_converges (active : Bool) (as bs : List ListAction) (s₀ s : LiveList) (e : Int)
    (i : Nat) (hstart : Run step { hub := { active } } as s₀)
    (hopened : s₀.hub.entries[i]?.map Watched.gap = some true) (hconverged : Converged s₀ e)
    (hrun : RunMeeting step (fun s a => s.hub.watched.lookup e = some i ∧ s.InOrder e a) s₀ bs s)
    (hquiet : Quiet s e) : s.invalidated e = true ∨ Converged s e := by
  have hinv : Sound s ∧ Tracked s e i := by
    refine hrun.invariant (I := fun _ s => Sound s ∧ Tracked s e i)
      ⟨sound_of_run hstart, hconverged.tracked hopened⟩ ?_
    rintro _ s a s' ⟨hs, ht⟩ ⟨hwatched, horder⟩ h
    exact ⟨hs.step h, ht.step hs hwatched horder h⟩
  obtain ⟨l, hopen, hnone⟩ := hquiet.stream
  refine hinv.2.rows.imp_right fun hrows => ⟨hquiet.reads, fun n hn => ?_⟩
  have hup := (hrows l hopen n hn).resolve_left (hnone n)
  refine hup.row fun read hread => ?_
  obtain ⟨hmem, hevent, -, hout, -⟩ := hread
  rw [hquiet.reads read hmem hevent] at hout
  cases hout

/-- Incident 7 of event 1, as its viewer sees it. -/
def liveView (summary : String) : IncidentView where
  viewerMayAddJournal := true
  incident :=
    { event := "fair", eventId := 1, number := 7, created := 0, lastModified := 0, createdBy := none
      state := .stateOpen, isPrivate := none, outcomeId := none, started := 0, priority := .normal
      summary := some summary, location := {}, closed := none, incidentTypeIds := [], reports := []
      people := [], linkedIncidents := [], journalEntries := [] }

/-- A screen watches event 1, and its stream opens. -/
def screenOpens : List ListAction :=
  [.hub (.watch 1), .subscribe 0, .receive 0, .deliver 0]

/-- The list is read, then two commits to incident 7 follow each other; the read of the first poke
is answered last. -/
def overtakenRead : List ListAction :=
  [.fetchList 1, .readList 0, .listAnswered 0, .commit 1 7 (some (liveView "smoke")), .send 0,
    .receive 0, .deliver 0, .readIncident 0, .commit 1 7 (some (liveView "fire")), .send 0,
    .receive 0, .deliver 0, .readIncident 1, .incidentAnswered 1, .incidentAnswered 0]

/-- The state that `screenOpens` leads to. -/
def openedScreen : LiveList := (RunLib.exec step {} screenOpens).get (by decide)

/-- A step that keeps the list of event 1 in order. -/
def orderedStep (s : LiveList) (a : ListAction) : Option LiveList :=
  if s.hub.watched.lookup 1 = some 0 ∧ s.InOrder 1 a then s.step a else none

/-- The state that `overtakenRead` leads to. -/
def readOvertaken : LiveList := (RunLib.exec orderedStep openedScreen overtakenRead).get (by decide)

theorem liveList_converges_overtakenRead : Run step {} screenOpens openedScreen ∧
    Run step openedScreen overtakenRead readOvertaken ∧ readOvertaken.invalidated 1 = false ∧
      Converged readOvertaken 1 := by
  have hopens : Run step {} screenOpens openedScreen := run_of_exec (Option.some_get _).symm
  have hmeeting : RunMeeting step (fun s a => s.hub.watched.lookup 1 = some 0 ∧ s.InOrder 1 a)
      openedScreen overtakenRead readOvertaken :=
    runMeeting_of_exec (Option.some_get (by decide)).symm
  have hfresh : readOvertaken.invalidated 1 = false := by decide
  have hquiet : Quiet readOvertaken 1 := by
    refine ⟨⟨0, ⟨⟨_, rfl, by decide, by decide, by decide⟩, by decide⟩, ?_⟩, by decide⟩
    have hsession : readOvertaken.sessions 0 = some [] := by decide
    have hwire : readOvertaken.wire 0 = [] := by decide
    have htaken : readOvertaken.taken 0 = none := by decide
    simp [Pending, hsession, hwire, htaken]
  have hconverged : Converged openedScreen 1 := ⟨by decide, fun n hn => absurd rfl hn⟩
  refine ⟨hopens, hmeeting.run, hfresh, ?_⟩
  refine (liveList_converges true screenOpens overtakenRead openedScreen readOvertaken 1 0 hopens
    (by decide) hconverged hmeeting hquiet).resolve_left ?_
  simp [hfresh]

end LiveList

end OcfIms
