import Mathlib
import OcfIms.LibRecord
import OcfIms.LibRun
import OcfIms.JSText

/-!
# Unread marks

What this device has opened: for each row of the board, when the row had last changed as it was
opened. The marks are kept in memory and under a storage key; a hook loads them once, and saves the
whole map each time a mark moves.

Loads and saves take their time. A row may be opened before the load has finished, and the saves in
flight may reach the storage in any order, or not at all.
-/

namespace OcfIms

open RunLib RecordLib

variable {ν : Type}

/-! ## The marks and their text -/

inductive WorkKind
  | incident
  | report
  deriving DecidableEq, Repr

structure WorkItem (ν : Type) where
  kind : WorkKind
  number : Int
  changedAt : ν
  deriving DecidableEq, Repr

/-- The text under a storage key as `JSON.parse` reads it, nothing where it throws. A number is
nothing where its literal is too large. -/
abbrev StoredText (ν : Type) := Option (JSValue (Option ν))

abbrev SeenMarks (ν : Type) := Record JSString ν

def WorkKind.letter : WorkKind → JSString
  | .incident => utf16 "i"
  | .report => utf16 "r"

def markOf (item : WorkItem ν) : JSString := item.kind.letter ++ numberText item.number

/-- A mark is a finite number. -/
def markOfValue : JSValue (Option ν) → Option ν
  | .number n => n
  | _ => none

def parseSeen : StoredText ν → SeenMarks ν
  | some (.object members) => Record.read markOfValue members
  | _ => []

def loadSeen : Option (StoredText ν) → SeenMarks ν
  | none => []
  | some raw => parseSeen raw

/-- What `saveSeen` writes. -/
def seenText (marks : SeenMarks ν) : StoredText ν :=
  some (.object (marks.write fun n => .number (some n)))

theorem parseSeen_seenText (marks : SeenMarks ν) : parseSeen (seenText marks) = marks :=
  Record.read_write (f := markOfValue) (g := fun n => .number (some n)) (fun _ => rfl) marks

variable [LinearOrder ν]

def withSeen (marks : SeenMarks ν) (item : WorkItem ν) : SeenMarks ν :=
  match marks.get (markOf item) with
  | some mark =>
    if item.changedAt ≤ mark then marks else marks.set (markOf item) item.changedAt
  | none => marks.set (markOf item) item.changedAt

/-! ## Levels

The mark of a row, with a bottom for a row that has none. -/

def level (marks : SeenMarks ν) (key : JSString) : WithBot ν := marks.get key

omit [LinearOrder ν] in
theorem level_set (marks : SeenMarks ν) (key : JSString) (n : ν) (j : JSString) :
    level (marks.set key n) j = if key = j then (n : WithBot ν) else level marks j := by
  rw [level, Record.get_set]
  split <;> rfl

theorem level_withSeen (marks : SeenMarks ν) (item : WorkItem ν) (key : JSString) :
    level (withSeen marks item) key =
      if markOf item = key then max (level marks key) item.changedAt else level marks key := by
  have hset : ∀ mark : WithBot ν, level marks (markOf item) = mark → mark ≤ item.changedAt →
      level (marks.set (markOf item) item.changedAt) key =
        if markOf item = key then max (level marks key) item.changedAt else level marks key := by
    intro mark hmark hle
    rw [level_set]
    split
    · rename_i hkey
      rw [← hkey, hmark, max_eq_right hle]
    · rfl
  rw [withSeen]
  split
  · rename_i mark hmark
    split
    · rename_i hle
      split
      · rename_i hkey
        have hlevel : level marks key = mark := hkey ▸ hmark
        rw [hlevel, max_eq_left (WithBot.coe_le_coe.mpr hle)]
      · rfl
    · rename_i hlt
      exact hset mark hmark (WithBot.coe_le_coe.mpr (le_of_not_ge hlt))
  · rename_i hnone
    exact hset ⊥ hnone bot_le

/-- Opening a row never moves a mark backwards. -/
theorem level_le_withSeen (marks : SeenMarks ν) (item : WorkItem ν) :
    level marks ≤ level (withSeen marks item) := by
  intro key
  rw [level_withSeen]
  split
  · exact le_max_left _ _
  · exact le_refl _

theorem changedAt_le_withSeen (marks : SeenMarks ν) (item : WorkItem ν) :
    (item.changedAt : WithBot ν) ≤ level (withSeen marks item) (markOf item) := by
  rw [level_withSeen, if_pos rfl]
  exact le_max_right _ _

/-! ## The hook -/

/-- How far the load is. -/
inductive Load (ν : Type)
  | idle
  | reading
  | answered (stored : SeenMarks ν)
  | loaded

/-- The storage under the key of the event, the state of the hook, the texts of the saves in flight in
the order they were issued, and the rows opened so far. -/
structure SeenHook (ν : Type) where
  stored : Option (StoredText ν)
  load : Load ν := .idle
  marks : SeenMarks ν := []
  saves : List (StoredText ν) := []
  opened : List (WorkItem ν) := []

inductive SeenAction (ν : Type)
  | load
  | read
  | readFails
  | loaded
  | markSeen (item : WorkItem ν)
  | saved (n : Nat)
  | saveFails (n : Nat)

def SeenHook.markSeen (s : SeenHook ν) (item : WorkItem ν) : SeenHook ν :=
  let next := withSeen s.marks item
  { s with
    marks := next
    saves := if next = s.marks then s.saves else s.saves ++ [seenText next]
    opened := s.opened ++ [item] }

def SeenHook.step (s : SeenHook ν) : SeenAction ν → Option (SeenHook ν)
  | .load =>
    match s.load with
    | .idle => some { s with load := .reading }
    | _ => none
  | .read =>
    match s.load with
    | .reading => some { s with load := .answered (loadSeen s.stored) }
    | _ => none
  | .readFails =>
    match s.load with
    | .reading => some { s with load := .answered [] }
    | _ => none
  | .loaded =>
    match s.load with
    | .answered stored => some { s with load := .loaded, marks := stored }
    | _ => none
  | .markSeen item => some (s.markSeen item)
  | .saved n => s.saves[n]?.map fun raw =>
    { s with stored := some raw, saves := s.saves.eraseIdx n }
  | .saveFails n => s.saves[n]?.map fun _ => { s with saves := s.saves.eraseIdx n }

/-- The hook as it mounts. -/
def useSeen (stored : Option (StoredText ν)) : SeenHook ν := { stored }

/-- The marks are at least those stored at first and those of the rows opened. -/
structure Covers (stored : Option (StoredText ν)) (opened : List (WorkItem ν))
    (marks : SeenMarks ν) : Prop where
  stored : level (loadSeen stored) ≤ level marks
  opened : ∀ item ∈ opened, (item.changedAt : WithBot ν) ≤ level marks (markOf item)

/-- A row is opened when the load has finished, a read fails only where no mark is stored, the saves
reach the storage in the order they were issued, and none fails but one that another follows. -/
def SeenHook.Timely (s : SeenHook ν) : SeenAction ν → Prop
  | .markSeen _ => match s.load with
    | .loaded => True
    | _ => False
  | .readFails => loadSeen s.stored = []
  | .saved n => n = 0
  | .saveFails n => n + 1 < s.saves.length
  | _ => True

/-- The text that is in the storage once the saves in flight are there. -/
def SeenHook.settled (s : SeenHook ν) : Option (StoredText ν) := s.saves.getLast?.or s.stored

/-- Nothing has happened to the marks. -/
structure SeenHook.Untouched (first : Option (StoredText ν)) (s : SeenHook ν) : Prop where
  stored : s.stored = first
  saves : s.saves = []
  opened : s.opened = []

/-- Before the load has finished nothing has changed; after it, what is in memory is what the storage
will have. -/
def SeenHook.Sound (first : Option (StoredText ν)) (s : SeenHook ν) : Prop :=
  match s.load with
  | .answered stored => s.Untouched first ∧ stored = loadSeen first
  | .loaded => Covers first s.opened s.marks ∧ loadSeen s.settled = s.marks
  | _ => s.Untouched first

section Steps

variable {first : Option (StoredText ν)} {s s' : SeenHook ν} {item : WorkItem ν} {n : Nat}

theorem Covers.markSeen {opened : List (WorkItem ν)} {marks : SeenMarks ν}
    (h : Covers first opened marks) (item : WorkItem ν) :
    Covers first (opened ++ [item]) (withSeen marks item) where
  stored := h.stored.trans (level_le_withSeen marks item)
  opened := fun other hother => by
    rcases List.mem_append.mp hother with hother | hother
    · exact (h.opened other hother).trans (level_le_withSeen marks item _)
    · rw [List.mem_singleton.mp hother]
      exact changedAt_le_withSeen marks item

/-- A move of a mark is saved. -/
theorem loadSeen_settled_markSeen (h : loadSeen s.settled = s.marks) :
    loadSeen (s.markSeen item).settled = (s.markSeen item).marks := by
  simp only [SeenHook.markSeen, SeenHook.settled]
  split
  · rename_i hsame
    exact h.trans hsame.symm
  · rw [List.getLast?_append, List.getLast?_singleton]
    exact parseSeen_seenText _

omit [LinearOrder ν] in
/-- The first of the saves in flight reaches the storage. -/
theorem settled_saved {raw : StoredText ν} {rest : List (StoredText ν)}
    (h : s.saves = raw :: rest) :
    { s with stored := some raw, saves := rest : SeenHook ν }.settled = s.settled := by
  rw [SeenHook.settled, SeenHook.settled, h, List.getLast?_cons]
  cases rest.getLast? <;> rfl

omit [LinearOrder ν] in
/-- A save that another follows fails. -/
theorem settled_saveFails (h : n + 1 < s.saves.length) :
    { s with saves := s.saves.eraseIdx n : SeenHook ν }.settled = s.settled := by
  obtain ⟨before, last, hsaves⟩ : ∃ before last, s.saves = before ++ [last] := by
    rcases List.eq_nil_or_concat s.saves with hnil | ⟨before, last, h'⟩
    · rw [hnil] at h
      exact absurd h (Nat.not_lt_zero _)
    · exact ⟨before, last, by rw [h', List.concat_eq_append]⟩
  have hn : n < before.length := by
    rw [hsaves, List.length_append, List.length_singleton] at h
    omega
  simp only [SeenHook.settled, hsaves, List.eraseIdx_append_of_lt_length hn]
  rw [List.getLast?_append, List.getLast?_append, List.getLast?_singleton]
  rfl

theorem SeenHook.Sound.markSeen (h : s.Sound first) (hload : s.load = .loaded) :
    (s.markSeen item).Sound first := by
  rw [SeenHook.Sound, hload] at h
  have hload' : (s.markSeen item).load = .loaded := hload
  rw [SeenHook.Sound, hload']
  exact ⟨h.1.markSeen item, loadSeen_settled_markSeen h.2⟩

/-- Saves are in flight only once the load has finished. -/
theorem SeenHook.Sound.of_settled (h : s.Sound first) (hsaves : s.saves ≠ [])
    (hload : s'.load = s.load) (hopened : s'.opened = s.opened) (hmarks : s'.marks = s.marks)
    (hsettled : s'.settled = s.settled) : s'.Sound first := by
  rw [SeenHook.Sound] at h ⊢
  rw [hload, hopened, hmarks, hsettled]
  split at h
  · exact absurd h.1.saves hsaves
  · exact h
  · exact absurd h.saves hsaves

theorem SeenHook.Sound.step {a : SeenAction ν} (h : s.Sound first) (ha : s.Timely a)
    (hs : s.step a = some s') : s'.Sound first := by
  cases a with
  | load =>
      simp only [SeenHook.step] at hs
      split at hs
      · rename_i hload
        cases hs
        rw [SeenHook.Sound, hload] at h
        exact ⟨h.stored, h.saves, h.opened⟩
      · cases hs
  | read =>
      simp only [SeenHook.step] at hs
      split at hs
      · rename_i hload
        cases hs
        rw [SeenHook.Sound, hload] at h
        exact ⟨⟨h.stored, h.saves, h.opened⟩, congrArg loadSeen h.stored⟩
      · cases hs
  | readFails =>
      simp only [SeenHook.step] at hs
      split at hs
      · rename_i hload
        cases hs
        rw [SeenHook.Sound, hload] at h
        exact ⟨⟨h.stored, h.saves, h.opened⟩, ha.symm.trans (congrArg loadSeen h.stored)⟩
      · cases hs
  | loaded =>
      simp only [SeenHook.step] at hs
      split at hs
      · rename_i stored hload
        cases hs
        rw [SeenHook.Sound, hload] at h
        obtain ⟨⟨hstored, hsaves, hopened⟩, rfl⟩ := h
        refine ⟨⟨le_refl _, fun item hitem => ?_⟩, ?_⟩
        · rw [hopened] at hitem
          exact absurd hitem List.not_mem_nil
        · simp only [SeenHook.settled, hsaves, hstored]
          rfl
      · cases hs
  | markSeen item =>
      cases hs
      cases hload : s.load with
      | loaded => exact h.markSeen hload
      | _ => simp [SeenHook.Timely, hload] at ha
  | saved n =>
      obtain rfl : n = 0 := ha
      obtain ⟨raw, hraw, rfl⟩ := Option.map_eq_some_iff.mp hs
      obtain ⟨rest, hsaves⟩ : ∃ rest, s.saves = raw :: rest := by
        cases hl : s.saves with
        | nil => simp [hl] at hraw
        | cons _ rest => exact ⟨rest, by simpa [hl] using hraw⟩
      have hsettled := settled_saved hsaves
      refine h.of_settled (by simp [hsaves]) rfl rfl rfl ?_
      simpa only [hsaves, List.eraseIdx_cons_zero] using hsettled
  | saveFails n =>
      obtain ⟨-, -, rfl⟩ := Option.map_eq_some_iff.mp hs
      have hlt : n + 1 < s.saves.length := ha
      refine h.of_settled (fun hnil => ?_) rfl rfl rfl (settled_saveFails hlt)
      rw [hnil] at hlt
      exact absurd hlt (Nat.not_lt_zero _)

end Steps

/-- **No mark moves backwards**, in memory or in the storage, in every run whose steps are timely. -/
theorem marks_never_back {first : Option (StoredText ν)} {as : List (SeenAction ν)}
    {s : SeenHook ν} (h : RunMeeting SeenHook.step SeenHook.Timely (useSeen first) as s) :
    (s.load = .loaded → Covers first s.opened s.marks) ∧
      (s.saves = [] → Covers first s.opened (loadSeen s.stored)) := by
  have hstart : (useSeen first).Sound first := ⟨rfl, rfl, rfl⟩
  have hsound : s.Sound first :=
    h.invariant (I := fun _ s => s.Sound first) hstart fun _ _ _ _ hI ha hs => hI.step ha hs
  rw [SeenHook.Sound] at hsound
  constructor
  · intro hload
    rw [hload] at hsound
    exact hsound.1
  · intro hsaves
    have huntouched : s.Untouched first → Covers first s.opened (loadSeen s.stored) := by
      intro hu
      refine ⟨?_, fun item hitem => ?_⟩
      · rw [hu.stored]
      · rw [hu.opened] at hitem
        exact absurd hitem List.not_mem_nil
    split at hsound
    · exact huntouched hsound.1
    · obtain ⟨hcovers, hsettled⟩ := hsound
      have hstored : s.settled = s.stored := by
        rw [SeenHook.settled, hsaves]
        rfl
      rw [← hstored, hsettled]
      exact hcovers
    · exact huntouched hsound

/-- One row was opened on another day, and a second one is opened after the load. -/
theorem marks_never_back_two :
    let first : Option (StoredText Int) := some (some (.object [(utf16 "r1", .number (some 5))]))
    let second : WorkItem Int := ⟨.incident, 2, 7⟩
    let marks : SeenMarks Int := [(utf16 "r1", 5), (markOf second, 7)]
    loadSeen first = [(utf16 "r1", 5)] ∧ Covers first [second] marks ∧
      Covers first [second] (loadSeen (some (seenText marks))) := by
  intro first second marks
  have hrun : RunMeeting SeenHook.step SeenHook.Timely (useSeen first)
      [.load, .read, .loaded, .markSeen second, .saved 0]
      ⟨some (seenText marks), .loaded, marks, [], [second]⟩ :=
    ((((RunMeeting.start.next trivial rfl).next trivial rfl).next trivial rfl).next trivial rfl).next
      rfl rfl
  exact ⟨rfl, (marks_never_back hrun).1 rfl, (marks_never_back hrun).2 rfl⟩

/-- The second row is opened before the load has finished: the load takes its mark from memory, and
its save takes the other from the storage. -/
theorem marks_go_back_early :
    let first : Option (StoredText Int) := some (some (.object [(utf16 "r1", .number (some 5))]))
    let second : WorkItem Int := ⟨.incident, 2, 7⟩
    ∃ s : SeenHook Int, Run SeenHook.step (useSeen first)
        [.load, .read, .markSeen second, .loaded, .saved 0] s ∧
      s.load = .loaded ∧ s.saves = [] ∧ ¬ Covers first s.opened s.marks ∧
        ¬ Covers first s.opened (loadSeen s.stored) := by
  intro first second
  refine ⟨⟨some (seenText [(markOf second, 7)]), .loaded, [(utf16 "r1", 5)], [], [second]⟩,
    run_of_exec rfl, rfl, rfl, fun h => ?_, fun h => ?_⟩
  · have hmark := h.opened second (List.mem_singleton_self _)
    have hlevel : level [(utf16 "r1", (5 : Int))] (markOf second) = ⊥ := rfl
    rw [hlevel] at hmark
    exact absurd hmark (by decide)
  · have hmark := h.stored (utf16 "r1")
    have hlevel : level (loadSeen (some (seenText [(markOf second, (7 : Int))]))) (utf16 "r1") = ⊥ :=
      rfl
    rw [hlevel] at hmark
    exact absurd hmark (by decide)

end OcfIms
