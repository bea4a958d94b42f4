import OcfIms.IncidentJson
import OcfIms.LibOptimistic

/-!
# Editing an incident

The editor writes a change into the cached incident before it is saved, and takes it back when the
save fails. `run` does so for one field: it reads the field, writes the new value, and on an error
writes back what it read. The people are one field, their list; a strike is one entry's flag.
`useAppendEntry` restores the whole response instead.

What a field is, is what its own reader sees: a location that is not there and one whose three pieces
are empty are the same, and an entry is stricken only if its flag is there and set.
-/

namespace OcfIms

open OptimisticLib RunLib

/-! ## The cached incident -/

structure CachedPerson where
  person : Option PersonRef
  involvement : Option String := none
  grantedAccess : Bool := false
  hasEventAccess : Bool := false
  reportRequested : Option Int := none
  reportNumber : Option Int := none
  deriving DecidableEq, Repr

/-- The `Incident` message of a cached response. -/
structure CachedIncident where
  state : IncidentStateMsg := .unspecified
  closed : Option Int := none
  priority : IncidentPriorityMsg := .unspecified
  isPrivate : Option Bool := none
  outcomeId : Option Int := none
  started : Option Int := none
  summary : Option String := none
  location : Option LocationJSON := none
  incidentTypeIds : List Int := []
  linkedIncidents : List IncidentRef := []
  reports : List Int := []
  people : List CachedPerson := []
  journalEntries : List JournalEntryMsg := []
  deriving DecidableEq, Repr

/-! ## The setters -/

/-- What `run` reads of a field, and how it writes it. Reading may come to nothing (`undefined`). -/
structure FieldRun (T : Type) where
  read : CachedIncident → Option T
  write : CachedIncident → T → CachedIncident

/-- What an error does: nothing, if nothing was read. -/
def FieldRun.restore {T : Type} (f : FieldRun T) (previous i : CachedIncident) : CachedIncident :=
  match f.read previous with
  | none => i
  | some before => f.write i before

/-- `v || undefined`. -/
def orUndefined (v : String) : Option String := if v = "" then none else some v

def stateRun : FieldRun (IncidentStateMsg × Option Int) where
  read i := some (i.state, i.closed)
  write i v := { i with state := v.1, closed := v.2 }

def priorityRun : FieldRun IncidentPriorityMsg where
  read i := some i.priority
  write i v := { i with priority := v }

def privateRun : FieldRun Bool where
  read i := some (i.isPrivate == some true)
  write i v := { i with isPrivate := some v }

def outcomeRun : FieldRun Int where
  read i := some (i.outcomeId.getD 0)
  write i v := { i with outcomeId := if v = 0 then none else some v }

def startedRun : FieldRun Int where
  read i := i.started
  write i v := { i with started := some v }

def summaryRun : FieldRun String where
  read i := some (i.summary.getD "")
  write i v := { i with summary := orUndefined v }

def areaRun : FieldRun String where
  read i := some ((i.location.bind (·.areaSlug)).getD "")
  write i v := { i with location := some { i.location.getD {} with areaSlug := orUndefined v } }

def descriptionRun : FieldRun String where
  read i := some ((i.location.bind (·.description)).getD "")
  write i v := { i with location := some { i.location.getD {} with description := orUndefined v } }

def boothRun : FieldRun String where
  read i := some ((i.location.bind (·.booth)).getD "")
  write i v := { i with location := some { i.location.getD {} with booth := orUndefined v } }

def typesRun : FieldRun (List Int) where
  read i := some i.incidentTypeIds
  write i v := { i with incidentTypeIds := v }

def linksRun : FieldRun (List IncidentRef) where
  read i := some i.linkedIncidents
  write i v := { i with linkedIncidents := v }

def reportsRun : FieldRun (List Int) where
  read i := some i.reports
  write i v := { i with reports := v }

/-- The value is the whole list; nothing (`null`) stands for the list there is, transformed. -/
def peopleRun (transform : List CachedPerson → List CachedPerson) :
    FieldRun (Option (List CachedPerson)) where
  read i := some (some i.people)
  write i v := { i with people := v.getD (transform i.people) }

def strikeEntries (entryId : Int) (stricken : Bool) (entries : List JournalEntryMsg) :
    List JournalEntryMsg :=
  entries.map fun e => if e.id = entryId then { e with stricken := some stricken } else e

def isStricken (entryId : Int) (entries : List JournalEntryMsg) : Bool :=
  (entries.find? fun e => e.id == entryId).any fun e => e.stricken == some true

def strikeRun (entryId : Int) : FieldRun Bool where
  read i := some (isStricken entryId i.journalEntries)
  write i v := { i with journalEntries := strikeEntries entryId v i.journalEntries }

def isPerson (personId : Int) (p : CachedPerson) : Bool :=
  p.person.any fun ref => ref.personId == personId

def attachTransform (person : PersonRef) (involvement : Option String) (grantAccess : Bool)
    (people : List CachedPerson) : List CachedPerson :=
  (people.filter fun p => !isPerson person.personId p) ++
    [{ person := some person, involvement, grantedAccess := grantAccess, hasEventAccess := true }]

def updateTransform (personId : Int) (involvement : Option String) (grantAccess : Bool)
    (people : List CachedPerson) : List CachedPerson :=
  people.map fun p =>
    if isPerson personId p then { p with involvement, grantedAccess := grantAccess } else p

def detachTransform (personId : Int) (people : List CachedPerson) : List CachedPerson :=
  people.filter fun p => !isPerson personId p

/-- The entry `useAppendEntry` shows until the server's is there. -/
def pendingEntry (now : Int) (author text : String) (mentionedPersonIds : List Int) :
    JournalEntryMsg where
  id := -now
  created := now
  author := author
  systemEntry := false
  text := text
  stricken := none
  onBehalfOf := none
  attachment := none
  mentions := mentionedPersonIds.map fun personId => { personId }

/-- The editor's setters, and the compose box's append. -/
inductive IncidentEdit
  | setState (state : IncidentStateMsg)
  | setPriority (priority : IncidentPriorityMsg)
  | setPrivate (isPrivate : Bool)
  | setOutcome (outcomeId : Int)
  | setStarted (started : Int)
  | setSummary (summary : String)
  | setArea (slug : Option String)
  | setDescription (description : String)
  | setBooth (booth : String)
  | setTypes (ids : List Int)
  | setLinks (links : List (Int × Int))
  | setReports (numbers : List Int)
  | attachPerson (person : PersonRef) (involvement : Option String) (grantAccess : Bool)
  | updatePerson (personId : Int) (involvement : Option String) (grantAccess : Bool)
  | detachPerson (personId : Int)
  | setStricken (entryId : Int) (stricken : Bool)
  | append (now : Int) (author text : String) (mentionedPersonIds : List Int)
  deriving DecidableEq, Repr

namespace IncidentEdit

def refOf (link : Int × Int) : IncidentRef := { eventId := link.1, incidentNumber := link.2 }

/-- What a save does to the cached incident when it starts. -/
def apply : IncidentEdit → CachedIncident → CachedIncident
  | setState state, i => stateRun.write i (state, none)
  | setPriority priority, i => priorityRun.write i priority
  | setPrivate isPrivate, i => privateRun.write i isPrivate
  | setOutcome outcomeId, i => outcomeRun.write i outcomeId
  | setStarted started, i => startedRun.write i started
  | setSummary summary, i => summaryRun.write i summary
  | setArea slug, i => areaRun.write i (slug.getD "")
  | setDescription description, i => descriptionRun.write i description
  | setBooth booth, i => boothRun.write i booth
  | setTypes ids, i => typesRun.write i ids
  | setLinks links, i => linksRun.write i (links.map refOf)
  | setReports numbers, i => reportsRun.write i numbers
  | attachPerson person involvement grantAccess, i =>
    (peopleRun (attachTransform person involvement grantAccess)).write i none
  | updatePerson personId involvement grantAccess, i =>
    (peopleRun (updateTransform personId involvement grantAccess)).write i none
  | detachPerson personId, i => (peopleRun (detachTransform personId)).write i none
  | setStricken entryId stricken, i => (strikeRun entryId).write i stricken
  | append now author text mentionedPersonIds, i =>
    { i with journalEntries := i.journalEntries ++
        [pendingEntry now author text mentionedPersonIds] }

/-- What it does when it fails, from the incident as it found it. -/
def restore : IncidentEdit → CachedIncident → CachedIncident → CachedIncident
  | setState _, previous, i => stateRun.restore previous i
  | setPriority _, previous, i => priorityRun.restore previous i
  | setPrivate _, previous, i => privateRun.restore previous i
  | setOutcome _, previous, i => outcomeRun.restore previous i
  | setStarted _, previous, i => startedRun.restore previous i
  | setSummary _, previous, i => summaryRun.restore previous i
  | setArea _, previous, i => areaRun.restore previous i
  | setDescription _, previous, i => descriptionRun.restore previous i
  | setBooth _, previous, i => boothRun.restore previous i
  | setTypes _, previous, i => typesRun.restore previous i
  | setLinks _, previous, i => linksRun.restore previous i
  | setReports _, previous, i => reportsRun.restore previous i
  | attachPerson person involvement grantAccess, previous, i =>
    (peopleRun (attachTransform person involvement grantAccess)).restore previous i
  | updatePerson personId involvement grantAccess, previous, i =>
    (peopleRun (updateTransform personId involvement grantAccess)).restore previous i
  | detachPerson personId, previous, i => (peopleRun (detachTransform personId)).restore previous i
  | setStricken entryId _, previous, i => (strikeRun entryId).restore previous i
  | append _ _ _ _, previous, _ => previous

end IncidentEdit

/-! ## What the readers see -/

/-- The fields of the editor that are written as a whole. -/
inductive EditedField
  | state
  | priority
  | isPrivate
  | outcome
  | started
  | summary
  | area
  | description
  | booth
  | types
  | links
  | reports
  deriving DecidableEq, Repr

inductive FieldValue
  | state (state : IncidentStateMsg) (closed : Option Int)
  | priority (priority : IncidentPriorityMsg)
  | flag (b : Bool)
  | number (n : Int)
  | time (t : Option Int)
  | text (s : String)
  | numbers (l : List Int)
  | refs (l : List IncidentRef)
  deriving DecidableEq, Repr

def CachedIncident.read (i : CachedIncident) : EditedField → FieldValue
  | .state => .state i.state i.closed
  | .priority => .priority i.priority
  | .isPrivate => .flag (i.isPrivate == some true)
  | .outcome => .number (i.outcomeId.getD 0)
  | .started => .time i.started
  | .summary => .text (i.summary.getD "")
  | .area => .text ((i.location.bind (·.areaSlug)).getD "")
  | .description => .text ((i.location.bind (·.description)).getD "")
  | .booth => .text ((i.location.bind (·.booth)).getD "")
  | .types => .numbers i.incidentTypeIds
  | .links => .refs i.linkedIncidents
  | .reports => .numbers i.reports

/-- An entry as it is read: stricken or not. -/
def seenEntry (e : JournalEntryMsg) : JournalEntryMsg :=
  { e with stricken := some (e.stricken == some true) }

/-- The incident as the readers of its fields, its people and its journal see it. -/
@[ext] structure SeenIncident where
  field : EditedField → FieldValue
  people : List CachedPerson
  entries : List JournalEntryMsg

def CachedIncident.seen (i : CachedIncident) : SeenIncident where
  field := i.read
  people := i.people
  entries := i.journalEntries.map seenEntry

/-- What an edit is to the readers. -/
inductive SeenEdit
  | set (f : EditedField) (x : FieldValue)
  | people (personId : Int) (transform : List CachedPerson → List CachedPerson)
  | strike (entryId : Int) (stricken : Bool)
  | append (entry : JournalEntryMsg)

namespace SeenEdit

def act : SeenEdit → SeenIncident → SeenIncident
  | set f x, v => { v with field := Function.update v.field f x }
  | people _ transform, v => { v with people := transform v.people }
  | strike entryId stricken, v => { v with entries := strikeEntries entryId stricken v.entries }
  | append entry, v => { v with entries := v.entries ++ [entry] }

/-- What taking it back is, from the incident it found. -/
def undo : SeenEdit → SeenIncident → SeenIncident → SeenIncident
  | set f _, u, v => { v with field := Function.update v.field f (u.field f) }
  | people _ _, u, v => { v with people := u.people }
  | strike entryId _, u, v =>
    { v with entries := strikeEntries entryId (isStricken entryId u.entries) v.entries }
  | append _, u, _ => u

/-- At most one of them is under way: one field, one person, one entry. -/
def conflict : SeenEdit → SeenEdit → Bool
  | set f _, set g _ => f = g
  | people p _, people q _ => p = q
  | strike j _, strike k _ => j = k
  | _, _ => false

/-- Taking the first back puts back more than its own: everything for an appended entry, everybody
for a person. -/
def overwrites : SeenEdit → SeenEdit → Bool
  | append _, _ => true
  | people _ _, people _ _ => true
  | strike k _, append entry => entry.id = k
  | _, _ => false

end SeenEdit

namespace IncidentEdit

def effect : IncidentEdit → SeenEdit
  | setState state => .set .state (.state state none)
  | setPriority priority => .set .priority (.priority priority)
  | setPrivate isPrivate => .set .isPrivate (.flag isPrivate)
  | setOutcome outcomeId => .set .outcome (.number outcomeId)
  | setStarted started => .set .started (.time (some started))
  | setSummary summary => .set .summary (.text summary)
  | setArea slug => .set .area (.text (slug.getD ""))
  | setDescription description => .set .description (.text description)
  | setBooth booth => .set .booth (.text booth)
  | setTypes ids => .set .types (.numbers ids)
  | setLinks links => .set .links (.refs (links.map refOf))
  | setReports numbers => .set .reports (.numbers numbers)
  | attachPerson person involvement grantAccess =>
    .people person.personId (attachTransform person involvement grantAccess)
  | updatePerson personId involvement grantAccess =>
    .people personId (updateTransform personId involvement grantAccess)
  | detachPerson personId => .people personId (detachTransform personId)
  | setStricken entryId stricken => .strike entryId stricken
  | append now author text mentionedPersonIds =>
    .append (seenEntry (pendingEntry now author text mentionedPersonIds))

/-- The save can put back what it finds: there is a start time, and the entry is one. -/
def faithful : IncidentEdit → CachedIncident → Bool
  | setStarted _, i => i.started.isSome
  | setStricken entryId _, i => i.journalEntries.all fun e =>
      e.id != entryId || (e.stricken == some true) == isStricken entryId i.journalEntries
  | _, _ => true

end IncidentEdit

/-! ## What the setters do to what is seen -/

theorem getD_orUndefined (v : String) : (orUndefined v).getD "" = v := by
  rw [orUndefined]
  split
  · rename_i h
    exact h.symm
  · rfl

theorem getD_outcome (v : Int) : (if v = 0 then none else some v : Option Int).getD 0 = v := by
  split
  · rename_i h
    exact h.symm
  · rfl

theorem seenEntry_struck (e : JournalEntryMsg) (b : Bool) :
    seenEntry { e with stricken := some b } = { e with stricken := some b } := by
  cases b <;> rfl

theorem map_seenEntry_strike (entryId : Int) (b : Bool) (entries : List JournalEntryMsg) :
    (strikeEntries entryId b entries).map seenEntry =
      strikeEntries entryId b (entries.map seenEntry) := by
  rw [strikeEntries, strikeEntries, List.map_map, List.map_map]
  refine List.map_congr_left fun e _ => ?_
  simp only [Function.comp_apply]
  change seenEntry (if e.id = entryId then _ else e) = if e.id = entryId then _ else seenEntry e
  split
  · exact seenEntry_struck e b
  · rfl

theorem isStricken_seenEntry (entryId : Int) (entries : List JournalEntryMsg) :
    isStricken entryId (entries.map seenEntry) = isStricken entryId entries := by
  rw [isStricken, isStricken, List.find?_map, Option.any_map]
  refine congrArg₂ Option.any (funext fun e => ?_) rfl
  cases h : e.stricken with
  | none => simp [seenEntry, h]
  | some b => cases b <;> simp [seenEntry, h]

/-- What is read of a field `f` and written to it, as the readers see it. -/
structure FieldRun.Edits {T : Type} (r : FieldRun T) (f : EditedField) (x : T → FieldValue) :
    Prop where
  self : ∀ i v, (r.write i v).read f = x v
  other : ∀ i v g, g ≠ f → (r.write i v).read g = i.read g
  people : ∀ i v, (r.write i v).people = i.people
  entries : ∀ i v, (r.write i v).journalEntries = i.journalEntries
  before : ∀ i v, r.read i = some v → x v = i.read f

namespace FieldRun.Edits

variable {T : Type} {r : FieldRun T} {f : EditedField} {x : T → FieldValue}

/-- A field that is written is read as what was written, and the rest as it was. -/
theorem seen_write (h : r.Edits f x) (i : CachedIncident) (v : T) :
    (r.write i v).seen = (SeenEdit.set f (x v)).act i.seen := by
  refine SeenIncident.ext (funext fun g => ?_) (h.people i v)
    (congrArg (List.map seenEntry) (h.entries i v))
  change (r.write i v).read g = Function.update i.read f (x v) g
  by_cases hg : g = f
  · rw [hg, h.self, Function.update_self]
  · rw [h.other i v g hg, Function.update_of_ne hg]

theorem seen_restore (h : r.Edits f x) {previous : CachedIncident}
    (hread : (r.read previous).isSome = true) (i : CachedIncident) (y : FieldValue) :
    (r.restore previous i).seen = (SeenEdit.set f y).undo previous.seen i.seen := by
  obtain ⟨v, hv⟩ := Option.isSome_iff_exists.mp hread
  rw [FieldRun.restore, hv]
  change (r.write i v).seen = (SeenEdit.set f (previous.read f)).act i.seen
  rw [h.seen_write, h.before previous v hv]

end FieldRun.Edits

theorem edits_state : stateRun.Edits .state fun v => .state v.1 v.2 where
  self _ _ := rfl
  other _ _ g hg := by cases g <;> first | rfl | exact absurd rfl hg
  people _ _ := rfl
  entries _ _ := rfl
  before _ _ h := by cases h; rfl

theorem edits_priority : priorityRun.Edits .priority .priority where
  self _ _ := rfl
  other _ _ g hg := by cases g <;> first | rfl | exact absurd rfl hg
  people _ _ := rfl
  entries _ _ := rfl
  before _ _ h := by cases h; rfl

theorem edits_private : privateRun.Edits .isPrivate .flag where
  self _ v := by cases v <;> rfl
  other _ _ g hg := by cases g <;> first | rfl | exact absurd rfl hg
  people _ _ := rfl
  entries _ _ := rfl
  before _ _ h := by cases h; rfl

theorem edits_outcome : outcomeRun.Edits .outcome .number where
  self _ v := congrArg FieldValue.number (getD_outcome v)
  other _ _ g hg := by cases g <;> first | rfl | exact absurd rfl hg
  people _ _ := rfl
  entries _ _ := rfl
  before _ _ h := by cases h; rfl

theorem edits_started : startedRun.Edits .started fun v => .time (some v) where
  self _ _ := rfl
  other _ _ g hg := by cases g <;> first | rfl | exact absurd rfl hg
  people _ _ := rfl
  entries _ _ := rfl
  before _ _ h := congrArg FieldValue.time h.symm

theorem edits_summary : summaryRun.Edits .summary .text where
  self _ v := congrArg FieldValue.text (getD_orUndefined v)
  other _ _ g hg := by cases g <;> first | rfl | exact absurd rfl hg
  people _ _ := rfl
  entries _ _ := rfl
  before _ _ h := by cases h; rfl

/-- Writing one piece of the location leaves the two others as they are read, also where there was
none. -/
theorem edits_area : areaRun.Edits .area .text where
  self _ v := congrArg FieldValue.text (getD_orUndefined v)
  other i _ g hg := by
    obtain ⟨location⟩ := i
    cases g <;> first | rfl | exact absurd rfl hg | (cases ‹Option LocationJSON› <;> rfl)
  people _ _ := rfl
  entries _ _ := rfl
  before _ _ h := by cases h; rfl

theorem edits_description : descriptionRun.Edits .description .text where
  self _ v := congrArg FieldValue.text (getD_orUndefined v)
  other i _ g hg := by
    obtain ⟨location⟩ := i
    cases g <;> first | rfl | exact absurd rfl hg | (cases ‹Option LocationJSON› <;> rfl)
  people _ _ := rfl
  entries _ _ := rfl
  before _ _ h := by cases h; rfl

theorem edits_booth : boothRun.Edits .booth .text where
  self _ v := congrArg FieldValue.text (getD_orUndefined v)
  other i _ g hg := by
    obtain ⟨location⟩ := i
    cases g <;> first | rfl | exact absurd rfl hg | (cases ‹Option LocationJSON› <;> rfl)
  people _ _ := rfl
  entries _ _ := rfl
  before _ _ h := by cases h; rfl

theorem edits_types : typesRun.Edits .types .numbers where
  self _ _ := rfl
  other _ _ g hg := by cases g <;> first | rfl | exact absurd rfl hg
  people _ _ := rfl
  entries _ _ := rfl
  before _ _ h := by cases h; rfl

theorem edits_links : linksRun.Edits .links .refs where
  self _ _ := rfl
  other _ _ g hg := by cases g <;> first | rfl | exact absurd rfl hg
  people _ _ := rfl
  entries _ _ := rfl
  before _ _ h := by cases h; rfl

theorem edits_reports : reportsRun.Edits .reports .numbers where
  self _ _ := rfl
  other _ _ g hg := by cases g <;> first | rfl | exact absurd rfl hg
  people _ _ := rfl
  entries _ _ := rfl
  before _ _ h := by cases h; rfl

theorem seen_strike (entryId : Int) (b : Bool) (i : CachedIncident) :
    ((strikeRun entryId).write i b).seen = (SeenEdit.strike entryId b).act i.seen :=
  SeenIncident.ext rfl rfl (map_seenEntry_strike entryId b i.journalEntries)

namespace IncidentEdit

theorem seen_apply (e : IncidentEdit) (i : CachedIncident) :
    (e.apply i).seen = e.effect.act i.seen := by
  cases e with
  | setState => exact edits_state.seen_write i _
  | setPriority => exact edits_priority.seen_write i _
  | setPrivate => exact edits_private.seen_write i _
  | setOutcome => exact edits_outcome.seen_write i _
  | setStarted => exact edits_started.seen_write i _
  | setSummary => exact edits_summary.seen_write i _
  | setArea => exact edits_area.seen_write i _
  | setDescription => exact edits_description.seen_write i _
  | setBooth => exact edits_booth.seen_write i _
  | setTypes => exact edits_types.seen_write i _
  | setLinks => exact edits_links.seen_write i _
  | setReports => exact edits_reports.seen_write i _
  | attachPerson => rfl
  | updatePerson => rfl
  | detachPerson => rfl
  | setStricken entryId stricken => exact seen_strike entryId stricken i
  | append => exact SeenIncident.ext rfl rfl List.map_append

theorem seen_restore (e : IncidentEdit) (previous i : CachedIncident)
    (hfaith : e.faithful previous = true) :
    (e.restore previous i).seen = e.effect.undo previous.seen i.seen := by
  cases e with
  | setState => exact edits_state.seen_restore rfl i _
  | setPriority => exact edits_priority.seen_restore rfl i _
  | setPrivate => exact edits_private.seen_restore rfl i _
  | setOutcome => exact edits_outcome.seen_restore rfl i _
  | setStarted => exact edits_started.seen_restore hfaith i _
  | setSummary => exact edits_summary.seen_restore rfl i _
  | setArea => exact edits_area.seen_restore rfl i _
  | setDescription => exact edits_description.seen_restore rfl i _
  | setBooth => exact edits_booth.seen_restore rfl i _
  | setTypes => exact edits_types.seen_restore rfl i _
  | setLinks => exact edits_links.seen_restore rfl i _
  | setReports => exact edits_reports.seen_restore rfl i _
  | attachPerson => rfl
  | updatePerson => rfl
  | detachPerson => rfl
  | setStricken entryId stricken =>
      refine (seen_strike entryId _ i).trans ?_
      change _ = (SeenEdit.strike entryId (isStricken entryId previous.seen.entries)).act i.seen
      rw [show previous.seen.entries = previous.journalEntries.map seenEntry from rfl,
        isStricken_seenEntry]
  | append => rfl

end IncidentEdit

/-! ## What is taken back -/

theorem strikeEntries_append (entryId : Int) (b : Bool) (l l' : List JournalEntryMsg) :
    strikeEntries entryId b (l ++ l') = strikeEntries entryId b l ++ strikeEntries entryId b l' :=
  List.map_append

/-- What an entry's flag was before it is written does not matter. -/
theorem strikeEntries_twice (entryId : Int) (b b' : Bool) (l : List JournalEntryMsg) :
    strikeEntries entryId b (strikeEntries entryId b' l) = strikeEntries entryId b l := by
  rw [strikeEntries, strikeEntries, strikeEntries, List.map_map]
  refine List.map_congr_left fun e _ => ?_
  rw [Function.comp_apply]
  by_cases he : e.id = entryId
  · rw [if_pos he, if_pos he, if_pos (show ({ e with stricken := some b' } : JournalEntryMsg).id =
      entryId from he)]
  · rw [if_neg he, if_neg he]

theorem strikeEntries_comm {entryId entryId' : Int} (hne : entryId ≠ entryId') (b b' : Bool)
    (l : List JournalEntryMsg) :
    strikeEntries entryId b (strikeEntries entryId' b' l) =
      strikeEntries entryId' b' (strikeEntries entryId b l) := by
  rw [strikeEntries, strikeEntries, strikeEntries, strikeEntries, List.map_map, List.map_map]
  refine List.map_congr_left fun e _ => ?_
  rw [Function.comp_apply, Function.comp_apply]
  by_cases he : e.id = entryId
  · have he' : e.id ≠ entryId' := fun h => hne (he.symm.trans h)
    rw [if_neg he', if_pos he, if_neg (show ({ e with stricken := some b } : JournalEntryMsg).id ≠
      entryId' from he')]
  · rw [if_neg he]
    by_cases he' : e.id = entryId'
    · rw [if_pos he', if_neg (show ({ e with stricken := some b' } : JournalEntryMsg).id ≠
        entryId from he)]
    · rw [if_neg he', if_neg he]

/-- Entries that are alike are what they were once their flag is written back. -/
theorem strikeEntries_isStricken {entryId : Int} {l : List JournalEntryMsg}
    (halike : ∀ e ∈ l, e.id = entryId → e.stricken = some (isStricken entryId l)) :
    strikeEntries entryId (isStricken entryId l) l = l := by
  refine (List.map_congr_left fun e he => ?_).trans (List.map_id l)
  split
  · rename_i hid
    rw [← halike e he hid]
    rfl
  · rfl


namespace SeenEdit

theorem undo_act (e : SeenEdit) (u v : SeenIncident) : e.undo u (e.act v) = e.undo u v := by
  cases e with
  | set f x =>
      refine SeenIncident.ext ?_ rfl rfl
      change Function.update (Function.update v.field f x) f (u.field f) =
        Function.update v.field f (u.field f)
      exact Function.update_idem x (u.field f) v.field
  | people personId transform => rfl
  | strike entryId stricken =>
      exact SeenIncident.ext rfl rfl (strikeEntries_twice entryId _ stricken v.entries)
  | append entry => rfl

theorem undo_act_comm (e t : SeenEdit) (u v : SeenIncident) (hconflict : e.conflict t = false)
    (hoverwrites : e.overwrites t = false) : e.undo u (t.act v) = t.act (e.undo u v) := by
  cases e with
  | set f x =>
      cases t with
      | set g y =>
          refine SeenIncident.ext ?_ rfl rfl
          change Function.update (Function.update v.field g y) f (u.field f) =
            Function.update (Function.update v.field f (u.field f)) g y
          exact Function.update_comm (Ne.symm (of_decide_eq_false hconflict)) y (u.field f) v.field
      | people | strike | append => rfl
  | people personId transform =>
      cases t with
      | people => cases hoverwrites
      | set | strike | append => rfl
  | strike entryId stricken =>
      cases t with
      | strike entryId' stricken' =>
          exact SeenIncident.ext rfl rfl
            (strikeEntries_comm (of_decide_eq_false hconflict) _ stricken' v.entries)
      | append entry =>
          refine SeenIncident.ext rfl rfl ((strikeEntries_append _ _ _ _).trans ?_)
          change _ ++ [if entry.id = entryId then _ else entry] = _ ++ [entry]
          rw [if_neg (of_decide_eq_false hoverwrites)]
          rfl
      | set | people => rfl
  | append entry => cases hoverwrites

theorem undo_comm (e t : SeenEdit) (u u' v : SeenIncident) (hconflict : e.conflict t = false)
    (hoverwrites : e.overwrites t = false) (hoverwritten : t.overwrites e = false) :
    e.undo u (t.undo u' v) = t.undo u' (e.undo u v) := by
  -- What takes an edit back is an edit of the same kind.
  have hback : ∀ t' : SeenEdit, e.conflict t' = e.conflict t → e.overwrites t' = e.overwrites t →
      e.undo u (t'.act v) = t'.act (e.undo u v) := fun t' hc ho =>
    undo_act_comm e t' u v (hc.trans hconflict) (ho.trans hoverwrites)
  cases t with
  | set g y => exact hback (.set g (u'.field g)) (by cases e <;> rfl) (by cases e <;> rfl)
  | people personId transform =>
      exact hback (.people personId fun _ => u'.people) (by cases e <;> rfl) (by cases e <;> rfl)
  | strike entryId stricken =>
      exact hback (.strike entryId (isStricken entryId u'.entries)) (by cases e <;> rfl)
        (by cases e <;> rfl)
  | append entry => cases hoverwritten

end SeenEdit

namespace IncidentEdit

/-- What is put back right away is what was there. -/
theorem undo_self (e : IncidentEdit) (i : CachedIncident) (hfaith : e.faithful i = true) :
    e.effect.undo i.seen i.seen = i.seen := by
  cases e with
  | setState | setPriority | setPrivate | setOutcome | setStarted | setSummary | setArea
  | setDescription | setBooth | setTypes | setLinks | setReports =>
      exact SeenIncident.ext (Function.update_eq_self _ _) rfl rfl
  | attachPerson | updatePerson | detachPerson | append => rfl
  | setStricken entryId stricken =>
      refine SeenIncident.ext rfl rfl (strikeEntries_isStricken fun entry hentry hid => ?_)
      obtain ⟨entry', hmem, rfl⟩ := List.mem_map.mp hentry
      have halike := List.all_eq_true.mp hfaith entry' hmem
      have hid' : entry'.id = entryId := hid
      rw [hid', bne_self_eq_false, Bool.false_or, beq_iff_eq] at halike
      rw [show i.seen.entries = i.journalEntries.map seenEntry from rfl, isStricken_seenEntry,
        ← halike]
      rfl

end IncidentEdit

def incidentEdits : Edits CachedIncident SeenIncident IncidentEdit where
  see := CachedIncident.seen
  apply := IncidentEdit.apply
  restore := IncidentEdit.restore
  act e := e.effect.act
  undo e := e.effect.undo
  faithful := IncidentEdit.faithful
  conflict e t := e.effect.conflict t.effect
  overwrites e t := e.effect.overwrites t.effect
  see_apply := IncidentEdit.seen_apply
  see_restore := IncidentEdit.seen_restore
  undo_act e := e.effect.undo_act
  undo_self := IncidentEdit.undo_self
  undo_act_comm e t := e.effect.undo_act_comm t.effect
  undo_comm e t := e.effect.undo_comm t.effect

/-! ## Any number of saves under way -/

/-- Nothing is left of the saves but the edits of those that were accepted. -/
def RolledBackAlone (i : CachedIncident) (sys : Editor CachedIncident IncidentEdit) : Prop :=
  sys.cache.seen = ((Edits.accepted sys).foldl (fun i e => e.apply i) i).seen

/-- Saves may overlap in any order. Where each that is refused can be taken back alone, the incident
is in the end what the accepted ones make of it: no appended entry may be refused after another
save has changed the incident or been taken back, no person's row after another person's, and no
start time where there was none. -/
theorem saves_rollBackAlone (i : CachedIncident) {as : List (Action IncidentEdit)}
    {sys : Editor CachedIncident IncidentEdit}
    (hrun : RunMeeting incidentEdits.step incidentEdits.Clean { cache := i } as sys)
    (hsettled : Edits.Settled sys) : RolledBackAlone i sys :=
  Edits.seen_of_run incidentEdits i hrun hsettled

/-- A started incident with two people and one entry. -/
def campIncident : CachedIncident where
  started := some 5
  summary := some "Lost child"
  people := [{ person := some { personId := 1 } }, { person := some { personId := 2 } }]
  journalEntries :=
    [{ id := 7, created := 6, author := "bramble", systemEntry := false, text := "At the gate",
       stricken := none, onBehalfOf := none, attachment := none, mentions := [] }]

/-- Five saves at once, two of them refused; then an entry that is refused, and one that is not. -/
def busyEditor : List (Action IncidentEdit) :=
  [.start (.setSummary "Found child"), .start (.setPriority .high), .start (.detachPerson 1),
   .start (.setStricken 7 true), .start (.setBooth "3"), .settle 2 false, .settle 0 false,
   .settle 4 true, .settle 1 true, .settle 3 false, .start (.append 100 "bramble" "On the way" []),
   .settle 5 false, .start (.append 200 "bramble" "On the way" []), .settle 6 true]

theorem saves_rollBackAlone_busy :
    ∃ sys, RunMeeting incidentEdits.step incidentEdits.Clean { cache := campIncident } busyEditor
        sys ∧
      Edits.accepted sys =
        [.setPriority .high, .setBooth "3", .append 200 "bramble" "On the way" []] ∧
      RolledBackAlone campIncident sys := by
  have hrun : RunMeeting incidentEdits.step incidentEdits.Clean { cache := campIncident }
      busyEditor _ := runMeeting_of_exec rfl
  exact ⟨_, hrun, by decide, saves_rollBackAlone campIncident hrun (by decide)⟩

/-- An entry, a person and a start time that are refused: each takes an accepted save with it, or
stays. -/
theorem refusedSaves_notAlone :
    (∃ sys, Run incidentEdits.step { cache := campIncident }
        [.start (.append 100 "bramble" "On the way" []), .start (.setPriority .high),
          .settle 1 true, .settle 0 false] sys ∧
      Edits.Settled sys ∧ ¬ RolledBackAlone campIncident sys) ∧
    (∃ sys, Run incidentEdits.step { cache := campIncident }
        [.start (.updatePerson 1 (some "parent") false), .start (.updatePerson 2 none true),
          .settle 1 true, .settle 0 false] sys ∧
      Edits.Settled sys ∧ ¬ RolledBackAlone campIncident sys) ∧
    ∃ sys, Run incidentEdits.step { cache := {} }
        [.start (.setStarted 5), .settle 0 false] sys ∧
      Edits.Settled sys ∧ ¬ RolledBackAlone {} sys := by
  refine ⟨⟨_, run_of_exec rfl, by decide, fun h => ?_⟩, ⟨_, run_of_exec rfl, by decide, fun h => ?_⟩,
    ⟨_, run_of_exec rfl, by decide, fun h => ?_⟩⟩
  · exact absurd (congrArg (fun v => v.field .priority) h) (by decide)
  · exact absurd (congrArg SeenIncident.people h) (by decide)
  · exact absurd (congrArg (fun v => v.field .started) h) (by decide)

end OcfIms
