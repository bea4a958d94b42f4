import OcfIms.LibComparison
import OcfIms.TableViews

/-!
# The rows of a table

Both tables filter, search and sort on the client, over all rows of the event. The search box holds a
number, a regular expression between slashes, or a text; the order is by one column, and ties go by
the number. What a table shows depends on which rows there are and not on how they arrived.
-/

namespace OcfIms

open ComparisonLib

/-- What the tables use of the runtime: how texts compare, and lower case and regular expressions. -/
structure TextRuntime where
  numbers : NumberRuntime
  localeCompare : JSString → JSString → Int
  /-- Texts are in a total preorder. -/
  comparison_localeCompare : Comparison localeCompare
  toLowerCase : JSString → JSString
  /-- `new RegExp(source, "i")`, if the source is one, and its `test`. -/
  regExp : JSString → Option (JSString → Bool)

variable (rt : TextRuntime)

/-! ## Searching -/

/-- `/^\d+$/`. -/
def isBare (s : JSString) : Bool := s ≠ [] && s.all isDigitUnit

/-- `String`, of a whole number or infinity. -/
def wholeText : Option Nat → JSString
  | some n => rt.numbers.print n
  | none => utf16 "Infinity"

/-- A bare integer, as the number that is nearest to it. -/
def bareNumber (q : JSString) : Option (Option Nat) :=
  if isBare (trimText q) then
    match parseIntText q with
    | some (.ofNat n) => some (rt.numbers.nearest n)
    | _ => none
  else none

def isLineEnd (u : UInt16) : Bool := u ∈ [10, 13, 0x2028, 0x2029]

/-- The group of `/^\/(.+)\/$/`. -/
def regexSource : JSString → Option JSString
  | 47 :: rest =>
    if rest.getLast? = some 47 ∧ rest.dropLast ≠ [] ∧ rest.dropLast.any isLineEnd = false then
      some rest.dropLast
    else none
  | _ => none

/-- `matcher`. -/
def matcher (q : JSString) : JSString → Bool :=
  let trimmed := trimText q
  if trimmed = [] then fun _ => true
  else match regexSource trimmed with
    | some source =>
      match rt.regExp source with
      | some test => test
      | none => fun _ => false
    | none => fun h => includes (rt.toLowerCase h) (rt.toLowerCase trimmed)

/-- The last step of both tables' filters. -/
def searches (q : JSString) (number : Int) (haystack : JSString) : Bool :=
  match bareNumber rt q with
  | some n => (wholeText rt n).isPrefixOf (numberText number)
  | none => matcher rt q haystack

/-- The search rule: a bare integer asks for the numbers that start with it, a source between slashes
for what the expression finds, and any other text for itself, in any case. -/
structure FollowsSearch (q : JSString) (number : Int) (haystack : JSString) : Prop where
  bare : isBare (trimText q) = true →
    wholeText rt (rt.numbers.nearest (numberOfDigits (trimText q))) <+: numberText number
  regex : ∀ source, isBare (trimText q) = false → regexSource (trimText q) = some source →
    ∃ test, rt.regExp source = some test ∧ test haystack = true
  text : isBare (trimText q) = false → regexSource (trimText q) = none → trimText q ≠ [] →
    rt.toLowerCase (trimText q) <:+: rt.toLowerCase haystack

section Searching

variable {rt}

/-- What is trimmed is white space on both sides. -/
theorem trimText_split (s : JSString) : ∃ before after, s = before ++ trimText s ++ after ∧
    before.all isSpaceUnit = true ∧ after.all isSpaceUnit = true := by
  refine ⟨s.takeWhile isSpaceUnit,
    ((s.dropWhile isSpaceUnit).reverse.takeWhile isSpaceUnit).reverse, ?_, List.all_takeWhile, ?_⟩
  · rw [trimText, List.append_assoc, ← List.reverse_append, List.takeWhile_append_dropWhile,
      List.reverse_reverse, List.takeWhile_append_dropWhile]
  · rw [List.all_reverse]
    exact List.all_takeWhile

/-- `parseInt` reads a bare integer with white space around it. -/
theorem parseIntText_of_isBare {q : JSString} (h : isBare (trimText q) = true) :
    parseIntText q = some (numberOfDigits (trimText q) : Int) := by
  obtain ⟨before, after, hq, hbefore, hafter⟩ := trimText_split q
  rw [isBare, Bool.and_eq_true, decide_eq_true_eq, List.all_eq_true] at h
  have hrest : after.takeWhile isDigitUnit = [] := by
    cases after with
    | nil => rfl
    | cons u after =>
        have hspace : isSpaceUnit u = true := List.all_eq_true.mp hafter u List.mem_cons_self
        refine List.takeWhile_cons_of_neg fun hdigit => ?_
        rw [not_isSpaceUnit_of_isDigitUnit hdigit] at hspace
        cases hspace
  have hrun := parseIntText_of_run (List.all_eq_true.mp hbefore) h.1 h.2 hrest
  rwa [← hq] at hrun

/-- **The search rule.** -/
theorem searches_iff {q haystack : JSString} {number : Int} :
    searches rt q number haystack = true ↔ FollowsSearch rt q number haystack := by
  rw [searches]
  cases hbare : isBare (trimText q) with
  | true =>
      have hnumber : bareNumber rt q =
          some (rt.numbers.nearest (numberOfDigits (trimText q))) := by
        rw [bareNumber, if_pos hbare, parseIntText_of_isBare hbare]
      rw [hnumber]
      simp only [List.isPrefixOf_iff_prefix]
      exact ⟨fun h => ⟨fun _ => h, fun _ hfalse => absurd (hbare.symm.trans hfalse) (by decide),
        fun hfalse => absurd (hbare.symm.trans hfalse) (by decide)⟩, fun h => h.bare hbare⟩
  | false =>
      have hnumber : bareNumber rt q = none := by
        rw [bareNumber, hbare]
        rfl
      rw [hnumber]
      have hmatch : matcher rt q haystack = true ↔
          (∀ source, regexSource (trimText q) = some source →
            ∃ test, rt.regExp source = some test ∧ test haystack = true) ∧
          (regexSource (trimText q) = none → trimText q ≠ [] →
            rt.toLowerCase (trimText q) <:+: rt.toLowerCase haystack) := by
        rw [matcher]
        by_cases hnil : trimText q = []
        · simp [hnil, regexSource]
        · rw [if_neg hnil]
          cases hsource : regexSource (trimText q) with
          | none => simp [hnil, includes_iff]
          | some source => cases htest : rt.regExp source <;> simp [htest]
      rw [hmatch]
      exact ⟨fun h => ⟨fun htrue => absurd (hbare.symm.trans htrue) (by decide),
        fun source _ => h.1 source, fun _ => h.2⟩,
        fun h => ⟨fun source => h.regex source hbare, h.text hbare⟩⟩

end Searching

/-! ## Sorting -/

section Sorting

variable {R : Type} (number : R → Int) (dir : SortDir) (cmp : R → R → Int)

/-- The rows by a column, ties by the number. -/
def sortTable (rows : List R) : List R :=
  let d : Int := if dir = .asc then 1 else -1
  sortBy (orElse (fun a b => d * cmp a b) fun a b => (number b - number a) * d) rows

/-- The order of the rows: by the column in its direction, and of those that tie there the larger
number first, or last where the direction is down. -/
def Precedes (a b : R) : Prop :=
  match dir with
  | .asc => cmp a b < 0 ∨ cmp a b = 0 ∧ number b < number a
  | .desc => 0 < cmp a b ∨ cmp a b = 0 ∧ number a < number b

variable {number dir cmp} {rows rows' : List R}

theorem comparison_table (h : Comparison cmp) :
    Comparison (orElse (fun a b => (if dir = .asc then 1 else -1) * cmp a b)
      fun a b => (number b - number a) * if dir = .asc then 1 else -1) := by
  cases dir with
  | asc =>
      have hnumber : Comparison fun a b => (number b - number a) * 1 := by
        refine ⟨fun a b => ?_, fun a b c hab hbc => ?_⟩ <;> omega
      refine Comparison.orElse ?_ hnumber
      simpa using h
  | desc =>
      have hnumber : Comparison fun a b => (number b - number a) * -1 := by
        refine ⟨fun a b => ?_, fun a b c hab hbc => ?_⟩ <;> omega
      refine Comparison.orElse ?_ hnumber
      simpa using h.neg

/-- Rows of different numbers precede each other where the comparison says so. -/
theorem precedes_of_orElse {a b : R} (hne : number a ≠ number b)
    (h : orElse (fun a b => (if dir = .asc then 1 else -1) * cmp a b)
      (fun a b => (number b - number a) * if dir = .asc then 1 else -1) a b ≤ 0) :
    Precedes number dir cmp a b := by
  cases dir <;> simp only [Precedes, orElse, reduceCtorEq, if_true, if_false] at h ⊢ <;>
    split at h <;> omega

/-- **The sort of a table.** It keeps the rows, and puts them in their order. -/
theorem sortTable_spec (h : Comparison cmp) (hnumbers : (rows.map number).Nodup) :
    (sortTable number dir cmp rows).Perm rows ∧
      (sortTable number dir cmp rows).Pairwise (Precedes number dir cmp) := by
  have hperm : (sortTable number dir cmp rows).Perm rows := sortBy_perm _ _
  have hdistinct : (sortTable number dir cmp rows).Pairwise fun a b => number a ≠ number b :=
    List.pairwise_map.mp ((hperm.map number).nodup_iff.mpr hnumbers)
  refine ⟨hperm, ?_⟩
  exact (hdistinct.and (pairwise_sortBy (comparison_table h) rows)).imp
    fun hab => precedes_of_orElse hab.1 hab.2

/-- **It does not matter how the rows arrived.** -/
theorem sortTable_eq_of_perm (h : Comparison cmp) (hnumbers : (rows.map number).Nodup)
    (hperm : rows.Perm rows') : sortTable number dir cmp rows = sortTable number dir cmp rows' := by
  refine sortBy_eq_of_perm (comparison_table h) hperm fun a ha b hb hzero => ?_
  refine List.inj_on_of_nodup_map hnumbers ha hb ?_
  simp only [orElse] at hzero
  cases dir <;> simp only [reduceCtorEq, if_true, if_false] at hzero <;> split at hzero <;> omega

end Sorting
/-! ## What the tables show -/

structure TablePerson where
  personId : Int
  handle : Option JSString
  name : Option JSString
  deriving DecidableEq, Repr

structure TableEntry where
  text : JSString
  mentions : List TablePerson
  deriving DecidableEq, Repr

/-- `handle`, else `name`, else the id. -/
def personLabel : Option TablePerson → JSString
  | none => utf16 "Unknown"
  | some ref => orText (ref.handle.getD [])
      (orText (ref.name.getD []) (utf16 "Person #" ++ numberText ref.personId))

/-- `join(separator)`. -/
def joinText (separator : JSString) (items : List JSString) : JSString := separator.intercalate items

/-- `getTime` of a valid timestamp, or 0 where there is none. -/
def stampMs (stamp : Option Int) : Int := stamp.getD 0

/-- The table shows the rows that satisfy its filters, each once, in its order. -/
structure ShowsTable {R : Type} (number : R → Int) (dir : SortDir) (cmp : R → R → Int)
    (rows : List R) (Passes : R → Prop) (shown : List R) : Prop where
  mem : ∀ row, row ∈ shown ↔ row ∈ rows ∧ Passes row
  once : shown.Nodup
  ordered : shown.Pairwise (Precedes number dir cmp)

/-- A filter and a sort show a table. -/
theorem showsTable_sortTable {R : Type} {number : R → Int} {dir : SortDir} {cmp : R → R → Int}
    {rows : List R} {passes : R → Bool} {Passes : R → Prop}
    (hpasses : ∀ row, passes row = true ↔ Passes row) (h : Comparison cmp)
    (hnumbers : (rows.map number).Nodup) :
    ShowsTable number dir cmp rows Passes (sortTable number dir cmp (rows.filter passes)) := by
  have hkept : ((rows.filter passes).map number).Nodup :=
    hnumbers.sublist (List.filter_sublist.map number)
  obtain ⟨hperm, hordered⟩ : (sortTable number dir cmp (rows.filter passes)).Perm _ ∧ _ :=
    sortTable_spec h hkept
  refine ⟨fun row => ?_, ?_, hordered⟩
  · rw [hperm.mem_iff, List.mem_filter, hpasses]
  · exact hperm.nodup_iff.mpr (List.Nodup.of_map number hkept)

/-- A filter that stops at the first condition that holds. -/
theorem ite_false_iff {c : Prop} [Decidable c] {b : Bool} :
    (if c then false else b) = true ↔ ¬ c ∧ b = true := by
  split <;> simp [*]

/-! ### Incidents -/

namespace DispatchTable

/-- `IncidentState.OPEN` and `CLOSED`, and the priorities, as numbers of their enums. -/
def STATE_OPEN : Int := 1

def STATE_CLOSED : Int := 2

def PRIORITY_LOW : Int := 1

def PRIORITY_HIGH : Int := 5

def mentionsMe (entries : List TableEntry) (me : Int) : Bool :=
  entries.any fun entry => entry.mentions.any (·.personId == me)

structure InvolvedPerson where
  person : Option TablePerson
  reportRequested : Option Int
  reportNumber : Option Int
  deriving DecidableEq, Repr

structure Incident where
  number : Int
  state : Int
  priority : Int
  incidentTypeIds : List Int
  /-- `location?.areaSlug`. -/
  areaSlug : Option JSString
  people : List InvolvedPerson
  summary : Option JSString
  started : Option Int
  lastModified : Option Int
  createdBy : Option TablePerson
  journalEntries : List TableEntry
  deriving DecidableEq, Repr

/-- An incident as it is listed, with what else is listed of it. -/
structure IncidentView (Rest : Type) where
  incident : Option Incident
  rest : Rest

/-- A view whose incident is set. -/
structure Row (Rest : Type) where
  incident : Incident
  rest : Rest

/-- The names of the incident types and areas. -/
structure Lookups where
  types : List (Int × Option JSString)
  areas : List (JSString × Option JSString)

variable {Rest : Type}

def toRows (views : List (IncidentView Rest)) : List (Row Rest) :=
  views.filterMap fun view => view.incident.map fun incident => ⟨incident, view.rest⟩

def priorityKey (priority : Int) : PriorityKey :=
  if priority = PRIORITY_HIGH then .high else if priority = PRIORITY_LOW then .low else .normal

def typeName (types : List (Int × Option JSString)) (id : Int) : JSString :=
  orText (((types.find? (·.1 == id)).bind (·.2)).getD []) (utf16 "Type #" ++ numberText id)

def areaName (areas : List (JSString × Option JSString)) (slug : JSString) : Option JSString :=
  if slug = [] then none
  else some (orText (((areas.find? (·.1 == slug)).bind (·.2)).getD []) slug)

def typesText (row : Row Rest) (lookups : Lookups) : JSString :=
  joinText (utf16 ", ") (row.incident.incidentTypeIds.map (typeName lookups.types))

def areaText (row : Row Rest) (lookups : Lookups) : JSString :=
  (areaName lookups.areas (row.incident.areaSlug.getD [])).getD []

def peopleText (row : Row Rest) : JSString :=
  joinText (utf16 ", ") (row.incident.people.map fun p => personLabel p.person)

def owesReport (incident : Incident) (me : Int) : Bool :=
  if me = 0 then false
  else match incident.people.find? fun p => p.person.any (·.personId == me) with
    | none => false
    | some mine => mine.reportRequested.isSome && mine.reportNumber.isNone

inductive MineReason
  | created
  | owed
  | attached
  | mentioned
  deriving DecidableEq, Repr

def whyMineIncident (incident : Incident) (me : Int) : Option MineReason :=
  if me = 0 then none
  else if incident.createdBy.any (·.personId == me) then some .created
  else if owesReport incident me then some .owed
  else if incident.people.any fun p => p.person.any (·.personId == me) then some .attached
  else if mentionsMe incident.journalEntries me then some .mentioned
  else none

/-- What the search looks through. -/
def haystack (row : Row Rest) (lookups : Lookups) : JSString :=
  joinText (utf16 " ") [35 :: numberText row.incident.number, row.incident.summary.getD [],
    typesText row lookups, areaText row lookups, peopleText row]

/-- The filter of `applyQuery`. -/
def keeps (query : Query) (lookups : Lookups) (me now : Int) (row : Row Rest) : Bool :=
  let incident := row.incident
  if query.state = .open ∧ incident.state ≠ STATE_OPEN then false
  else if query.state = .closed ∧ incident.state ≠ STATE_CLOSED then false
  else if query.priority ≠ [] ∧ priorityKey incident.priority ∉ query.priority then false
  else if query.type ≠ [] ∧
      !(incident.incidentTypeIds.any fun id => query.type.any fun t => (t : Int) == id) then false
  else if query.area ≠ [] ∧ incident.areaSlug.getD [] ∉ query.area then false
  else if query.person.any fun person : Nat =>
      !(incident.people.any fun p => p.person.any (·.personId == (person : Int))) then false
  else if query.mine && (whyMineIncident incident me).isNone then false
  else if query.days.any fun days : Nat =>
      stampMs incident.started < now - (days : Int) * 86400000 then false
  else searches rt query.q incident.number (haystack row lookups)

/-- The comparison of a column. -/
def compareBy (key : SortKey) (lookups : Lookups) (a b : Row Rest) : Int :=
  match key with
  | .number => a.incident.number - b.incident.number
  | .state => a.incident.state - b.incident.state
  | .priority => a.incident.priority - b.incident.priority
  | .types => rt.localeCompare (typesText a lookups) (typesText b lookups)
  | .area => rt.localeCompare (areaText a lookups) (areaText b lookups)
  | .summary => rt.localeCompare (a.incident.summary.getD []) (b.incident.summary.getD [])
  | .started => stampMs a.incident.started - stampMs b.incident.started
  | .modified => stampMs a.incident.lastModified - stampMs b.incident.lastModified
  | .people => rt.localeCompare (peopleText a) (peopleText b)

def sortRows (rows : List (Row Rest)) (sort : TableSort SortKey) (lookups : Lookups) :
    List (Row Rest) :=
  sortTable (·.incident.number) sort.dir (compareBy rt sort.key lookups) rows

def applyQuery (views : List (IncidentView Rest)) (query : Query) (lookups : Lookups) (me now : Int) :
    List (Row Rest) :=
  sortRows rt ((toRows views).filter (keeps rt query lookups me now)) query.sort lookups

/-- The filters, each as what it asks for where it is active. -/
structure Passes (query : Query) (lookups : Lookups) (me now : Int) (row : Row Rest) : Prop where
  state : query.state = .all ∨ query.state = .open ∧ row.incident.state = STATE_OPEN ∨
    query.state = .closed ∧ row.incident.state = STATE_CLOSED
  priority : query.priority ≠ [] → priorityKey row.incident.priority ∈ query.priority
  type : query.type ≠ [] → ∃ t ∈ query.type, (t : Int) ∈ row.incident.incidentTypeIds
  area : query.area ≠ [] → row.incident.areaSlug.getD [] ∈ query.area
  person : ∀ id, query.person = some id → ∃ p ∈ row.incident.people, ∃ ref, p.person = some ref ∧
    ref.personId = id
  mine : query.mine = true → me ≠ 0 ∧
    ((∃ ref, row.incident.createdBy = some ref ∧ ref.personId = me) ∨
      (∃ p ∈ row.incident.people, ∃ ref, p.person = some ref ∧ ref.personId = me) ∨
      ∃ entry ∈ row.incident.journalEntries, ∃ ref ∈ entry.mentions, ref.personId = me)
  days : ∀ days : Nat, query.days = some days →
    now - (days : Int) * 86400000 ≤ stampMs row.incident.started
  search : FollowsSearch rt query.q row.incident.number (haystack row lookups)

section Rows

variable {rt} {query : Query} {lookups : Lookups} {me now : Int} {row : Row Rest}

/-- **Whose an incident is**: who filed it, who is on it and who is mentioned in it. -/
theorem whyMineIncident_isSome_iff {incident : Incident} :
    (whyMineIncident incident me).isNone = false ↔ me ≠ 0 ∧
      ((∃ ref, incident.createdBy = some ref ∧ ref.personId = me) ∨
        (∃ p ∈ incident.people, ∃ ref, p.person = some ref ∧ ref.personId = me) ∨
        ∃ entry ∈ incident.journalEntries, ∃ ref ∈ entry.mentions, ref.personId = me) := by
  have hcreated : incident.createdBy.any (·.personId == me) = true ↔
      ∃ ref, incident.createdBy = some ref ∧ ref.personId = me := by
    simp [Option.any_eq_true]
  have hattached : (incident.people.any fun p => p.person.any (·.personId == me)) = true ↔
      ∃ p ∈ incident.people, ∃ ref, p.person = some ref ∧ ref.personId = me := by
    simp [Option.any_eq_true]
  have hmentioned : mentionsMe incident.journalEntries me = true ↔
      ∃ entry ∈ incident.journalEntries, ∃ ref ∈ entry.mentions, ref.personId = me := by
    simp [mentionsMe]
  have howes : owesReport incident me = true →
      (incident.people.any fun p => p.person.any (·.personId == me)) = true := by
    intro h
    rw [owesReport] at h
    split at h
    · cases h
    · split at h
      · cases h
      · rename_i p hp
        have hfound := List.find?_some (p := fun p : InvolvedPerson =>
          p.person.any (·.personId == me)) hp
        exact List.any_eq_true.mpr ⟨p, List.mem_of_find?_eq_some hp, hfound⟩
  rw [← hcreated, ← hattached, ← hmentioned, whyMineIncident]
  by_cases hme : me = 0
  · simp [hme]
  · rw [if_neg hme]
    split
    · simp [*]
    · split
      · simp [hme, howes ‹_›]
      · split
        · simp [*]
        · split <;> simp [*]

/-- **The filter of the table.** -/
theorem keeps_iff : keeps rt query lookups me now row = true ↔ Passes rt query lookups me now row := by
  have hstate : ¬ (query.state = .open ∧ row.incident.state ≠ STATE_OPEN) ∧
      ¬ (query.state = .closed ∧ row.incident.state ≠ STATE_CLOSED) ↔
      query.state = .all ∨ query.state = .open ∧ row.incident.state = STATE_OPEN ∨
        query.state = .closed ∧ row.incident.state = STATE_CLOSED := by
    cases query.state <;> simp
  have htype : ¬ (query.type ≠ [] ∧
      (!(row.incident.incidentTypeIds.any fun id => query.type.any fun t => (t : Int) == id)) = true) ↔
      (query.type ≠ [] → ∃ t ∈ query.type, (t : Int) ∈ row.incident.incidentTypeIds) := by
    simp only [not_and, Bool.not_eq_true', Bool.not_eq_false, List.any_eq_true, beq_iff_eq]
    refine imp_congr_right fun _ => ⟨?_, ?_⟩
    · rintro ⟨id, hid, t, ht, rfl⟩
      exact ⟨t, ht, hid⟩
    · rintro ⟨t, ht, hid⟩
      exact ⟨t, hid, t, ht, rfl⟩
  have hperson : ¬ (query.person.any fun person : Nat =>
      !(row.incident.people.any fun p => p.person.any (·.personId == (person : Int)))) = true ↔
      ∀ id, query.person = some id → ∃ p ∈ row.incident.people, ∃ ref, p.person = some ref ∧
        ref.personId = id := by
    cases query.person <;> simp [Option.any_eq_true]
  have hdays : ¬ (query.days.any fun days : Nat =>
      stampMs row.incident.started < now - (days : Int) * 86400000) = true ↔
      ∀ days : Nat, query.days = some days →
        now - (days : Int) * 86400000 ≤ stampMs row.incident.started := by
    cases query.days <;> simp
  have hmine : ¬ (query.mine && (whyMineIncident row.incident me).isNone) = true ↔
      (query.mine = true → (whyMineIncident row.incident me).isNone = false) := by
    rw [Bool.and_eq_true, not_and, Bool.not_eq_true]
  have hpriority : ¬ (query.priority ≠ [] ∧ priorityKey row.incident.priority ∉ query.priority) ↔
      (query.priority ≠ [] → priorityKey row.incident.priority ∈ query.priority) := not_and_not_right
  have harea : ¬ (query.area ≠ [] ∧ row.incident.areaSlug.getD [] ∉ query.area) ↔
      (query.area ≠ [] → row.incident.areaSlug.getD [] ∈ query.area) := not_and_not_right
  simp only [keeps, ite_false_iff, searches_iff]
  rw [← and_assoc, hstate, hpriority, htype, harea, hperson, hmine, hdays,
    whyMineIncident_isSome_iff]
  constructor
  · rintro ⟨hstate, hpriority, htype, harea, hperson, hmine, hdays, hsearch⟩
    exact ⟨hstate, hpriority, htype, harea, hperson, hmine, hdays, hsearch⟩
  · rintro ⟨hstate, hpriority, htype, harea, hperson, hmine, hdays, hsearch⟩
    exact ⟨hstate, hpriority, htype, harea, hperson, hmine, hdays, hsearch⟩

theorem comparison_compareBy (key : SortKey) (lookups : Lookups) :
    Comparison fun a b : Row Rest => compareBy rt key lookups a b := by
  cases key with
  | number => exact comparison_sub fun a : Row Rest => a.incident.number
  | state => exact comparison_sub fun a : Row Rest => a.incident.state
  | priority => exact comparison_sub fun a : Row Rest => a.incident.priority
  | types => exact rt.comparison_localeCompare.comap fun a : Row Rest => typesText a lookups
  | area => exact rt.comparison_localeCompare.comap fun a : Row Rest => areaText a lookups
  | summary => exact rt.comparison_localeCompare.comap fun a : Row Rest => a.incident.summary.getD []
  | started => exact comparison_sub fun a : Row Rest => stampMs a.incident.started
  | modified => exact comparison_sub fun a : Row Rest => stampMs a.incident.lastModified
  | people => exact rt.comparison_localeCompare.comap fun a : Row Rest => peopleText a

/-- The rows of a permuted list are the rows permuted. -/
theorem toRows_perm {views views' : List (IncidentView Rest)} (h : views.Perm views') :
    (toRows views).Perm (toRows views') := h.filterMap _

end Rows

end DispatchTable

/-! ### Reports -/

namespace ReportTable

structure Report where
  number : Int
  created : Option Int
  createdBy : Option TablePerson
  summary : Option JSString
  incident : Option Int
  journalEntries : List TableEntry
  deriving DecidableEq, Repr

/-- A report as it is listed, with what else is listed of it. -/
structure ReportView (Rest : Type) where
  report : Option Report
  rest : Rest

/-- A view whose report is set. -/
structure Row (Rest : Type) where
  report : Report
  rest : Rest

variable {Rest : Type}

def toRows (views : List (ReportView Rest)) : List (Row Rest) :=
  views.filterMap fun view => view.report.map fun report => ⟨report, view.rest⟩

def entriesText (row : Row Rest) : JSString :=
  joinText (utf16 " ") (row.report.journalEntries.map (·.text))

/-- What the search looks through. -/
def haystack (row : Row Rest) : JSString :=
  joinText (utf16 " ") [utf16 "R-" ++ numberText row.report.number, row.report.summary.getD [],
    personLabel row.report.createdBy, entriesText row]

/-- The filter of `applyQuery`. -/
def keeps (query : Query) (row : Row Rest) : Bool :=
  let report := row.report
  let linked := report.incident.any (0 < ·)
  if query.link = .unlinked ∧ linked = true then false
  else if query.link = .linked ∧ !linked then false
  else searches rt query.q report.number (haystack row)

/-- The comparison of a column. -/
def compareBy (key : SortKey) (a b : Row Rest) : Int :=
  match key with
  | .number => a.report.number - b.report.number
  | .incident => a.report.incident.getD 0 - b.report.incident.getD 0
  | .summary => rt.localeCompare (a.report.summary.getD []) (b.report.summary.getD [])
  | .created => stampMs a.report.created - stampMs b.report.created
  | .createdBy => rt.localeCompare (personLabel a.report.createdBy) (personLabel b.report.createdBy)

def sortRows (rows : List (Row Rest)) (sort : TableSort SortKey) : List (Row Rest) :=
  sortTable (·.report.number) sort.dir (compareBy rt sort.key) rows

def applyQuery (views : List (ReportView Rest)) (query : Query) : List (Row Rest) :=
  sortRows rt ((toRows views).filter (keeps rt query)) query.sort

/-- The report is linked to an incident. -/
def Linked (report : Report) : Prop := ∃ n, report.incident = some n ∧ 0 < n

/-- The filters, each as what it asks for where it is active. -/
structure Passes (query : Query) (row : Row Rest) : Prop where
  link : query.link = .all ∨ query.link = .unlinked ∧ ¬ Linked row.report ∨
    query.link = .linked ∧ Linked row.report
  search : FollowsSearch rt query.q row.report.number (haystack row)

section Rows

variable {rt} {query : Query} {row : Row Rest}

/-- **The filter of the table.** -/
theorem keeps_iff : keeps rt query row = true ↔ Passes rt query row := by
  have hlinked : row.report.incident.any (0 < ·) = true ↔ Linked row.report := by
    simp [Linked, Option.any_eq_true]
  have hlink : (¬ (query.link = .unlinked ∧ row.report.incident.any (0 < ·) = true) ∧
      ¬ (query.link = .linked ∧ (!row.report.incident.any (0 < ·)) = true)) ↔
      query.link = .all ∨ query.link = .unlinked ∧ ¬ Linked row.report ∨
        query.link = .linked ∧ Linked row.report := by
    rw [← hlinked]
    cases query.link <;> simp
  simp only [keeps, ite_false_iff, searches_iff]
  rw [← and_assoc, hlink]
  exact ⟨fun h => ⟨h.1, h.2⟩, fun h => ⟨h.link, h.search⟩⟩

theorem comparison_compareBy (key : SortKey) :
    Comparison fun a b : Row Rest => compareBy rt key a b := by
  cases key with
  | number => exact comparison_sub fun a : Row Rest => a.report.number
  | incident => exact comparison_sub fun a : Row Rest => a.report.incident.getD 0
  | summary => exact rt.comparison_localeCompare.comap fun a : Row Rest => a.report.summary.getD []
  | created => exact comparison_sub fun a : Row Rest => stampMs a.report.created
  | createdBy => exact rt.comparison_localeCompare.comap fun a : Row Rest =>
      personLabel a.report.createdBy

theorem toRows_perm {views views' : List (ReportView Rest)} (h : views.Perm views') :
    (toRows views).Perm (toRows views') := h.filterMap _

end Rows

end ReportTable

/-- **The order of a table does not depend on arrival.** For both tables: views that arrive in another
order give the same list, and it shows every row that passes the filters, once and in its order. -/
theorem tables_show (rt : TextRuntime) (Rest : Type) :
    (∀ (views views' : List (DispatchTable.IncidentView Rest)) (query : DispatchTable.Query)
      (lookups : DispatchTable.Lookups) (me now : Int),
      ((DispatchTable.toRows views).map (·.incident.number)).Nodup → views.Perm views' →
      DispatchTable.applyQuery rt views' query lookups me now =
          DispatchTable.applyQuery rt views query lookups me now ∧
        ShowsTable (·.incident.number) query.sort.dir
          (DispatchTable.compareBy rt query.sort.key lookups) (DispatchTable.toRows views)
          (DispatchTable.Passes rt query lookups me now)
          (DispatchTable.applyQuery rt views query lookups me now)) ∧
    ∀ (views views' : List (ReportTable.ReportView Rest)) (query : ReportTable.Query),
      ((ReportTable.toRows views).map (·.report.number)).Nodup → views.Perm views' →
      ReportTable.applyQuery rt views' query = ReportTable.applyQuery rt views query ∧
        ShowsTable (·.report.number) query.sort.dir (ReportTable.compareBy rt query.sort.key)
          (ReportTable.toRows views) (ReportTable.Passes rt query)
          (ReportTable.applyQuery rt views query) := by
  constructor
  · intro views views' query lookups me now hnumbers hperm
    refine ⟨?_, showsTable_sortTable (fun row => DispatchTable.keeps_iff)
      (DispatchTable.comparison_compareBy query.sort.key lookups) hnumbers⟩
    refine (sortTable_eq_of_perm (DispatchTable.comparison_compareBy query.sort.key lookups) ?_
      ((DispatchTable.toRows_perm hperm).filter _)).symm
    exact hnumbers.sublist (List.filter_sublist.map _)
  · intro views views' query hnumbers hperm
    refine ⟨?_, showsTable_sortTable (fun row => ReportTable.keeps_iff)
      (ReportTable.comparison_compareBy query.sort.key) hnumbers⟩
    refine (sortTable_eq_of_perm (ReportTable.comparison_compareBy query.sort.key) ?_
      ((ReportTable.toRows_perm hperm).filter _)).symm
    exact hnumbers.sublist (List.filter_sublist.map _)

/-- Texts in plain letters, which differ in the first one. -/
def plainTexts : TextRuntime where
  numbers := exactNumbers
  localeCompare := fun a b => ((a.headD 0).toNat : Int) - (b.headD 0).toNat
  comparison_localeCompare := comparison_sub fun s : JSString => ((s.headD 0).toNat : Int)
  toLowerCase := fun s => s.map fun u => if 65 ≤ u ∧ u ≤ 90 then u + 32 else u
  regExp := fun _ => none

def incidentNumbered (number state priority : Int) : DispatchTable.IncidentView Unit :=
  ⟨some ⟨number, state, priority, [], none, [], none, none, none, none, []⟩, ()⟩

def reportNumbered (number : Int) (summary : String) : ReportTable.ReportView Unit :=
  ⟨some ⟨number, none, none, some (utf16 summary), none, []⟩, ()⟩

/-- Four incidents, of which one is closed and two have one priority. -/
def fourIncidents : List (DispatchTable.IncidentView Unit) :=
  [incidentNumbered 1 1 3, incidentNumbered 2 2 5, incidentNumbered 3 1 3, incidentNumbered 4 1 5]

def openByPriority : DispatchTable.Query :=
  ⟨.open, [], [], [], none, false, none, [], ⟨.priority, .desc⟩, none, none⟩

def threeReports : List (ReportTable.ReportView Unit) :=
  [reportNumbered 1 "alarm", reportNumbered 2 "brawl", reportNumbered 3 "alarm"]

def unlinkedBySummary : ReportTable.Query := ⟨.unlinked, [], ⟨.summary, .asc⟩, none, none⟩

/-- The open incidents and the reports, in either order. -/
theorem tables_show_two :
    (DispatchTable.applyQuery plainTexts fourIncidents.reverse openByPriority ⟨[], []⟩ 7 0 =
        DispatchTable.applyQuery plainTexts fourIncidents openByPriority ⟨[], []⟩ 7 0 ∧
      ShowsTable (·.incident.number) .desc (DispatchTable.compareBy plainTexts .priority ⟨[], []⟩)
        (DispatchTable.toRows fourIncidents)
        (DispatchTable.Passes plainTexts openByPriority ⟨[], []⟩ 7 0)
        (DispatchTable.applyQuery plainTexts fourIncidents openByPriority ⟨[], []⟩ 7 0)) ∧
    ReportTable.applyQuery plainTexts threeReports.reverse unlinkedBySummary =
        ReportTable.applyQuery plainTexts threeReports unlinkedBySummary ∧
      ShowsTable (·.report.number) .asc (ReportTable.compareBy plainTexts .summary)
        (ReportTable.toRows threeReports) (ReportTable.Passes plainTexts unlinkedBySummary)
        (ReportTable.applyQuery plainTexts threeReports unlinkedBySummary) := by
  obtain ⟨hincidents, hreports⟩ := tables_show plainTexts Unit
  exact ⟨hincidents fourIncidents fourIncidents.reverse openByPriority ⟨[], []⟩ 7 0
      (by decide) (List.reverse_perm _).symm,
    hreports threeReports threeReports.reverse unlinkedBySummary (by decide)
      (List.reverse_perm _).symm⟩

end OcfIms
