import OcfIms.TableParams

/-!
# A table's view is its URL

The dispatch table and the report table write their query into the URL and read it from there. The
state of the dispatch table falls back to a stored preference where the URL says none, and the writer
says none where it is open.
-/

namespace OcfIms

/-! ## The dispatch table -/

namespace DispatchTable

inductive StateFilter
  | open
  | closed
  | all
  deriving DecidableEq, Repr

inductive PriorityKey
  | high
  | normal
  | low
  deriving DecidableEq, Repr

inductive SortKey
  | number
  | state
  | priority
  | types
  | area
  | summary
  | started
  | modified
  | people
  deriving DecidableEq, Repr

def STATES : List StateFilter := [.closed, .all, .open]

def StateFilter.word : StateFilter → JSString
  | .open => utf16 "open"
  | .closed => utf16 "closed"
  | .all => utf16 "all"

def PRIORITIES : List PriorityKey := [.high, .normal, .low]

def PriorityKey.word : PriorityKey → JSString
  | .high => utf16 "high"
  | .normal => utf16 "normal"
  | .low => utf16 "low"

def SORT_KEYS : List SortKey :=
  [.number, .state, .priority, .types, .area, .summary, .started, .modified, .people]

def SortKey.word : SortKey → JSString
  | .number => utf16 "number"
  | .state => utf16 "state"
  | .priority => utf16 "priority"
  | .types => utf16 "types"
  | .area => utf16 "area"
  | .summary => utf16 "summary"
  | .started => utf16 "started"
  | .modified => utf16 "modified"
  | .people => utf16 "people"

def DEFAULT_SORT : TableSort SortKey := ⟨.number, .desc⟩

structure Query where
  state : StateFilter
  priority : List PriorityKey
  type : List Nat
  area : List JSString
  person : Option Nat
  mine : Bool
  days : Option Nat
  q : JSString
  sort : TableSort SortKey
  sel : Option Nat
  /-- The key `open`. -/
  opened : Option Nat
  deriving DecidableEq, Repr

/-- A patch: the values of the keys it names. -/
structure Patch where
  state : Option StateFilter := none
  priority : Option (List PriorityKey) := none
  type : Option (List Nat) := none
  area : Option (List JSString) := none
  person : Option (Option Nat) := none
  mine : Option Bool := none
  days : Option (Option Nat) := none
  q : Option JSString := none
  sort : Option (TableSort SortKey) := none
  sel : Option (Option Nat) := none
  opened : Option (Option Nat) := none
  deriving DecidableEq, Repr

/-- `{ ...query, ...patch }`. -/
def Query.override (query : Query) (patch : Patch) : Query where
  state := patch.state.getD query.state
  priority := patch.priority.getD query.priority
  type := patch.type.getD query.type
  area := patch.area.getD query.area
  person := patch.person.getD query.person
  mine := patch.mine.getD query.mine
  days := patch.days.getD query.days
  q := patch.q.getD query.q
  sort := patch.sort.getD query.sort
  sel := patch.sel.getD query.sel
  opened := patch.opened.getD query.opened

variable (rt : NumberRuntime)

/-- The state that the URL says, if it says one. -/
def stateParam (value : Option JSString) : Option StateFilter :=
  value.bind (ofWord STATES StateFilter.word)

def parseQuery (params : Params) (fallbackState : StateFilter) : Query where
  state := (stateParam (params "state")).getD fallbackState
  priority := (listParam (params "priority")).filterMap (ofWord PRIORITIES PriorityKey.word)
  type := (listParam (params "type")).filterMap fun t => intParam rt (some t)
  area := listParam (params "area")
  person := intParam rt (params "person")
  mine := decide (params "mine" = some (utf16 "1"))
  days := intParam rt (params "days")
  q := (params "q").getD []
  sort := parseSort SORT_KEYS SortKey.word DEFAULT_SORT (params "sort")
  sel := intParam rt (params "sel")
  opened := intParam rt (params "open")

def serializeQuery (query : Query) : List (String × Option JSString) :=
  [("state", if query.state = .open then none else some query.state.word),
   ("priority", joinParam (query.priority.map PriorityKey.word)),
   ("type", joinParam (query.type.map rt.print)),
   ("area", joinParam query.area),
   ("person", query.person.map rt.print),
   ("mine", if query.mine then some (utf16 "1") else none),
   ("days", query.days.map rt.print),
   ("q", textParam query.q),
   ("sort", serializeSort SortKey.word DEFAULT_SORT query.sort),
   ("sel", query.sel.map rt.print),
   ("open", query.opened.map rt.print)]

/-- `setQuery` of `useDispatchQuery`, on the URL: the query is that of the URL and the stored state,
but for its state, which is that of the URL alone. -/
def setQuery (params : Params) (fallbackState : StateFilter) (patch : Patch) : Params :=
  let query := parseQuery rt params fallbackState
  let rawState := (parseQuery rt params .open).state
  setParams params (serializeQuery rt ({ query with state := rawState }.override patch))

/-! ### Views -/

/-- The numbers of the URL are below 2^53. -/
structure SmallParams (params : Params) : Prop where
  type : ∀ t ∈ listParam (params "type"), SmallInt (some t)
  person : SmallInt (params "person")
  days : SmallInt (params "days")
  sel : SmallInt (params "sel")
  opened : SmallInt (params "open")

/-- The query is that of some such URL. -/
def IsParsed (query : Query) : Prop :=
  ∃ params fallbackState, SmallParams params ∧ query = parseQuery rt params fallbackState

/-- The values of the patch are values of queries that are parsed. -/
structure Patch.IsParsed (patch : Patch) : Prop where
  priority : ∀ v, patch.priority = some v → ∃ query, DispatchTable.IsParsed rt query ∧
    query.priority = v
  type : ∀ v, patch.type = some v → ∃ query, DispatchTable.IsParsed rt query ∧ query.type = v
  area : ∀ v, patch.area = some v → ∃ query, DispatchTable.IsParsed rt query ∧ query.area = v
  person : ∀ v, patch.person = some v → ∃ query, DispatchTable.IsParsed rt query ∧ query.person = v
  mine : ∀ v, patch.mine = some v → ∃ query, DispatchTable.IsParsed rt query ∧ query.mine = v
  days : ∀ v, patch.days = some v → ∃ query, DispatchTable.IsParsed rt query ∧ query.days = v
  q : ∀ v, patch.q = some v → ∃ query, DispatchTable.IsParsed rt query ∧ query.q = v
  sort : ∀ v, patch.sort = some v → ∃ query, DispatchTable.IsParsed rt query ∧ query.sort = v
  sel : ∀ v, patch.sel = some v → ∃ query, DispatchTable.IsParsed rt query ∧ query.sel = v
  opened : ∀ v, patch.opened = some v → ∃ query, DispatchTable.IsParsed rt query ∧ query.opened = v

/-- The values that survive the URL. -/
structure Query.Survives (query : Query) : Prop where
  type : ∀ n ∈ query.type, 0 < n ∧ n < 2 ^ 53
  area : ∀ item ∈ query.area, item ≠ [] ∧ (44 : UInt16) ∉ item
  person : ∀ n, query.person = some n → 0 < n ∧ n < 2 ^ 53
  days : ∀ n, query.days = some n → 0 < n ∧ n < 2 ^ 53
  sel : ∀ n, query.sel = some n → 0 < n ∧ n < 2 ^ 53
  opened : ∀ n, query.opened = some n → 0 < n ∧ n < 2 ^ 53

section Views

variable {rt} {params : Params} {query : Query} {fallbackState : StateFilter}

theorem IsParsed.survives (h : IsParsed rt query) : query.Survives := by
  obtain ⟨params, fallbackState, hsmall, rfl⟩ := h
  refine ⟨?_, fun item hitem => mem_listParam hitem, ?_, ?_, ?_, ?_⟩
  · intro n hn
    obtain ⟨t, ht, hparse⟩ := List.mem_filterMap.mp hn
    exact intParam_eq_some hparse (hsmall.type t ht)
  · exact fun n hn => intParam_eq_some hn hsmall.person
  · exact fun n hn => intParam_eq_some hn hsmall.days
  · exact fun n hn => intParam_eq_some hn hsmall.sel
  · exact fun n hn => intParam_eq_some hn hsmall.opened

theorem Query.Survives.override {patch : Patch} (h : query.Survives) (hpatch : patch.IsParsed rt) :
    (query.override patch).Survives where
  type := forall_getD (P := fun l => ∀ n ∈ l, 0 < n ∧ n < 2 ^ 53) h.type fun v hv => by
    obtain ⟨other, hother, rfl⟩ := hpatch.type v hv
    exact hother.survives.type
  area := forall_getD (P := fun l => ∀ i ∈ l, i ≠ [] ∧ (44 : UInt16) ∉ i) h.area fun v hv => by
    obtain ⟨other, hother, rfl⟩ := hpatch.area v hv
    exact hother.survives.area
  person := forall_getD (P := fun o => ∀ n, o = some n → 0 < n ∧ n < 2 ^ 53) h.person fun v hv => by
    obtain ⟨other, hother, rfl⟩ := hpatch.person v hv
    exact hother.survives.person
  days := forall_getD (P := fun o => ∀ n, o = some n → 0 < n ∧ n < 2 ^ 53) h.days fun v hv => by
    obtain ⟨other, hother, rfl⟩ := hpatch.days v hv
    exact hother.survives.days
  sel := forall_getD (P := fun o => ∀ n, o = some n → 0 < n ∧ n < 2 ^ 53) h.sel fun v hv => by
    obtain ⟨other, hother, rfl⟩ := hpatch.sel v hv
    exact hother.survives.sel
  opened := forall_getD (P := fun o => ∀ n, o = some n → 0 < n ∧ n < 2 ^ 53) h.opened fun v hv => by
    obtain ⟨other, hother, rfl⟩ := hpatch.opened v hv
    exact hother.survives.opened

theorem StateFilter.word_injective : ∀ a b : StateFilter, a.word = b.word → a = b := by
  rintro (_ | _ | _) (_ | _ | _) h <;> first | rfl | exact absurd h (by decide)

theorem PriorityKey.word_injective : ∀ a b : PriorityKey, a.word = b.word → a = b := by
  rintro (_ | _ | _) (_ | _ | _) h <;> first | rfl | exact absurd h (by decide)

theorem PriorityKey.plain (a : PriorityKey) : a.word ≠ [] ∧ (44 : UInt16) ∉ a.word := by
  cases a <;> decide

theorem SortKey.word_injective : ∀ a b : SortKey, a.word = b.word → a = b := by
  rintro (_ | _) (_ | _) h <;> first | rfl | exact absurd h (by decide)

theorem SortKey.plain (a : SortKey) : a.word ≠ [] ∧ (58 : UInt16) ∉ a.word := by
  cases a <;> decide

/-- **What is written is read back**, but for the state: where it is open, the fallback is read. -/
theorem parseQuery_serializeQuery (h : query.Survives) :
    parseQuery rt (setParams params (serializeQuery rt query)) fallbackState =
      { query with state := if query.state = .open then fallbackState else query.state } := by
  have hstate : (stateParam (if query.state = .open then none else some query.state.word)).getD
      fallbackState = if query.state = .open then fallbackState else query.state := by
    split
    · rfl
    · rw [stateParam, Option.bind_some, ofWord_word (by cases query.state <;> decide)
        fun b hb => StateFilter.word_injective b query.state hb]
      rfl
  have hpriority : (listParam (joinParam (query.priority.map PriorityKey.word))).filterMap
      (ofWord PRIORITIES PriorityKey.word) = query.priority :=
    filterMap_ofWord (fun a => by cases a <;> decide) PriorityKey.word_injective PriorityKey.plain _
  have hmine : decide ((if query.mine = true then some (utf16 "1") else none) = some (utf16 "1")) =
      query.mine := by
    cases query.mine <;> decide
  have hsort : parseSort SORT_KEYS SortKey.word DEFAULT_SORT
      (serializeSort SortKey.word DEFAULT_SORT query.sort) = query.sort :=
    parseSort_serializeSort (by cases query.sort.key <;> decide) SortKey.word_injective SortKey.plain
  have hget : ∀ key value, (serializeQuery rt query).lookup key = some value →
      setParams params (serializeQuery rt query) key = value :=
    fun _ _ h => setParams_of_lookup h
  rw [parseQuery, hget "state" _ rfl, hget "priority" _ rfl, hget "type" _ rfl, hget "area" _ rfl,
    hget "person" _ rfl, hget "mine" _ rfl, hget "days" _ rfl, hget "q" _ rfl, hget "sort" _ rfl,
    hget "sel" _ rfl, hget "open" _ rfl, hstate, hpriority, hmine, hsort,
    filterMap_intParam h.type, listParam_joinParam h.area, intParam_map_print h.person,
    intParam_map_print h.days, intParam_map_print h.sel, intParam_map_print h.opened,
    textParam_getD]

theorem stateParam_eq_open {value : Option JSString} :
    stateParam value = some .open ↔ value = some (utf16 "open") := by
  constructor
  · intro h
    obtain ⟨s, rfl, hs⟩ := Option.bind_eq_some_iff.mp h
    rw [← word_of_ofWord hs]
    rfl
  · rintro rfl
    exact ofWord_word (by decide) fun b hb => StateFilter.word_injective b .open hb

/-- **When a patch is all that changes.** The view after a patch that names no state is the view
before it with the patch, unless the URL says that the state is open and the stored state is another:
the URL then says nothing any more. -/
theorem parseQuery_setQuery_iff {patch : Patch} (hsmall : SmallParams params)
    (hpatch : patch.IsParsed rt) (hstate : patch.state = none) :
    parseQuery rt (setQuery rt params fallbackState patch) fallbackState =
        (parseQuery rt params fallbackState).override patch ↔
      (params "state" = some (utf16 "open") → fallbackState = .open) := by
  have hparsed : (parseQuery rt params fallbackState).Survives :=
    IsParsed.survives ⟨params, fallbackState, hsmall, rfl⟩
  have hwritten : ({ parseQuery rt params fallbackState with
      state := (parseQuery rt params .open).state } : Query).Survives := { hparsed with }
  rw [setQuery, parseQuery_serializeQuery (hwritten.override hpatch)]
  simp only [Query.override, hstate, Option.getD_none, parseQuery, Query.mk.injEq, and_true]
  cases hparam : stateParam (params "state") with
  | none =>
      have hword : params "state" ≠ some (utf16 "open") := by
        intro hword
        rw [stateParam_eq_open.mpr hword] at hparam
        cases hparam
      simp [hword]
  | some state =>
      by_cases hopen : state = .open
      · subst hopen
        simp [stateParam_eq_open.mp hparam]
      · have hword : params "state" ≠ some (utf16 "open") := by
          intro hword
          rw [stateParam_eq_open.mpr hword] at hparam
          exact hopen (Option.some.inj hparam).symm
        simp [hword, hopen]

end Views

end DispatchTable

/-! ## The report table -/

namespace ReportTable

inductive LinkFilter
  | unlinked
  | linked
  | all
  deriving DecidableEq, Repr

inductive SortKey
  | number
  | incident
  | summary
  | created
  | createdBy
  deriving DecidableEq, Repr

def LINKS : List LinkFilter := [.linked, .all, .unlinked]

def LinkFilter.word : LinkFilter → JSString
  | .unlinked => utf16 "unlinked"
  | .linked => utf16 "linked"
  | .all => utf16 "all"

def SORT_KEYS : List SortKey := [.number, .incident, .summary, .created, .createdBy]

def SortKey.word : SortKey → JSString
  | .number => utf16 "number"
  | .incident => utf16 "incident"
  | .summary => utf16 "summary"
  | .created => utf16 "created"
  | .createdBy => utf16 "createdBy"

def DEFAULT_SORT : TableSort SortKey := ⟨.number, .desc⟩

structure Query where
  link : LinkFilter
  q : JSString
  sort : TableSort SortKey
  sel : Option Nat
  /-- The key `open`. -/
  opened : Option Nat
  deriving DecidableEq, Repr

structure Patch where
  link : Option LinkFilter := none
  q : Option JSString := none
  sort : Option (TableSort SortKey) := none
  sel : Option (Option Nat) := none
  opened : Option (Option Nat) := none
  deriving DecidableEq, Repr

def Query.override (query : Query) (patch : Patch) : Query where
  link := patch.link.getD query.link
  q := patch.q.getD query.q
  sort := patch.sort.getD query.sort
  sel := patch.sel.getD query.sel
  opened := patch.opened.getD query.opened

variable (rt : NumberRuntime)

def parseQuery (params : Params) : Query where
  link := ((params "link").bind (ofWord LINKS LinkFilter.word)).getD .unlinked
  q := (params "q").getD []
  sort := parseSort SORT_KEYS SortKey.word DEFAULT_SORT (params "sort")
  sel := intParam rt (params "sel")
  opened := intParam rt (params "open")

def serializeQuery (query : Query) : List (String × Option JSString) :=
  [("link", if query.link = .unlinked then none else some query.link.word),
   ("q", textParam query.q),
   ("sort", serializeSort SortKey.word DEFAULT_SORT query.sort),
   ("sel", query.sel.map rt.print),
   ("open", query.opened.map rt.print)]

/-- `setQuery` of the report table, on the URL. -/
def setQuery (params : Params) (patch : Patch) : Params :=
  setParams params (serializeQuery rt ((parseQuery rt params).override patch))

/-- The numbers of the URL are below 2^53. -/
structure SmallParams (params : Params) : Prop where
  sel : SmallInt (params "sel")
  opened : SmallInt (params "open")

def IsParsed (query : Query) : Prop := ∃ params, SmallParams params ∧ query = parseQuery rt params

structure Patch.IsParsed (patch : Patch) : Prop where
  link : ∀ v, patch.link = some v → ∃ query, ReportTable.IsParsed rt query ∧ query.link = v
  q : ∀ v, patch.q = some v → ∃ query, ReportTable.IsParsed rt query ∧ query.q = v
  sort : ∀ v, patch.sort = some v → ∃ query, ReportTable.IsParsed rt query ∧ query.sort = v
  sel : ∀ v, patch.sel = some v → ∃ query, ReportTable.IsParsed rt query ∧ query.sel = v
  opened : ∀ v, patch.opened = some v → ∃ query, ReportTable.IsParsed rt query ∧ query.opened = v

structure Query.Survives (query : Query) : Prop where
  sel : ∀ n, query.sel = some n → 0 < n ∧ n < 2 ^ 53
  opened : ∀ n, query.opened = some n → 0 < n ∧ n < 2 ^ 53

section Views

variable {rt} {params : Params} {query : Query}

theorem IsParsed.survives (h : IsParsed rt query) : query.Survives := by
  obtain ⟨params, hsmall, rfl⟩ := h
  exact ⟨fun n hn => intParam_eq_some hn hsmall.sel, fun n hn => intParam_eq_some hn hsmall.opened⟩

theorem Query.Survives.override {patch : Patch} (h : query.Survives) (hpatch : patch.IsParsed rt) :
    (query.override patch).Survives where
  sel := forall_getD (P := fun o => ∀ n, o = some n → 0 < n ∧ n < 2 ^ 53) h.sel fun v hv => by
    obtain ⟨other, hother, rfl⟩ := hpatch.sel v hv
    exact hother.survives.sel
  opened := forall_getD (P := fun o => ∀ n, o = some n → 0 < n ∧ n < 2 ^ 53) h.opened fun v hv => by
    obtain ⟨other, hother, rfl⟩ := hpatch.opened v hv
    exact hother.survives.opened

theorem LinkFilter.word_injective : ∀ a b : LinkFilter, a.word = b.word → a = b := by
  rintro (_ | _) (_ | _) h <;> first | rfl | exact absurd h (by decide)

theorem SortKey.word_injective : ∀ a b : SortKey, a.word = b.word → a = b := by
  rintro (_ | _) (_ | _) h <;> first | rfl | exact absurd h (by decide)

theorem SortKey.plain (a : SortKey) : a.word ≠ [] ∧ (58 : UInt16) ∉ a.word := by
  cases a <;> decide

/-- **What is written is read back**: the link filter has no other default. -/
theorem parseQuery_serializeQuery (h : query.Survives) :
    parseQuery rt (setParams params (serializeQuery rt query)) = query := by
  have hlink : ((if query.link = .unlinked then none else some query.link.word).bind
      (ofWord LINKS LinkFilter.word)).getD .unlinked = query.link := by
    split
    · rename_i heq
      rw [heq]
      rfl
    · rw [Option.bind_some, ofWord_word (by cases query.link <;> decide)
        fun b hb => LinkFilter.word_injective b query.link hb]
      rfl
  have hsort : parseSort SORT_KEYS SortKey.word DEFAULT_SORT
      (serializeSort SortKey.word DEFAULT_SORT query.sort) = query.sort :=
    parseSort_serializeSort (by cases query.sort.key <;> decide) SortKey.word_injective SortKey.plain
  have hget : ∀ key value, (serializeQuery rt query).lookup key = some value →
      setParams params (serializeQuery rt query) key = value :=
    fun _ _ h => setParams_of_lookup h
  rw [parseQuery, hget "link" _ rfl, hget "q" _ rfl, hget "sort" _ rfl, hget "sel" _ rfl,
    hget "open" _ rfl, hlink, hsort, intParam_map_print h.sel, intParam_map_print h.opened,
    textParam_getD]

end Views

end ReportTable

/-! ## Both tables -/

/-- **A table's view is its URL.** A patch of the dispatch table that names no state changes the view
by the patch and by nothing else exactly if the URL does not say that the state is open, or the
stored state is open, too; a patch of the report table always does. -/
theorem view_is_url_iff (rt : NumberRuntime) :
    (∀ params fallbackState (patch : DispatchTable.Patch), DispatchTable.SmallParams params →
      patch.IsParsed rt → patch.state = none →
      (DispatchTable.parseQuery rt (DispatchTable.setQuery rt params fallbackState patch)
          fallbackState = (DispatchTable.parseQuery rt params fallbackState).override patch ↔
        (params "state" = some (utf16 "open") → fallbackState = .open))) ∧
    ∀ params (patch : ReportTable.Patch), ReportTable.SmallParams params → patch.IsParsed rt →
      ReportTable.parseQuery rt (ReportTable.setQuery rt params patch) =
        (ReportTable.parseQuery rt params).override patch := by
  refine ⟨fun params fallbackState patch hsmall hpatch hstate =>
    DispatchTable.parseQuery_setQuery_iff hsmall hpatch hstate, fun params patch hsmall hpatch => ?_⟩
  have hparsed : (ReportTable.parseQuery rt params).Survives :=
    ReportTable.IsParsed.survives ⟨params, hsmall, rfl⟩
  rw [ReportTable.setQuery, ReportTable.parseQuery_serializeQuery (hparsed.override hpatch)]

/-- Numbers that are never rounded. -/
def exactNumbers : NumberRuntime where
  nearest := some
  print := fun n => numberText n
  nearest_eq := fun _ _ => rfl
  print_eq := fun _ _ => rfl

/-- The URL of a view of all open incidents, and the search that is typed into it. -/
def openView : Params := fun key => if key = "state" then some (utf16 "open") else none

def searchFire : DispatchTable.Patch := { q := some (utf16 "fire") }

theorem small_openView : DispatchTable.SmallParams openView := by
  refine ⟨?_, ?_, ?_, ?_, ?_⟩ <;> decide

def viewOf (pairs : List (String × String)) : Params := fun key => (pairs.lookup key).map utf16

/-- A view of the dispatch table in which everything is chosen. -/
def closedView : Params := viewOf
  [("state", "closed"), ("priority", "high,low"), ("type", "3,5"), ("area", "north,south"),
   ("person", "7"), ("mine", "1"), ("days", "2"), ("q", "smoke"), ("sort", "started:asc"),
   ("sel", "4"), ("open", "12")]

def gateView : Params := viewOf
  [("type", "4"), ("area", "gate"), ("days", "30"), ("q", "fire"), ("sort", "modified:asc")]

/-- What the dispatch view at the gate shows has been parsed from a URL. -/
theorem isParsed_gateView : DispatchTable.IsParsed exactNumbers
    (DispatchTable.parseQuery exactNumbers gateView .open) := by
  refine ⟨gateView, .open, ⟨?_, ?_, ?_, ?_, ?_⟩, rfl⟩ <;> decide

theorem isParsed_searchFire : searchFire.IsParsed exactNumbers := by
  constructor <;> intro v hv <;> cases hv
  exact ⟨_, isParsed_gateView, by decide⟩

/-- Other types, areas, days, words and order, and nothing selected. -/
def searchGate : DispatchTable.Patch where
  type := some [4]
  area := some [utf16 "gate"]
  days := some (some 30)
  q := some (utf16 "fire")
  sort := some ⟨.modified, .asc⟩
  sel := some none

theorem isParsed_searchGate : searchGate.IsParsed exactNumbers := by
  constructor <;> intro v hv <;> cases hv <;> exact ⟨_, isParsed_gateView, by decide⟩

/-- A view of the report table in which everything is chosen. -/
def allReportsView : Params := viewOf
  [("link", "all"), ("q", "tree"), ("sort", "created:asc"), ("sel", "2"), ("open", "5")]

def linkedReportsView : Params := viewOf [("link", "linked"), ("sort", "createdBy:desc"), ("sel", "9")]

def searchLinked : ReportTable.Patch where
  link := some .linked
  sort := some ⟨.createdBy, .desc⟩
  sel := some (some 9)

theorem isParsed_searchLinked : searchLinked.IsParsed exactNumbers := by
  have hparsed : ReportTable.IsParsed exactNumbers
      (ReportTable.parseQuery exactNumbers linkedReportsView) := by
    refine ⟨linkedReportsView, ⟨?_, ?_⟩, rfl⟩ <;> decide
  constructor <;> intro v hv <;> cases hv <;> exact ⟨_, hparsed, by decide⟩

theorem view_is_url_iff_search :
    DispatchTable.parseQuery exactNumbers
        (DispatchTable.setQuery exactNumbers closedView .open searchGate) .open =
      (DispatchTable.parseQuery exactNumbers closedView .open).override searchGate ∧
    (DispatchTable.parseQuery exactNumbers closedView .open).type = [3, 5] ∧
    ReportTable.parseQuery exactNumbers
        (ReportTable.setQuery exactNumbers allReportsView searchLinked) =
      (ReportTable.parseQuery exactNumbers allReportsView).override searchLinked := by
  have hdispatch : DispatchTable.SmallParams closedView := by
    refine ⟨?_, ?_, ?_, ?_, ?_⟩ <;> decide
  have hreport : ReportTable.SmallParams allReportsView := by
    refine ⟨?_, ?_⟩ <;> decide
  obtain ⟨hsearch, hlinked⟩ := view_is_url_iff exactNumbers
  exact ⟨(hsearch closedView .open searchGate hdispatch isParsed_searchGate rfl).mpr fun _ => rfl,
    by decide, hlinked allReportsView searchLinked hreport isParsed_searchLinked⟩

/-- Where closed incidents are what is stored, a search in the open ones shows closed ones. -/
theorem view_loses_open :
    ¬ ∀ params fallbackState (patch : DispatchTable.Patch), DispatchTable.SmallParams params →
      patch.IsParsed exactNumbers → patch.state = none →
      DispatchTable.parseQuery exactNumbers
          (DispatchTable.setQuery exactNumbers params fallbackState patch) fallbackState =
        (DispatchTable.parseQuery exactNumbers params fallbackState).override patch := by
  intro h
  exact absurd (h openView .closed searchFire small_openView isParsed_searchFire rfl)
    (by decide)

end OcfIms
