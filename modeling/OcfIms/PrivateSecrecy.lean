import Mathlib
import OcfIms.BellVisibility
import OcfIms.Metrics
import OcfIms.SameReads

/-!
# What a private incident's content shows through

The summary of an incident is copied into the answers about others: into the incidents that link it,
into the bell and into the dashboard, and each copy is redacted by a rule of its own. Two databases
that differ in the content of one private incident answer every read alike for whoever may not view
it.
-/

namespace OcfIms

open TxnLib

/-! ## Databases that differ in an incident's content -/

/-- An incident without its summary, its description and its booth. -/
def Incident.withoutContent (i : Incident) : Incident :=
  { i with summary := none, locationDescription := none, locationBooth := none }

def JournalEntry.withoutText (je : JournalEntry) : JournalEntry := { je with text := [] }

/-- The incidents, with that one's content left out. -/
def DB.incidentsWithout (db : DB) (e n : Int) : Table (Int × Int) Incident :=
  db.incident.mapVal fun k i => if k = (e, n) then i.withoutContent else i

/-- An entry of the incident's journal; the server links an entry once, to what it writes it for. -/
def DB.isEntryOf (db : DB) (e n entry : Int) : Bool :=
  db.incidentJournalEntry.contains (e, n, entry) &&
    (db.incidentJournalEntry.rows.all fun r => r.1.2.2 != entry || r.1.1 == e && r.1.2.1 == n) &&
    db.reportJournalEntry.rows.all fun r => r.1.2.2 != entry

/-- The journal entries, with the texts of that incident's left out. -/
def DB.entriesWithout (db : DB) (e n : Int) : Table Int JournalEntry :=
  db.journalEntry.mapVal fun entry je => if db.isEntryOf e n entry then je.withoutText else je

/-- The databases differ in the summary, the description, the booth and the journal's texts of one
incident, and in nothing else. -/
structure SameButContent (e n : Int) (db db' : DB) : Prop where
  incidents : db'.incidentsWithout e n = db.incidentsWithout e n
  entries : db'.entriesWithout e n = db.entriesWithout e n
  rest : db' = { db with incident := db'.incident, journalEntry := db'.journalEntry }

/-- The incident is private, and the caller may not view it. -/
def HiddenFrom (db : DB) (e n : Int) (claims : IMSClaims) : Prop :=
  ∃ i, db.incident.find? (e, n) = some i ∧ i.isPrivate = true ∧
    mayViewIncident i.isPrivate i.createdBy claims.personID claims.admin
      (hasBit (eventMaskIn db e claims) eventReadIncidents)
      (db.hasGrant e n claims.personID) = false

variable {db db' : DB} {e n : Int} {claims : IMSClaims}

/-- Of the incident's row: what every rule that hides its content looks at. -/
structure Hides (claims : IMSClaims) (isPrivate : Bool) (createdBy : Option Int) : Prop where
  isPrivate : isPrivate = true
  admin : claims.admin = false
  creator : (createdBy == some claims.personID) = false

namespace HiddenFrom

variable (h : HiddenFrom db e n claims)

include h

theorem grant : db.hasGrant e n claims.personID = false := by
  obtain ⟨i, -, hprivate, hview⟩ := h
  rw [mayViewIncident, if_pos hprivate, Bool.or_eq_false_iff] at hview
  exact hview.2

theorem hides {i : Incident} (hi : db.incident.find? (e, n) = some i) :
    Hides claims i.isPrivate i.createdBy := by
  obtain ⟨i', hi', hprivate, hview⟩ := h
  rw [hi, Option.some.injEq] at hi'
  subst hi'
  rw [mayViewIncident, if_pos hprivate, Bool.or_eq_false_iff, Bool.or_eq_false_iff] at hview
  exact ⟨hprivate, hview.1.1, hview.1.2⟩

theorem admin : claims.admin = false := by
  obtain ⟨i, hi, -⟩ := id h
  exact (h.hides hi).admin

end HiddenFrom

namespace SameButContent

variable (h : SameButContent e n db db')

include h

theorem gates : SameGates db db' := by
  refine ⟨?_, ?_, ?_⟩ <;> rw [h.rest]

/-- A query that looks neither at incidents nor at journal entries is answered the same. -/
theorem eval_eq {β : Type} {q : Read β} (hq : ∀ incident journalEntry,
      q.eval db = q.eval { db with incident := incident, journalEntry := journalEntry }) :
    q.eval db = q.eval db' := by
  rw [h.rest]
  exact hq _ _

/-! ## Rows of incidents -/

theorem find?_incident_map (k : Int × Int) :
    (db'.incident.find? k).map (fun i => if k = (e, n) then i.withoutContent else i) =
      (db.incident.find? k).map fun i => if k = (e, n) then i.withoutContent else i := by
  have hfind := congrArg (Table.find? · k) h.incidents
  simp only [DB.incidentsWithout, Table.find?_mapVal] at hfind
  exact hfind

theorem find?_incident {k : Int × Int} (hk : k ≠ (e, n)) :
    db'.incident.find? k = db.incident.find? k := by
  have hmap := h.find?_incident_map k
  simp only [if_neg hk, Option.map_id'] at hmap
  exact hmap

theorem find?_hidden : (db'.incident.find? (e, n)).map Incident.withoutContent =
    (db.incident.find? (e, n)).map Incident.withoutContent := by
  have hmap := h.find?_incident_map (e, n)
  simp only [if_true] at hmap
  exact hmap

/-- What is read off an incident is the same, where of that one it is not its content. -/
theorem map_incident {α : Type} (k : Int × Int) {f : Incident → α} (hf : k = (e, n) → ∀ i,
      db.incident.find? k = some i ∨ db'.incident.find? k = some i → f i.withoutContent = f i) :
    (db'.incident.find? k).map f = (db.incident.find? k).map f := by
  by_cases hk : k = (e, n)
  · subst hk
    have hmap := congrArg (Option.map f) h.find?_hidden
    rw [Option.map_map, Option.map_map] at hmap
    have hdrop : ∀ o : Option Incident, (∀ i, o = some i → f i.withoutContent = f i) →
        o.map (f ∘ Incident.withoutContent) = o.map f :=
      fun o ho => Option.map_congr fun i hi => ho i hi
    rwa [hdrop _ fun i hi => hf rfl i (.inr hi), hdrop _ fun i hi => hf rfl i (.inl hi)] at hmap
  · rw [h.find?_incident hk]

theorem contains_incident (k : Int × Int) : db'.incident.contains k = db.incident.contains k := by
  have hmap := congrArg Option.isSome (h.map_incident k (f := fun _ => ()) fun _ _ _ => rfl)
  rwa [Option.isSome_map, Option.isSome_map] at hmap

/-- So is what is selected of the incidents, where of that one only rows that hide are looked at. -/
theorem filterMap_incident {α : Type} {f : (Int × Int) × Incident → Option α}
    (hf : ∀ i, db.incident.find? (e, n) = some i ∨ db'.incident.find? (e, n) = some i →
      f ((e, n), i.withoutContent) = f ((e, n), i)) :
    db'.incident.rows.filterMap f = db.incident.rows.filterMap f := by
  have hkeep : ∀ t : Table (Int × Int) Incident,
      (∀ i, t.find? (e, n) = some i → f ((e, n), i.withoutContent) = f ((e, n), i)) →
      (t.mapVal fun k i => if k = (e, n) then i.withoutContent else i).rows.filterMap f =
        t.rows.filterMap f := by
    intro t ht
    refine Table.filterMap_mapVal fun k v hv => ?_
    split
    · next hk =>
        subst hk
        exact ht v hv
    · rfl
  rw [← hkeep db'.incident fun i hi => hf i (.inr hi), ← hkeep db.incident fun i hi => hf i (.inl hi)]
  exact congrArg (fun t => t.rows.filterMap f) h.incidents

theorem hides (hidden : HiddenFrom db e n claims) {i : Incident}
    (hi : db.incident.find? (e, n) = some i ∨ db'.incident.find? (e, n) = some i) :
    Hides claims i.isPrivate i.createdBy := by
  rcases hi with hi | hi
  · exact hidden.hides hi
  · have hmap := h.map_incident (e, n) (f := fun i => (i.isPrivate, i.createdBy))
      fun _ _ _ => rfl
    rw [hi, Option.map_some] at hmap
    obtain ⟨i', hi', heq⟩ := Option.map_eq_some_iff.mp hmap.symm
    obtain ⟨hprivate, hcreator⟩ := Prod.mk.inj heq
    have hhides := hidden.hides hi'
    rwa [hprivate, hcreator] at hhides

/-- A rule that hides what it should leaves the same of that incident. -/
theorem map_hidden (hidden : HiddenFrom db e n claims) {α : Type} (k : Int × Int)
    {f : Incident → α} (hf : k = (e, n) → ∀ i, Hides claims i.isPrivate i.createdBy →
      f i.withoutContent = f i) :
    (db'.incident.find? k).map f = (db.incident.find? k).map f := by
  refine h.map_incident k fun hk i hi => hf hk i ?_
  subst hk
  exact h.hides hidden hi

theorem hasGrant : db'.hasGrant = db.hasGrant := by
  rw [h.rest]
  rfl

theorem incidentRow : db'.incidentRow = db.incidentRow := by
  rw [h.rest]
  rfl

/-! ## Rows of journals -/

theorem isEntryOf (entry : Int) : db'.isEntryOf e n entry = db.isEntryOf e n entry := by
  rw [h.rest]
  rfl

theorem find?_entry {entry : Int} (hentry : db.isEntryOf e n entry = false) :
    db'.journalEntry.find? entry = db.journalEntry.find? entry := by
  have hfind := congrArg (Table.find? · entry) h.entries
  simp only [DB.entriesWithout, Table.find?_mapVal, h.isEntryOf, hentry, Bool.false_eq_true,
    if_false, Option.map_id'] at hfind
  exact hfind

theorem person : db'.person = db.person := by
  rw [h.rest]

theorem journalEntryRow {entry : Int} (hentry : db.isEntryOf e n entry = false) (record : Int) :
    db'.journalEntryRow record entry = db.journalEntryRow record entry := by
  simp only [DB.journalEntryRow, DB.handleOf, DB.nameOf, h.find?_entry hentry, h.person]

end SameButContent

/-- An entry that is linked to another incident is none of this one's own. -/
theorem isEntryOf_eq_false_of_incident {k : Int × Int} (hk : k ≠ (e, n)) {entry : Int}
    (hlink : ((k.1, k.2, entry), ()) ∈ db.incidentJournalEntry.rows) :
    db.isEntryOf e n entry = false := by
  have hall : (db.incidentJournalEntry.rows.all fun r =>
      r.1.2.2 != entry || r.1.1 == e && r.1.2.1 == n) = false := by
    refine List.all_eq_false.mpr ⟨_, hlink, ?_⟩
    intro hown
    simp only [bne_self_eq_false, Bool.false_or, Bool.and_eq_true, beq_iff_eq] at hown
    exact hk (Prod.ext hown.1 hown.2)
  rw [DB.isEntryOf, hall, Bool.and_false, Bool.false_and]

/-- Nor is one that is linked to a report. -/
theorem isEntryOf_eq_false_of_report {e' n' entry : Int}
    (hlink : ((e', n', entry), ()) ∈ db.reportJournalEntry.rows) :
    db.isEntryOf e n entry = false := by
  have hall : (db.reportJournalEntry.rows.all fun r => r.1.2.2 != entry) = false := by
    refine List.all_eq_false.mpr ⟨_, hlink, ?_⟩
    simp
  rw [DB.isEntryOf, hall, Bool.and_false]

namespace SameButContent

variable (h : SameButContent e n db db')

include h

/-! ## What the queries answer -/

theorem eval_incident {k : Int × Int} (hk : k ≠ (e, n)) :
    (Read.incident k.1 k.2).eval db = (Read.incident k.1 k.2).eval db' := by
  rw [Read.eval, Read.eval, h.find?_incident hk, h.incidentRow]

theorem eval_incidentJournalEntries {k : Int × Int} (hk : k ≠ (e, n)) :
    (Read.incidentJournalEntries k.1 k.2).eval db =
      (Read.incidentJournalEntries k.1 k.2).eval db' := by
  have hlinks : db'.incidentEntriesOf k.1 k.2 = db.incidentEntriesOf k.1 k.2 := by
    rw [h.rest]
    rfl
  rw [Read.eval, Read.eval, hlinks]
  refine congrArg Except.ok (List.filterMap_congr fun entry hentry => ?_)
  obtain ⟨⟨⟨e', n', j⟩, ⟨⟩⟩, hr, hsel⟩ := List.mem_filterMap.mp hentry
  obtain ⟨⟨he, hn⟩, hj⟩ := Option.ite_none_right_eq_some.mp hsel
  simp only [Option.some.injEq] at he hn hj
  subst he hn hj
  exact (h.journalEntryRow (isEntryOf_eq_false_of_incident hk hr) _).symm

theorem eval_reportJournalEntries (e' n' : Int) :
    (Read.reportJournalEntries e' n').eval db = (Read.reportJournalEntries e' n').eval db' := by
  have hlinks : db'.reportEntriesOf e' n' = db.reportEntriesOf e' n' := by
    rw [h.rest]
    rfl
  rw [Read.eval, Read.eval, hlinks]
  refine congrArg Except.ok (List.filterMap_congr fun entry hentry => ?_)
  obtain ⟨⟨⟨e'', n'', j⟩, ⟨⟩⟩, hr, hsel⟩ := List.mem_filterMap.mp hentry
  obtain ⟨-, hj⟩ := Option.ite_none_right_eq_some.mp hsel
  simp only [Option.some.injEq] at hj
  subst hj
  exact (h.journalEntryRow (isEntryOf_eq_false_of_report hr) _).symm

theorem eval_reportsJournalEntries (e' : Int) (g : Bool) :
    (Read.reportsJournalEntries e' g).eval db = (Read.reportsJournalEntries e' g).eval db' := by
  have hlinks : db'.reportJournalEntry = db.reportJournalEntry := by rw [h.rest]
  rw [Read.eval, Read.eval, hlinks]
  refine congrArg (fun rows => Except.ok (List.filter (DB.generatedUpTo g) rows)) ?_
  refine List.filterMap_congr fun r hr => ?_
  obtain ⟨⟨e'', n'', j⟩, ⟨⟩⟩ := r
  simp only [h.journalEntryRow (isEntryOf_eq_false_of_report hr)]

/-- Of an event's journals those of other incidents are the same. -/
theorem incidentsJournalEntries {k : Int × Int} (hk : k ≠ (e, n)) (g : Bool) :
    ((db'.incidentJournalEntry.rows.filterMap fun r =>
        if r.1.1 = k.1 then db'.journalEntryRow r.1.2.1 r.1.2.2 else none).filter
          (DB.generatedUpTo g)).filter (fun r => r.recordNumber = k.2) =
      ((db.incidentJournalEntry.rows.filterMap fun r =>
        if r.1.1 = k.1 then db.journalEntryRow r.1.2.1 r.1.2.2 else none).filter
          (DB.generatedUpTo g)).filter fun r => r.recordNumber = k.2 := by
  have hswap := fun rows : List JournalEntryRow =>
    List.filter_comm (fun r => decide (r.recordNumber = k.2)) (DB.generatedUpTo g) rows
  have hlinks : db'.incidentJournalEntry = db.incidentJournalEntry := by rw [h.rest]
  rw [hlinks, hswap, hswap]
  refine congrArg (List.filter (DB.generatedUpTo g)) ?_
  rw [List.filter_filterMap, List.filter_filterMap]
  refine List.filterMap_congr fun r hr => ?_
  obtain ⟨⟨e', n', j⟩, ⟨⟩⟩ := r
  by_cases he : e' = k.1
  · subst he
    by_cases hn : n' = k.2
    · subst hn
      simp only [h.journalEntryRow (isEntryOf_eq_false_of_incident hk hr)]
    · have hother : ∀ db : DB, (db.journalEntryRow n' j).filter
          (fun r => decide (r.recordNumber = k.2)) = none := by
        intro db
        refine Option.filter_eq_none_iff.mpr fun row hrow => ?_
        obtain ⟨je, -, hrow⟩ := Option.bind_eq_some_iff.mp hrow
        obtain ⟨author, -, hrow⟩ := Option.bind_eq_some_iff.mp hrow
        cases hrow
        simpa using hn
      simp only [if_true, hother]
  · simp only [if_neg he]

/-- Of an event's incidents the rows that are kept are the same, where that one is not. -/
theorem visibleIncidents (hidden : HiddenFrom db e n claims) (e' : Int) {visible : IncidentRow → Bool}
    (hvisible : e' = e → ∀ row, row.number = n →
      Hides claims row.incident.isPrivate row.incident.createdBy → visible row = false) :
    (db'.incident.rows.filterMap fun r =>
        if r.1.1 = e' then some (db'.incidentRow e' r.1.2 r.2) else none).filter visible =
      (db.incident.rows.filterMap fun r =>
        if r.1.1 = e' then some (db.incidentRow e' r.1.2 r.2) else none).filter visible := by
  rw [List.filter_filterMap, List.filter_filterMap, h.incidentRow]
  refine h.filterMap_incident fun i hi => ?_
  by_cases he : e = e'
  · subst he
    have hhides := h.hides hidden hi
    simp only [if_true, Option.filter_some, hvisible rfl (db.incidentRow e n i) rfl hhides,
      hvisible rfl (db.incidentRow e n i.withoutContent) rfl hhides, Bool.false_eq_true, if_false]
  · simp only [if_neg he]

theorem incidentPersonRow (ip : IncidentPerson) :
    db'.incidentPersonRow ip = db.incidentPersonRow ip := by
  have hperson : db'.person = db.person := h.person
  have haccess : ∀ p i, db'.hasEventAccess ip p i = db.hasEventAccess ip p i := by
    rw [h.rest]
    exact fun _ _ => rfl
  have hrow := fun p : Person => h.map_incident (ip.event, ip.incidentNumber)
    (f := fun i => (⟨ip, p.handle, p.name, db.hasEventAccess ip p i⟩ : IncidentPersonRow))
    fun _ _ _ => rfl
  simp only [DB.incidentPersonRow, hperson, haccess]
  refine Option.bind_congr fun p _ => ?_
  have hp := hrow p
  rwa [Option.map_eq_bind, Option.map_eq_bind] at hp

theorem eval_incidentPeople (e' n' : Int) :
    (Read.incidentPeople e' n').eval db = (Read.incidentPeople e' n').eval db' := by
  have hpeople : db'.incidentPerson = db.incidentPerson := by rw [h.rest]
  simp only [Read.eval, hpeople, h.incidentPersonRow]

theorem eval_incidentsPeople (e' : Int) :
    (Read.incidentsPeople e').eval db = (Read.incidentsPeople e').eval db' := by
  have hpeople : db'.incidentPerson = db.incidentPerson := by rw [h.rest]
  simp only [Read.eval, hpeople, h.incidentPersonRow]

/-- Of a linked incident the redaction leaves the same. -/
theorem linkedIncidents (hidden : HiddenFrom db e n claims) (e' n' : Int) (masks : EventMasks) :
    ((db'.linksOf e' n').filterMap fun l => db'.linkedIncidentRow l.1 l.2).map
        (redactLinkedIncident masks claims) =
      ((db.linksOf e' n').filterMap fun l => db.linkedIncidentRow l.1 l.2).map
        (redactLinkedIncident masks claims) := by
  have hlinks : db'.linksOf e' n' = db.linksOf e' n' := by
    rw [h.rest]
    rfl
  rw [hlinks, List.map_filterMap, List.map_filterMap]
  refine List.filterMap_congr fun l _ => ?_
  have hrow : ∀ db : DB, (db.linkedIncidentRow l.1 l.2).map (redactLinkedIncident masks claims) =
      (db.event.find? l.1).bind fun ev => (db.incident.find? l).map fun i =>
        redactLinkedIncident masks claims
          ⟨l.1, ev.name, l.2, i.summary, i.isPrivate, i.createdBy⟩ := by
    intro db
    rw [DB.linkedIncidentRow, Option.bind_eq_bind, Option.map_bind]
    refine congrArg _ (funext fun ev => ?_)
    rw [Function.comp_apply, Option.bind_eq_bind, Option.map_bind, Option.map_eq_bind]
    rfl
  rw [hrow, hrow, h.gates.event]
  refine congrArg _ (funext fun ev => h.map_hidden hidden l fun _ i hides => ?_)
  have hhidden : (i.isPrivate && !claims.admin && !(i.createdBy == some claims.personID)) = true := by
    rw [hides.isPrivate, hides.admin, hides.creator]
    rfl
  simp only [redactLinkedIncident, Incident.withoutContent, hhidden, Bool.or_true, if_true]

/-- So does the rule of the bell. -/
theorem notification (hidden : HiddenFrom db e n claims) {id : Int} {m : Notification}
    (hmine : m.recipientPersonID = claims.personID) :
    notificationToJSON (db'.notificationRow id m) claims.personID claims.admin =
      notificationToJSON (db.notificationRow id m) claims.personID claims.admin := by
  let shown := fun (k : Int × Int) (i : Incident) =>
    if i.isPrivate && !claims.admin && !(i.createdBy == some claims.personID) &&
      !db.hasGrant k.1 k.2 claims.personID then "" else i.summary.getD ""
  have hsummary : ∀ db₁ : DB, db₁.hasGrant = db.hasGrant →
      notificationSummary (db₁.notificationRow id m) claims.personID claims.admin =
        (m.incidentNumber.bind fun number =>
          (db₁.incident.find? (m.event, number)).map (shown (m.event, number))).getD "" := by
    intro db₁ hgrant
    rw [notificationSummary]
    simp only [DB.notificationRow, hgrant, hmine]
    cases m.incidentNumber with
    | none => rfl
    | some number =>
        simp only [Option.bind_some, Option.any_some]
        cases db₁.incident.find? (m.event, number) with
        | none => rfl
        | some i => cases hprivate : i.isPrivate <;> simp [shown, hprivate]
  have hshown : (m.incidentNumber.bind fun number =>
      (db'.incident.find? (m.event, number)).map (shown (m.event, number))) =
        m.incidentNumber.bind fun number =>
          (db.incident.find? (m.event, number)).map (shown (m.event, number)) := by
    refine congrArg _ (funext fun number => h.map_hidden hidden _ fun hk i hides => ?_)
    have hgrant : db.hasGrant m.event number claims.personID = false := by
      rw [(Prod.mk.inj hk).1, (Prod.mk.inj hk).2]
      exact hidden.grant
    simp only [shown, Incident.withoutContent, hides.isPrivate, hides.admin, hides.creator, hgrant,
      Bool.not_false, Bool.and_true, if_true]
  have hrow : notificationToJSON (db'.notificationRow id m) claims.personID claims.admin =
      { notificationToJSON (db.notificationRow id m) claims.personID claims.admin with
        incidentSummary := notificationSummary (db'.notificationRow id m) claims.personID
          claims.admin } := by
    rw [h.rest]
    rfl
  rw [hrow, hsummary db' h.hasGrant, hshown, ← hsummary db rfl]
  rfl

end SameButContent

/-- A row of the dashboard without the summary it may not show. -/
def MetricsIncidentsRow.shown (row : MetricsIncidentsRow) : MetricsIncidentsRow :=
  { row with summary := if row.isPrivate then none else row.summary }

/-- Rows are put in order by a column that stays. -/
theorem metricsIncidents_map_shown (db : DB) (e : Int) :
    (db.metricsIncidents e).map MetricsIncidentsRow.shown =
      (db.incident.rows.filterMap fun r =>
        if r.1.1 = e then some (db.metricsIncidentsRow r.1.2 r.2).shown else none).insertionSort
          fun a b => a.number ≤ b.number := by
  let before := fun a b : MetricsIncidentsRow => a.number ≤ b.number
  have hsort := fun l => List.map_insertionSort before before MetricsIncidentsRow.shown l
    fun a _ b _ => Iff.rfl
  refine (hsort _).trans ?_
  rw [List.map_filterMap]
  refine congrArg _ (List.filterMap_congr fun r _ => ?_)
  split <;> rfl

theorem SameButContent.metricsIncidents (h : SameButContent e n db db')
    (hidden : HiddenFrom db e n claims) (e' : Int) :
    (db'.metricsIncidents e').map MetricsIncidentsRow.shown =
      (db.metricsIncidents e').map MetricsIncidentsRow.shown := by
  have houtcome : db'.metricsIncidentsRow = db.metricsIncidentsRow := by
    rw [h.rest]
    rfl
  rw [metricsIncidents_map_shown, metricsIncidents_map_shown, houtcome]
  refine congrArg _ (h.filterMap_incident fun i hi => ?_)
  have hprivate : i.isPrivate = true := (h.hides hidden hi).isPrivate
  simp only [DB.metricsIncidentsRow, MetricsIncidentsRow.shown, Incident.withoutContent, hprivate,
    if_true]

theorem tallyIncident_shown (localDay : Int → String) (t : MetricsTally)
    (row : MetricsIncidentsRow) : tallyIncident localDay t row.shown =
      tallyIncident localDay t row := by
  cases hprivate : row.isPrivate <;>
    simp [tallyIncident, needsFollowUp, MetricsIncidentsRow.shown, hprivate]

/-- The aggregate is made of what may be shown. -/
theorem buildMetrics_shown (localDay : Int → String) (event : EventRow)
    (incidents : List MetricsIncidentsRow)
    (byCategory : List (GroupCount (Option IncidentTypeGroup))) (byType : List (GroupCount TypeKey))
    (byArea : List (GroupCount AreaKey)) (byRole : List (GroupCount ParticipationType)) :
    buildMetrics localDay event (incidents.map MetricsIncidentsRow.shown) byCategory byType byArea
        byRole = buildMetrics localDay event incidents byCategory byType byArea byRole := by
  have hloop : (incidents.map MetricsIncidentsRow.shown).foldl (tallyIncident localDay) {} =
      incidents.foldl (tallyIncident localDay) {} := by
    rw [List.foldl_map]
    simp only [tallyIncident_shown]
  simp only [buildMetrics, hloop, List.length_map]

namespace SameButContent

variable (h : SameButContent e n db db')

include h

theorem typedIncidents {κ : Type} (e' : Int) (f : Int → String → κ) :
    db'.typedIncidents e' f = db.typedIncidents e' f := by
  have hlinks : db'.incidentIncidentType = db.incidentIncidentType := by rw [h.rest]
  have htypes : db'.incidentType = db.incidentType := by rw [h.rest]
  simp only [DB.typedIncidents, hlinks, htypes, h.contains_incident]

/-- Nothing else the dashboard counts is content. -/
theorem metricsByArea (c : MetricsColumns) (e' : Int) :
    db'.metricsByArea c e' = db.metricsByArea c e' := by
  have harea : db'.area = db.area := by rw [h.rest]
  rw [DB.metricsByArea, DB.metricsByArea, harea]
  refine congrArg (fun keys => (DB.groupCounts keys).insertionSort _) ?_
  exact h.filterMap_incident fun i _ => rfl

end SameButContent

/-! ## The reads, twice -/

section Reads

variable {s : Service} {ε α : Type} {E : ε → Prop}

theorem same_requireReportReadable (h : SameButContent e n db db') (e' n' : Int) (report : Report)
    (entries : List JournalEntryJSON) (perms : EventPermissionMask) :
    (requireReportReadable e' n' report entries perms claims).Every anyAnswer
      (readsSame imsDB db db') (fun _ => True) fun _ => True := by
  refine Call.every_ite (fun _ => Call.every_pure trivial) fun _ => ?_
  refine Call.every_bind (Q := fun _ => True) (Call.every_mapErr ?_) fun _ _ =>
    Call.every_ensure (fun _ => trivial) fun _ => trivial
  refine Call.every_ite (fun _ => Call.every_pure trivial) fun _ => ?_
  refine Call.every_ite (fun _ => ?_) fun _ => Call.every_pure trivial
  exact Call.every_bind (same_select (h.eval_eq fun _ _ => rfl)) fun _ _ =>
    Call.every_pure trivial

theorem same_fetchReport (h : SameButContent e n db db') (attachmentsEnabled : Bool) (e' n' : Int) :
    (fetchReport s attachmentsEnabled e' n').Every anyAnswer (readsSame imsDB db db')
      (fun _ => True) fun _ => True := by
  refine Call.every_bind (same_select (h.eval_eq fun _ _ => rfl)) fun row _ => ?_
  refine Call.every_bind (same_select (h.eval_reportJournalEntries e' n')) fun entryRows _ => ?_
  exact Call.every_bind (same_select (h.eval_eq fun _ _ => rfl)) fun mentionRows _ =>
    Call.every_pure trivial

theorem same_permissionsAt (h : SameGates db db') (e' : Int) (claims : IMSClaims) :
    (permissionsAt e' claims).Every anyAnswer (readsSame imsDB db db') (fun _ => True)
      fun _ => True := by
  refine Call.every_bind (Q := fun _ => True) (Call.every_mapErr ?_) fun _ _ =>
    Call.every_pure trivial
  exact same_eventPermissions h (some e') claims

theorem same_getReport (h : SameButContent e n db db') (ctx : Option IMSClaims)
    (req : GetReportRequest) : (getReport s ctx req).Every anyAnswer (readsSame imsDB db db')
      (fun _ => True) fun _ => True := by
  refine Call.every_bind (same_authenticated ctx) fun claims _ => ?_
  refine Call.every_bind (same_fetchEvent h.gates _) fun event _ => ?_
  refine Call.every_bind (same_permissionsAt h.gates _ _) fun perms _ => ?_
  refine Call.every_bind (Q := fun _ => True) (Call.every_ensure (fun _ => trivial)
    fun _ => trivial) fun _ _ => ?_
  refine Call.every_bind (Q := fun _ => True) (Call.every_mapErr (same_fetchReport h _ _ _))
    fun fetched _ => ?_
  exact Call.every_bind (same_requireReportReadable h _ _ _ _ _) fun _ _ => Call.every_pure trivial

theorem same_listReports (h : SameButContent e n db db') (ctx : Option IMSClaims)
    (req : ListReportsRequest) : (listReports s ctx req).Every anyAnswer (readsSame imsDB db db')
      (fun _ => True) fun _ => True := by
  refine Call.every_bind (same_authenticated ctx) fun claims _ => ?_
  refine Call.every_bind (same_fetchEvent h.gates _) fun event _ => ?_
  refine Call.every_bind (same_permissionsAt h.gates _ _) fun perms _ => ?_
  refine Call.every_bind (Q := fun _ => True) (Call.every_ensure (fun _ => trivial)
    fun _ => trivial) fun _ _ => ?_
  refine Call.every_bind (same_select (h.eval_reportsJournalEntries _ _)) fun entryRows _ => ?_
  refine Call.every_bind (same_select (h.eval_eq fun _ _ => rfl)) fun stored _ => ?_
  refine Call.every_bind (Q := fun _ => True) ?_ fun rows _ => Call.every_pure trivial
  refine Call.every_ite (fun _ => Call.every_pure trivial) fun _ => ?_
  refine Call.every_bind (Q := fun _ => True) (Call.every_mapErr ?_) fun _ _ =>
    Call.every_pure trivial
  exact Call.every_ite (fun _ => same_select (h.eval_eq fun _ _ => rfl)) fun _ =>
    Call.every_pure trivial

/-- The two runs of a read of the services answer the same. -/
abbrev SameAnswer (env : ImsEnv) (db db' : DB) (x : Go ε α) : Prop :=
  Call.Twin imsDB env env db db' x x Eq

variable {env : ImsEnv}

theorem sameAnswer_of_every {x : Go ε α} {Q : α → Prop}
    (hx : x.Every anyAnswer (readsSame imsDB db db') E Q) : SameAnswer env db db' x :=
  Call.twin_of_every (fun _ => rfl) hx

theorem SameAnswer.bind {β : Type} {x : Go ε α} {f : α → Go ε β} (hx : SameAnswer env db db' x)
    (hf : ∀ a, SameAnswer env db db' (f a)) : SameAnswer env db db' (x >>= f) :=
  Call.Twin.bind hx fun a _ hab => hab ▸ hf a

/-- A query that is answered alike. -/
theorem twin_select {q : Read α} {R : α → α → Prop} (err : SqlErr → ε)
    (h : EndAlike R (q.eval db) (q.eval db')) :
    Call.Twin imsDB env env db db' (select .pool q err) (select .pool q err) R :=
  Call.Twin.mapErr err (Call.twin_read (fun _ => rfl) h)

/-! ## GetIncident -/

theorem twin_checkGrant (h : SameButContent e n db db') (hidden : HiddenFrom db e n claims)
    (k : Int × Int) : Call.Twin imsDB env env db db' (checkGrant k.1 k.2 claims.personID)
      (checkGrant k.1 k.2 claims.personID) fun a b => a = b ∧ (k = (e, n) → a = false) := by
  refine twin_select _ (.ok ⟨by rw [h.hasGrant], ?_⟩)
  rintro rfl
  exact hidden.grant

theorem twin_requireReadOrGrant (h : SameButContent e n db db') (hidden : HiddenFrom db e n claims)
    (hasEventRead : Bool) (k : Int × Int) :
    Call.Twin imsDB env env db db' (requireReadOrGrant hasEventRead k.1 k.2 claims.personID)
      (requireReadOrGrant hasEventRead k.1 k.2 claims.personID)
      fun a b => a = b ∧ (k = (e, n) → a = false) := by
  refine Call.twin_ite Iff.rfl (fun _ => Call.twin_pure ⟨rfl, fun _ => rfl⟩) fun _ => ?_
  refine Call.Twin.bind (twin_checkGrant h hidden k) fun a _ hab => ?_
  obtain ⟨rfl, hgrant⟩ := hab
  exact Call.Twin.bind (Call.twin_ensure rfl _) fun _ _ _ => Call.twin_pure ⟨rfl, hgrant⟩

theorem twin_assembleIncidentView (h : SameButContent e n db db')
    (hidden : HiddenFrom db e n claims) (event : EventRow) (n' : Int) (perms : EventPermissionMask)
    (row : IncidentRow) (entries : List JournalEntryJSON) (hasGrant : Bool) :
    SameAnswer env db db' (assembleIncidentView event n' perms claims row entries hasGrant) := by
  have hmasks : (permissionsByEvent claims).Every anyAnswer (readsSame imsDB db db')
      (fun _ => True) fun _ => True := by
    refine Call.every_ite (fun _ => ?_) fun _ => ?_ <;>
    · exact Call.every_bind (same_select (h.eval_eq fun _ _ => rfl)) fun _ _ =>
        Call.every_pure trivial
  refine SameAnswer.bind ((sameAnswer_of_every hmasks).mapErr _) fun masks => ?_
  refine SameAnswer.bind (sameAnswer_of_every (same_select (h.eval_incidentPeople _ _)))
    fun peopleRows => ?_
  refine SameAnswer.bind (sameAnswer_of_every (same_select (h.eval_eq fun _ _ => rfl))) fun linkedReports => ?_
  refine Call.Twin.bind (R := fun linked linked' => linked'.map (redactLinkedIncident masks claims) =
    linked.map (redactLinkedIncident masks claims))
    (twin_select _ (.ok (h.linkedIncidents hidden event.id n' masks)))
    fun linked linked' hlinked => Call.twin_pure ?_
  simp only [hlinked]

/-- Another incident is fetched the same. -/
theorem same_fetchIncident (h : SameButContent e n db db') {k : Int × Int} (hk : k ≠ (e, n)) :
    (fetchIncident s k.1 k.2).Every anyAnswer (readsSame imsDB db db') (fun _ => True)
      fun _ => True := by
  refine Call.every_bind (same_select (h.eval_incident hk)) fun row _ => ?_
  refine Call.every_bind (same_select (h.eval_incidentJournalEntries hk)) fun entryRows _ => ?_
  exact Call.every_bind (same_select (h.eval_eq fun _ _ => rfl)) fun mentionRows _ =>
    Call.every_pure trivial

theorem same_requirePrivateAccess (h : SameButContent e n db db') (row : IncidentRow)
    (hasGrant : Bool) (claims : IMSClaims) : (requirePrivateAccess row hasGrant claims).Every
      anyAnswer (readsSame imsDB db db') (fun _ => True) fun _ => True := by
  refine Call.every_ite (fun _ => ?_) fun _ => Call.every_pure trivial
  refine Call.every_bind (same_select (h.eval_eq fun _ _ => rfl)) fun _ _ => ?_
  exact Call.every_bind (Q := fun _ => True) (Call.every_ensure (fun _ => trivial) fun _ => trivial)
    fun _ _ => Call.every_pure trivial

/-- The row is of the incident nobody but its own people see. -/
def IncidentRow.Hidden (e n : Int) (claims : IMSClaims) (row : IncidentRow) : Prop :=
  row.event = e ∧ row.number = n ∧ Hides claims row.incident.isPrivate row.incident.createdBy

theorem twin_fetchIncident (h : SameButContent e n db db') (hidden : HiddenFrom db e n claims) :
    Call.Twin imsDB env env db db' (fetchIncident s e n) (fetchIncident s e n)
      fun a b => a.1.Hidden e n claims ∧ b.1.Hidden e n claims := by
  have hrow : EndAlike (fun a b : IncidentRow => a.Hidden e n claims ∧ b.Hidden e n claims)
      ((Read.incident e n).eval db) ((Read.incident e n).eval db') := by
    obtain ⟨i, hi, -⟩ := id hidden
    have hcontains : db'.incident.contains (e, n) = true := by
      rw [h.contains_incident]
      exact Table.contains_iff.mpr ⟨i, hi⟩
    obtain ⟨i', hi'⟩ := Table.contains_iff.mp hcontains
    rw [Read.eval, Read.eval, hi, hi']
    exact .ok ⟨⟨rfl, rfl, h.hides hidden (.inl hi)⟩, rfl, rfl, h.hides hidden (.inr hi')⟩
  refine Call.Twin.bind (twin_select _ hrow) fun row row' hrows => ?_
  refine Call.Twin.bind (twin_select (R := fun _ _ => True) _ (.ok trivial)) fun _ _ _ => ?_
  refine Call.Twin.bind (twin_select (R := fun _ _ => True) _ (.ok trivial)) fun _ _ _ => ?_
  exact Call.twin_pure hrows

/-- The incident itself is not found. -/
theorem twin_requirePrivateAccess (h : SameButContent e n db db')
    (hidden : HiddenFrom db e n claims) {row row' : IncidentRow} (hrow : row.Hidden e n claims)
    (hrow' : row'.Hidden e n claims) :
    Call.Twin imsDB env env db db' (requirePrivateAccess row false claims)
      (requirePrivateAccess row' false claims) fun _ _ => False := by
  have hasked : ∀ row : IncidentRow, row.Hidden e n claims →
      requirePrivateAccess row false claims = checkGrant e n claims.personID >>= fun hasGrant =>
        Call.ensure hasGrant ⟨.notFound, "incident not found"⟩ >>= fun _ => pure hasGrant := by
    rintro row ⟨rfl, rfl, hides⟩
    rw [requirePrivateAccess, hides.isPrivate, hides.admin, hides.creator]
    rfl
  rw [hasked row hrow, hasked row' hrow']
  refine Call.Twin.bind (twin_checkGrant h hidden (e, n)) fun a _ hab => ?_
  obtain ⟨rfl, hgrant⟩ := hab
  refine Call.Twin.bind (Call.twin_ensure rfl _) fun _ _ htrue => ?_
  rw [hgrant rfl] at htrue
  exact absurd htrue Bool.false_ne_true

theorem twin_viewIncident (h : SameButContent e n db db') (hidden : HiddenFrom db e n claims)
    (event : EventRow) (n' : Int) (perms : EventPermissionMask) {granted : Bool}
    (hgranted : (event.id, n') = (e, n) → granted = false) :
    SameAnswer env db db' (viewIncident s event n' perms claims granted) := by
  by_cases hk : (event.id, n') = (e, n)
  · obtain ⟨he, hn⟩ := Prod.mk.inj hk
    subst he hn
    rw [hgranted hk]
    refine Call.Twin.bind ((twin_fetchIncident h hidden).mapErr _) fun a b hab => ?_
    exact Call.Twin.bind (twin_requirePrivateAccess h hidden hab.1 hab.2) fun _ _ hf => hf.elim
  · have hfetch : SameAnswer env db db' (fetchIncident s event.id n') :=
      sameAnswer_of_every (same_fetchIncident h hk)
    refine SameAnswer.bind (hfetch.mapErr _) fun fetched => ?_
    exact SameAnswer.bind (sameAnswer_of_every (same_requirePrivateAccess h _ _ _))
      fun hasGrant => twin_assembleIncidentView h hidden event n' perms _ _ hasGrant

theorem twin_getIncident (h : SameButContent e n db db') (hidden : HiddenFrom db e n claims)
    (req : GetIncidentRequest) : SameAnswer env db db' (getIncident s (some claims) req) := by
  refine Call.Twin.bind (Call.twin_pure (R := fun a b => claims = a ∧ claims = b) ⟨rfl, rfl⟩)
    fun a b hab => ?_
  obtain ⟨rfl, rfl⟩ := hab
  refine SameAnswer.bind (sameAnswer_of_every (same_fetchEvent h.gates _)) fun event => ?_
  refine SameAnswer.bind (sameAnswer_of_every (same_permissionsAt h.gates _ _)) fun perms => ?_
  refine Call.Twin.bind (twin_requireReadOrGrant h hidden _ (event.id, req.incidentNumber))
    fun granted _ hab => ?_
  obtain ⟨rfl, hgranted⟩ := hab
  exact twin_viewIncident h hidden event req.incidentNumber perms hgranted

/-! ## ListIncidents -/

theorem twin_listGrants (h : SameButContent e n db db') (hidden : HiddenFrom db e n claims)
    (hasEventRead : Bool) (e' : Int) :
    Call.Twin imsDB env env db db' (listGrants hasEventRead e' claims)
      (listGrants hasEventRead e' claims) fun a b => a = b ∧ (e' = e → a.contains n = false) := by
  refine Call.twin_ite Iff.rfl (fun hadmin => ?_) fun _ => ?_
  · rw [hidden.admin] at hadmin
    exact absurd hadmin Bool.false_ne_true
  have hgrants : EndAlike (fun a b : List Int => a = b ∧ (e' = e → a.contains n = false))
      ((Read.grantedIncidentNumbersForPerson e' claims.personID).eval db)
      ((Read.grantedIncidentNumbersForPerson e' claims.personID).eval db') := by
    have hpeople : db'.incidentPerson = db.incidentPerson := by rw [h.rest]
    refine .ok ⟨by rw [hpeople], ?_⟩
    rintro rfl
    refine Bool.eq_false_iff.mpr fun hmem => ?_
    rw [List.contains_iff_mem, List.mem_dedup] at hmem
    obtain ⟨r, hr, hsel⟩ := List.mem_filterMap.mp hmem
    obtain ⟨⟨he, hp, hg⟩, hn⟩ := Option.ite_none_right_eq_some.mp hsel
    have hgrant : db.hasGrant e' n claims.personID = true := by
      refine List.any_eq_true.mpr ⟨r, hr, ?_⟩
      simp [he, hp, hg, Option.some.inj hn]
    rw [hidden.grant] at hgrant
    cases hgrant
  refine Call.Twin.bind (twin_select _ hgrants) fun granted _ hab => ?_
  obtain ⟨rfl, hnone⟩ := hab
  exact Call.Twin.bind (Call.twin_ensure rfl _) fun _ _ _ => Call.twin_pure ⟨rfl, hnone⟩

/-- The rows the listing keeps. -/
def isListed (claims : IMSClaims) (perms : EventPermissionMask) (granted : List Int)
    (r : IncidentRow) : Bool :=
  mayViewIncident r.incident.isPrivate r.incident.createdBy claims.personID claims.admin
    (hasBit perms eventReadIncidents) (granted.contains r.number)

theorem isListed_eq_false {perms : EventPermissionMask} {granted : List Int} {r : IncidentRow}
    (hgranted : granted.contains r.number = false)
    (hides : Hides claims r.incident.isPrivate r.incident.createdBy) :
    isListed claims perms granted r = false := by
  rw [isListed, mayViewIncident, if_pos hides.isPrivate, hides.admin, hides.creator, hgranted]
  rfl

theorem twin_listIncidents (h : SameButContent e n db db') (hidden : HiddenFrom db e n claims)
    (req : ListIncidentsRequest) : SameAnswer env db db' (listIncidents s (some claims) req) := by
  refine Call.Twin.bind (Call.twin_pure (R := fun a b => claims = a ∧ claims = b) ⟨rfl, rfl⟩)
    fun a b hab => ?_
  obtain ⟨rfl, rfl⟩ := hab
  refine SameAnswer.bind (sameAnswer_of_every (same_fetchEvent h.gates _)) fun event => ?_
  refine SameAnswer.bind (sameAnswer_of_every (same_permissionsAt h.gates _ _)) fun perms => ?_
  refine Call.Twin.bind (twin_listGrants h hidden _ event.id) fun granted _ hab => ?_
  obtain ⟨rfl, hgranted⟩ := hab
  refine Call.Twin.bind (R := fun rows rows' => ∀ m, (event.id, m) ≠ (e, n) →
    rows'.filter (fun r => decide (r.recordNumber = m)) =
      rows.filter fun r => decide (r.recordNumber = m))
    (twin_select _ (.ok fun m hm => h.incidentsJournalEntries hm _)) fun entryRows entryRows' hrows => ?_
  refine Call.Twin.bind (sameAnswer_of_every (same_select (h.eval_incidentsPeople _)))
    fun peopleRows _ hpeople => ?_
  refine Call.Twin.bind (sameAnswer_of_every (same_select (h.eval_eq fun _ _ => rfl))) fun linkedReports _ hreports => ?_
  subst hpeople hreports
  refine Call.Twin.bind (R := fun rows rows' : List IncidentRow =>
      rows'.filter (isListed claims perms granted) = rows.filter (isListed claims perms granted) ∧
        ∀ r ∈ rows.filter (isListed claims perms granted), (event.id, r.number) ≠ (e, n))
    (twin_select _ (.ok ⟨?_, ?_⟩)) fun rows rows' hlisted => Call.twin_pure ?_
  · refine h.visibleIncidents hidden event.id fun he row hn hides => isListed_eq_false ?_ hides
    rw [hn]
    exact hgranted he
  · intro r hr hk
    obtain ⟨hrow, hlisted⟩ := List.mem_filter.mp hr
    obtain ⟨⟨⟨e', n'⟩, i⟩, hi, hsel⟩ := List.mem_filterMap.mp hrow
    obtain ⟨he', hrow⟩ := Option.ite_none_right_eq_some.mp hsel
    cases hrow
    cases he'
    obtain ⟨he, hn⟩ := Prod.mk.inj hk
    have hhides : Hides claims i.isPrivate i.createdBy := by
      refine hidden.hides ?_
      rw [← hk]
      exact Table.find?_eq_some_iff.mpr hi
    rw [isListed_eq_false (r := db.incidentRow event.id n' i) (hn ▸ hgranted he) hhides] at hlisted
    cases hlisted
  · have hviews : ∀ r ∈ rows.filter (isListed claims perms granted),
        entryRows'.filter (fun je => decide (je.recordNumber = r.number)) =
          entryRows.filter fun je => decide (je.recordNumber = r.number) :=
      fun r hr => hrows r.number (hlisted.2 r hr)
    change List.map _ (rows.filter (isListed claims perms granted)) =
      List.map _ (rows'.filter (isListed claims perms granted))
    rw [hlisted.1]
    refine List.map_congr_left fun r hr => ?_
    simp only [hviews r hr]

/-! ## ListNotifications -/

theorem twin_listNotifications (h : SameButContent e n db db') (hidden : HiddenFrom db e n claims) :
    SameAnswer env db db' (listNotifications (some claims)) := by
  refine Call.Twin.bind (Call.twin_pure (R := fun a b => claims = a ∧ claims = b) ⟨rfl, rfl⟩)
    fun a b hab => ?_
  obtain ⟨rfl, rfl⟩ := hab
  have hrecent : db'.recentNotifications claims.personID =
      db.recentNotifications claims.personID := by
    rw [h.rest]
    rfl
  refine Call.Twin.bind (R := fun rows rows' : List NotificationRow =>
      rows'.map (notificationToJSON · claims.personID claims.admin) =
        rows.map (notificationToJSON · claims.personID claims.admin))
    (twin_select _ (.ok ?_)) fun rows rows' hrows => ?_
  · rw [hrecent, List.map_map, List.map_map]
    refine List.map_congr_left fun r hr => ?_
    exact h.notification hidden (mem_recentNotifications hr).2
  refine Call.Twin.bind (sameAnswer_of_every (same_select (h.eval_eq fun _ _ => rfl))) fun unread _ hunread => ?_
  subst hunread
  refine Call.twin_pure ?_
  have hshown := congrArg (List.map notificationToProto) hrows
  rw [List.map_map, List.map_map] at hshown
  exact congrArg (ListNotificationsResponse.mk · unread) hshown.symm

end Reads

/-! ## GetMetrics -/

section Dashboard

variable {c : MetricsColumns} {env : MetricsEnv} {ε α : Type}

/-- The two runs of a part of the dashboard answer the same. -/
abbrev SameAggregate (c : MetricsColumns) (env : MetricsEnv) (db db' : DB) (x : MetricsGo ε α) :
    Prop :=
  Call.Twin (metricsDB c) env env db db' x x Eq

theorem SameAggregate.bind {β : Type} {x : MetricsGo ε α} {f : α → MetricsGo ε β}
    (hx : SameAggregate c env db db' x) (hf : ∀ a, SameAggregate c env db db' (f a)) :
    SameAggregate c env db db' (x >>= f) :=
  Call.Twin.bind hx fun a _ hab => hab ▸ hf a

theorem same_metricsSelect {q : MetricsRead α} (hq : q.eval c db = q.eval c db')
    (err : SqlErr → ε) : SameAggregate c env db db' (metricsSelect q err) :=
  Call.Twin.mapErr err (Call.twin_read (fun _ => rfl) (.of_eq hq))

theorem same_computeMetrics (h : SameButContent e n db db') (hidden : HiddenFrom db e n claims)
    (localDay : Int → String) (eventName : String) :
    SameAggregate c env db db' (computeMetrics localDay eventName) := by
  have hevent : SameAggregate c env db db' (getEventCtx eventName) := by
    refine Call.twin_ite Iff.rfl (fun _ => Call.twin_throw _) fun _ => same_metricsSelect ?_ _
    rw [MetricsRead.eval, MetricsRead.eval, h.gates.event]
  refine hevent.bind fun event => ?_
  have hincidents : Call.Twin (metricsDB c) env env db db'
      (metricsSelect (.metricsIncidents event.id)
        (HTTPError.internalServerError "Failed to fetch incidents"))
      (metricsSelect (.metricsIncidents event.id)
        (HTTPError.internalServerError "Failed to fetch incidents"))
      fun rows rows' => rows'.map MetricsIncidentsRow.shown = rows.map MetricsIncidentsRow.shown :=
    Call.Twin.mapErr _ (Call.twin_read (fun _ => rfl) (.ok (h.metricsIncidents hidden event.id)))
  refine Call.Twin.bind hincidents fun rows rows' hrows => ?_
  refine Call.Twin.bind (same_metricsSelect ?_ _) fun byCategory _ hcategory => ?_
  · rw [MetricsRead.eval, MetricsRead.eval, DB.metricsByCategory, DB.metricsByCategory,
      h.typedIncidents]
  refine Call.Twin.bind (same_metricsSelect ?_ _) fun byType _ htype => ?_
  · rw [MetricsRead.eval, MetricsRead.eval, DB.metricsByType, DB.metricsByType, h.typedIncidents]
  refine Call.Twin.bind (same_metricsSelect ?_ _) fun byArea _ harea => ?_
  · rw [MetricsRead.eval, MetricsRead.eval, h.metricsByArea]
  refine Call.Twin.bind (same_metricsSelect ?_ _) fun byRole _ hrole => ?_
  · rw [MetricsRead.eval, MetricsRead.eval, DB.metricsByRole, DB.metricsByRole,
      h.gates.personEvent]
  have hnow : SameAggregate c env db db' (metricsFromIms (now : Go HTTPError Int)) :=
    Call.Twin.widen (Call.twin_ask fun _ => rfl)
  refine Call.Twin.bind hnow fun now _ hnow => Call.twin_pure ?_
  subst hcategory htype harea hrole hnow
  rw [← buildMetrics_shown localDay event rows, ← buildMetrics_shown localDay event rows', hrows]

theorem same_getMetrics (h : SameButContent e n db db') (hidden : HiddenFrom db e n claims)
    (localDay : Int → String) (eventId : Int) :
    SameAggregate c env db db' (getMetrics localDay (some claims) eventId) := by
  refine Call.Twin.bind (Call.twin_pure (R := fun a b => claims = a ∧ claims = b) ⟨rfl, rfl⟩)
    fun a b hab => ?_
  obtain ⟨rfl, rfl⟩ := hab
  have hperms : SameAggregate c env db db' (metricsFromIms (permissionsAt eventId claims)) :=
    Call.Twin.widen (sameAnswer_of_every (same_permissionsAt h.gates _ _))
  refine hperms.bind fun perms => ?_
  refine Call.Twin.bind (Call.twin_ensure rfl _) fun _ _ _ => ?_
  have hevent : SameAggregate c env db db' (metricsFromIms (select .pool (.event eventId) fun err =>
      if err = .noRows then (⟨.notFound, "no such event"⟩ : ConnectError)
      else internalError "failed to look up event" err)) := by
    refine Call.Twin.widen (sameAnswer_of_every (same_select ?_))
    rw [Read.eval, Read.eval, h.gates.event]
  refine hevent.bind fun ev => ?_
  have hcached : SameAggregate c env db db' (cachedMetrics localDay ev.event.name) := by
    refine Call.Twin.bind (Call.twin_ask (R := Eq) fun _ => rfl) fun found _ hfound => ?_
    subst hfound
    cases found with
    | some metrics => exact Call.twin_pure rfl
    | none =>
        refine (same_computeMetrics h hidden localDay _).bind fun metrics => ?_
        exact Call.Twin.bind (Call.twin_emit _) fun _ _ _ => Call.twin_pure rfl
  exact SameAggregate.bind (hcached.mapErr _) fun metrics => Call.twin_pure rfl

end Dashboard

/-! ## The reads -/

/-- The reads that show incidents or copy from them. -/
inductive IncidentsRead : Type → Type
  | getIncident (req : GetIncidentRequest) : IncidentsRead IncidentView
  | listIncidents (req : ListIncidentsRequest) : IncidentsRead (List IncidentView)
  | getReport (req : GetReportRequest) : IncidentsRead ReportView
  | listReports (req : ListReportsRequest) : IncidentsRead (List ReportView)
  | listNotifications : IncidentsRead ListNotificationsResponse
  | getMetrics (eventId : Int) : IncidentsRead MetricsMsg

def IncidentsRead.call (s : Service) (localDay : Int → String) (ctx : Option IMSClaims) :
    {α : Type} → IncidentsRead α → MetricsGo ConnectError α
  | _, .getIncident req => metricsFromIms (OcfIms.getIncident s ctx req)
  | _, .listIncidents req => metricsFromIms (OcfIms.listIncidents s ctx req)
  | _, .getReport req => metricsFromIms (OcfIms.getReport s ctx req)
  | _, .listReports req => metricsFromIms (OcfIms.listReports s ctx req)
  | _, .listNotifications => metricsFromIms (OcfIms.listNotifications ctx)
  | _, .getMetrics eventId => OcfIms.getMetrics localDay ctx eventId

/-- **Private content does not show.** Whoever may not view a private incident is answered the same
by every read, whatever the incident's content. -/
theorem content_hidden (s : Service) (localDay : Int → String) (c : MetricsColumns)
    (env : MetricsEnv) (ctx : Option IMSClaims) {α : Type} (read : IncidentsRead α) (e n : Int)
    (db db' : DB) (hsame : SameButContent e n db db')
    (hidden : ∀ claims, ctx = some claims → HiddenFrom db e n claims) (w w' : MetricsWorld)
    (hw : w.db = db) (hw' : w'.db = db') (ht : w.tick = w'.tick) :
    ((read.call s localDay ctx).run (metricsDB c) env w).1 =
      ((read.call s localDay ctx).run (metricsDB c) env w').1 := by
  have htwin : SameAggregate c env db db' (read.call s localDay ctx) := by
    cases ctx with
    | none => cases read <;> exact Call.twin_throw _
    | some claims =>
        have hhidden := hidden claims rfl
        cases read with
        | getIncident req => exact Call.Twin.widen (twin_getIncident hsame hhidden req)
        | listIncidents req => exact Call.Twin.widen (twin_listIncidents hsame hhidden req)
        | getReport req =>
            exact Call.Twin.widen (sameAnswer_of_every (same_getReport hsame (some claims) req))
        | listReports req =>
            exact Call.Twin.widen (sameAnswer_of_every (same_listReports hsame (some claims) req))
        | listNotifications => exact Call.Twin.widen (twin_listNotifications hsame hhidden)
        | getMetrics eventId => exact same_getMetrics hsame hhidden localDay eventId
  exact endAlike_eq_iff.mp (htwin.alike hw hw' ht)

/-- A private incident of somebody else, linked by an open one. -/
def linkedPrivateDB (summary text : String) : DB where
  event := Table.empty.insert 1 { name := "fair" }
  person := (Table.empty.insert 7 { handle := some "hub" }).insert 8 { handle := some "Hawk" }
  personEvent := Table.empty.insert (8, 1) { participationType := .writer }
  incident := (Table.empty.insert (1, 1) { privateIncident with summary := some summary }).insert
    (1, 2) openIncident
  incidentLinkedIncident := Table.empty.insert ((1, 2), 1, 1) ()
  journalEntry := Table.empty.insert 4
    { authorPersonID := 7, text := [.text text], created := 0, generated := false }
  incidentJournalEntry := Table.empty.insert (1, 1, 4) ()

/-- The writer reads the open incident, with its link to a lost child or to a found one. -/
theorem content_hidden_linked :
    (((IncidentsRead.getIncident ⟨1, 2⟩).call {} toString (some ⟨8, "Hawk", false⟩)).run
        (metricsDB ⟨id, fun _ => none⟩) stillMetricsEnv
        { db := linkedPrivateDB "lost child" "at the gate", nextId := 9 }).1 =
      (((IncidentsRead.getIncident ⟨1, 2⟩).call {} toString (some ⟨8, "Hawk", false⟩)).run
        (metricsDB ⟨id, fun _ => none⟩) stillMetricsEnv
        { db := linkedPrivateDB "found child" "at the river", nextId := 9 }).1 := by
  have hsame : SameButContent 1 1 (linkedPrivateDB "lost child" "at the gate")
      (linkedPrivateDB "found child" "at the river") :=
    { incidents := by decide, entries := by decide, rest := rfl }
  have hhidden : HiddenFrom (linkedPrivateDB "lost child" "at the gate") 1 1
      ⟨8, "Hawk", false⟩ :=
    ⟨{ privateIncident with summary := some "lost child" }, by decide, by decide,
      by decide⟩
  refine content_hidden {} toString ⟨id, fun _ => none⟩ stillMetricsEnv (some ⟨8, "Hawk", false⟩)
    (.getIncident ⟨1, 2⟩) 1 1 _ _ hsame ?_ _ _ rfl rfl rfl
  intro claims hclaims
  cases hclaims
  exact hhidden

end OcfIms
