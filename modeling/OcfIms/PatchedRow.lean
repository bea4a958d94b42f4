import OcfIms.IncidentVisibility

/-!
# The patched row and the listed row

`features/live/hub.ts` answers a poke with `GetIncident` and puts the view it gets into the cached
`ListIncidents`, after `stripSystemEntries`: "the cache matches `excludeSystemEntries: true`". The
two server paths assemble the view from different queries, so the row that the patch leaves is the
row that the list would have only on a condition, which is exact here.
-/

namespace OcfIms

open TxnLib

variable {env : ImsEnv} {db : DB} {s : Service} {claims : IMSClaims} {e n : Int} {ev : Event}
  {i : Incident}

/-- `stripSystemEntries`; the message of a view is always set by the server. -/
def stripSystemEntries (view : IncidentView) : IncidentView :=
  { view with
    incident := { view.incident with
      journalEntries := view.incident.journalEntries.filter fun e => !e.systemEntry } }

/-- The row that a patch leaves is the row of the list. -/
def PatchedRowListed (env : ImsEnv) (w : ImsWorld) (s : Service) (claims : IMSClaims) (e n : Int) :
    Prop :=
  ∃ view views, ((getIncident s (some claims) ⟨e, n⟩).run imsDB env w).1 = .ok view ∧
    ((listIncidents s (some claims) ⟨e, true⟩).run imsDB env w).1 = .ok views ∧
      stripSystemEntries view ∈ views ∧ ∀ v ∈ views, v.incident.number = n →
        v = stripSystemEntries view

/-- The journal rows of an incident. -/
def incidentJournal (db : DB) (e n : Int) : List JournalEntryRow :=
  (db.incidentEntriesOf e n).filterMap (db.journalEntryRow n)

/-- When an entry was made, as a view shows it. -/
def entryTime (r : JournalEntryRow) : Int := floatToSeconds r.journalEntry.created

/-- What the list and the single read show alike. -/
structure RowSettled (db : DB) (claims : IMSClaims) (e n : Int) (i : Incident) : Prop where
  /-- The single read is not refused to the creator of a private incident. -/
  admitted : ¬ (i.isPrivate = true ∧ i.createdBy = some claims.personID ∧
    hasBit (eventMaskIn db e claims) eventReadIncidents = false ∧
    db.hasGrant e n claims.personID = false)
  /-- It does not miss the caller's grant. -/
  granted : ¬ (hasBit (eventMaskIn db e claims) eventReadIncidents = true ∧
    hasBit (eventMaskIn db e claims) eventWriteIncidents = false ∧
    db.hasGrant e n claims.personID = true ∧
    (i.isPrivate = false ∨ i.createdBy = some claims.personID))
  unlinked : ∀ l ∈ db.linksOf e n, db.linkedIncidentRow l.1 l.2 = none
  unmentioned : ∀ r ∈ incidentJournal db e n, r.journalEntry.generated = false →
    db.mentionRows r.id = []
  /-- No entry that the server wrote is newer than the creation and everything people wrote. -/
  notNewer : ∀ r ∈ incidentJournal db e n, r.journalEntry.generated = true →
    entryTime r ≤ floatToTime i.created ∨ ∃ r' ∈ incidentJournal db e n,
      r'.journalEntry.generated = false ∧ entryTime r ≤ entryTime r'

/-! ## The journal -/

theorem journalEntryRow_spec {record id : Int} {r : JournalEntryRow}
    (h : db.journalEntryRow record id = some r) : r.recordNumber = record ∧ r.id = id := by
  unfold DB.journalEntryRow at h
  obtain ⟨je, -, h⟩ := Option.bind_eq_some_iff.mp h
  obtain ⟨author, -, h⟩ := Option.bind_eq_some_iff.mp h
  cases h
  exact ⟨rfl, rfl⟩

/-- The rows of the list's journal query that belong to an incident. -/
theorem listedJournal_eq (db : DB) (e n : Int) :
    ((db.incidentJournalEntry.rows.filterMap fun r =>
        if r.1.1 = e then db.journalEntryRow r.1.2.1 r.1.2.2 else none).filter
          (DB.generatedUpTo false)).filter (·.recordNumber = n) =
      (incidentJournal db e n).filter fun r => !r.journalEntry.generated := by
  unfold incidentJournal DB.incidentEntriesOf
  rw [List.filter_filter]
  simp only [List.filter_filterMap, List.filterMap_filterMap]
  refine List.filterMap_congr fun r _ => ?_
  by_cases he : r.1.1 = e
  · by_cases hn : r.1.2.1 = n
    · rw [if_pos he, if_pos ⟨he, hn⟩, hn, Option.bind_some]
      cases hrow : db.journalEntryRow n r.1.2.2 with
      | none => rfl
      | some row =>
          have hrecord : row.recordNumber = n := (journalEntryRow_spec hrow).1
          simp [DB.generatedUpTo, Option.filter, hrecord]
    · rw [if_pos he, if_neg fun h => hn h.2]
      cases hrow : db.journalEntryRow r.1.2.1 r.1.2.2 with
      | none => rfl
      | some row =>
          have hrecord : row.recordNumber ≠ n := (journalEntryRow_spec hrow).1 ▸ hn
          simp [Option.filter, hrecord]
  · rw [if_neg he, if_neg fun h => he h.1]
    rfl

/-- The people of the list's query that belong to an incident. -/
theorem listedPeople_eq (db : DB) (e n : Int) :
    (db.incidentPerson.rows.filterMap fun r =>
        if r.2.event = e then db.incidentPersonRow r.2 else none).filter
          (·.incidentPerson.incidentNumber = n) =
      db.incidentPerson.rows.filterMap fun r =>
        if r.2.event = e ∧ r.2.incidentNumber = n then db.incidentPersonRow r.2 else none := by
  rw [List.filter_filterMap]
  refine List.filterMap_congr fun r _ => ?_
  by_cases he : r.2.event = e
  · rw [if_pos he]
    cases hrow : db.incidentPersonRow r.2 with
    | none => simp
    | some row =>
        have hperson : row.incidentPerson = r.2 := by
          unfold DB.incidentPersonRow at hrow
          obtain ⟨p, -, hrow⟩ := Option.bind_eq_some_iff.mp hrow
          obtain ⟨i, -, hrow⟩ := Option.bind_eq_some_iff.mp hrow
          cases hrow
          rfl
        by_cases hn : r.2.incidentNumber = n <;> simp [Option.filter, hperson, he, hn]
  · rw [if_neg he, if_neg fun h => he h.1]
    rfl

theorem mem_mentionRows {m : MentionRow} {entry : Int} (h : m ∈ db.mentionRows entry) :
    m.journalEntry = entry := by
  unfold DB.mentionRows at h
  obtain ⟨r, -, h⟩ := List.mem_filterMap.mp h
  split at h
  · obtain ⟨p, -, rfl⟩ := Option.map_eq_some_iff.mp h
    rfl
  · cases h

/-- The mentions that the single read puts onto an entry. -/
def shownMentions (db : DB) (e n : Int) (r : JournalEntryRow) : List MentionRow :=
  ((db.incidentEntriesOf e n).flatMap db.mentionRows).filter (·.journalEntry = r.id)

theorem shownMentions_eq_nil {r : JournalEntryRow} (hr : r ∈ incidentJournal db e n) :
    shownMentions db e n r = [] ↔ db.mentionRows r.id = [] := by
  have hid : r.id ∈ db.incidentEntriesOf e n := by
    obtain ⟨id, hid, hrow⟩ := List.mem_filterMap.mp hr
    rw [(journalEntryRow_spec hrow).2]
    exact hid
  unfold shownMentions
  rw [List.filter_eq_nil_iff, List.eq_nil_iff_forall_not_mem]
  constructor
  · intro h m hm
    have hentry : m.journalEntry = r.id := mem_mentionRows hm
    exact h m (List.mem_flatMap.mpr ⟨r.id, hid, hm⟩) (by simpa using hentry)
  · intro h m hm hentry
    obtain ⟨id, -, hm⟩ := List.mem_flatMap.mp hm
    have hsame : id = r.id := (mem_mentionRows hm).symm.trans (by simpa using hentry)
    exact h m (hsame ▸ hm)

/-- An entry as the list shows it. -/
def listedEntry (s : Service) (r : JournalEntryRow) : JournalEntryMsg :=
  journalEntryToProto (journalEntryToJSON s s.attachmentsEnabled r none)

/-- An entry as the single read shows it. -/
def shownEntry (db : DB) (s : Service) (e n : Int) (r : JournalEntryRow) : JournalEntryMsg :=
  { listedEntry s r with
    mentions := (shownMentions db e n r).map fun m =>
      mentionToPersonRef ⟨m.personID, m.handle.getD "", m.name.getD ""⟩ }

theorem incidentTimeline_toProto (db : DB) (s : Service) (e n : Int) :
    (incidentTimeline db s e n).map journalEntryToProto =
      (incidentJournal db e n).map (shownEntry db s e n) := by
  unfold incidentTimeline withMentions
  rw [List.map_map, List.map_map]
  refine List.map_congr_left fun r _ => ?_
  change journalEntryToProto (if (shownMentions db e n r).map _ = [] then _ else _) = _
  cases hm : shownMentions db e n r with
  | nil =>
      unfold shownEntry
      rw [hm]
      rfl
  | cons m ms =>
      have hshown : ((db.incidentEntriesOf e n).flatMap db.mentionRows).filter
          (·.journalEntry = (journalEntryToJSON s s.attachmentsEnabled r none).id) = m :: ms := hm
      simp [shownEntry, hm, listedEntry, journalEntryToProto, hshown]

theorem shownEntry_eq_iff {r : JournalEntryRow} (hr : r ∈ incidentJournal db e n) :
    shownEntry db s e n r = listedEntry s r ↔ db.mentionRows r.id = [] := by
  rw [← shownMentions_eq_nil hr]
  constructor
  · intro h
    have hmentions : (shownEntry db s e n r).mentions = [] := by
      rw [h]
      rfl
    exact List.map_eq_nil_iff.mp hmentions
  · intro h
    unfold shownEntry
    rw [h]
    rfl

/-- The journals agree where no entry that people wrote mentions anybody. -/
theorem strippedJournal_eq_iff :
    ((incidentTimeline db s e n).map journalEntryToProto).filter (fun e => !e.systemEntry) =
        ((incidentJournal db e n).filter fun r => !r.journalEntry.generated).map (listedEntry s) ↔
      ∀ r ∈ incidentJournal db e n, r.journalEntry.generated = false → db.mentionRows r.id = [] := by
  rw [incidentTimeline_toProto, List.filter_map]
  change ((incidentJournal db e n).filter fun r => !r.journalEntry.generated).map _ = _ ↔ _
  rw [List.map_inj_left]
  constructor
  · intro h r hr hgenerated
    exact (shownEntry_eq_iff hr).mp (h r (List.mem_filter.mpr ⟨hr, by rw [hgenerated]; rfl⟩))
  · intro h r hr
    obtain ⟨hr, hgenerated⟩ := List.mem_filter.mp hr
    exact (shownEntry_eq_iff hr).mpr (h r hr (by simpa using hgenerated))

/-! ## The last change -/

section Latest

variable {α : Type} {f : α → Int} {p : α → Bool}

theorem foldl_max_le_iff {l : List α} {c b : Int} :
    l.foldl (fun t a => max t (f a)) c ≤ b ↔ c ≤ b ∧ ∀ a ∈ l, f a ≤ b := by
  induction l generalizing c with
  | nil => simp
  | cons a l ih =>
      rw [List.foldl_cons, ih, Int.max_le, List.forall_mem_cons, and_assoc]

theorem le_foldl_max_iff {l : List α} {c b : Int} :
    b ≤ l.foldl (fun t a => max t (f a)) c ↔ b ≤ c ∨ ∃ a ∈ l, b ≤ f a := by
  induction l generalizing c with
  | nil => simp
  | cons a l ih =>
      have hmax : b ≤ max c (f a) ↔ b ≤ c ∨ b ≤ f a := by omega
      rw [List.foldl_cons, ih, hmax, List.exists_mem_cons_iff, or_assoc]

/-- The latest of a list is the latest of a part of it where the rest has nothing later. -/
theorem foldl_max_filter_iff {l : List α} {c : Int} :
    l.foldl (fun t a => max t (f a)) c = (l.filter p).foldl (fun t a => max t (f a)) c ↔
      ∀ a ∈ l, p a = false → f a ≤ c ∨ ∃ a' ∈ l, p a' = true ∧ f a ≤ f a' := by
  have hpart : (l.filter p).foldl (fun t a => max t (f a)) c ≤
      l.foldl (fun t a => max t (f a)) c := by
    obtain ⟨hc, hall⟩ := foldl_max_le_iff.mp (Int.le_refl (l.foldl (fun t a => max t (f a)) c))
    exact foldl_max_le_iff.mpr ⟨hc, fun a ha => hall a (List.mem_of_mem_filter ha)⟩
  have heq : l.foldl (fun t a => max t (f a)) c = (l.filter p).foldl (fun t a => max t (f a)) c ↔
      l.foldl (fun t a => max t (f a)) c ≤ (l.filter p).foldl (fun t a => max t (f a)) c :=
    ⟨Int.le_of_eq, fun h => Int.le_antisymm h hpart⟩
  rw [heq, foldl_max_le_iff]
  simp only [le_foldl_max_iff, List.mem_filter]
  constructor
  · rintro ⟨-, h⟩ a ha -
    obtain hc | ⟨a', ⟨ha', hp⟩, hle⟩ := h a ha
    · exact Or.inl hc
    · exact Or.inr ⟨a', ha', hp, hle⟩
  · intro h
    refine ⟨Or.inl (Int.le_refl c), fun a ha => ?_⟩
    cases hp : p a with
    | true => exact Or.inr ⟨a, ⟨ha, hp⟩, Int.le_refl _⟩
    | false =>
        obtain hc | ⟨a', ha', hp', hle⟩ := h a ha hp
        · exact Or.inl hc
        · exact Or.inr ⟨a', ⟨ha', hp'⟩, hle⟩

end Latest

theorem incidentTimeline_latest (db : DB) (s : Service) (e n c : Int) :
    (incidentTimeline db s e n).foldl (fun t je => max t je.created) c =
      (incidentJournal db e n).foldl (fun t r => max t (entryTime r)) c := by
  unfold incidentTimeline withMentions
  rw [List.foldl_map, List.foldl_map]
  congr 1
  funext t r
  dsimp only
  split <;> rfl

/-! ## The two rows -/

/-- The messages agree in everything but when the incident last changed, its links and its
journal. -/
theorem strippedMsg_eq_iff (db : DB) (s : Service) (claims : IMSClaims) (e n : Int) (ev : Event)
    (i : Incident) :
    { getIncidentMsg db s claims e n ev i with
        journalEntries := (getIncidentMsg db s claims e n ev i).journalEntries.filter
          fun e => !e.systemEntry } = listedMsg db s e ev false (db.incidentRow e n i) ↔
      (∀ r ∈ incidentJournal db e n, r.journalEntry.generated = true →
        entryTime r ≤ floatToTime i.created ∨ ∃ r' ∈ incidentJournal db e n,
          r'.journalEntry.generated = false ∧ entryTime r ≤ entryTime r') ∧
      (∀ l ∈ db.linksOf e n, db.linkedIncidentRow l.1 l.2 = none) ∧
      ∀ r ∈ incidentJournal db e n, r.journalEntry.generated = false →
        db.mentionRows r.id = [] := by
  have hlatest := foldl_max_filter_iff (f := entryTime) (c := floatToTime i.created)
    (p := fun r => !r.journalEntry.generated) (l := incidentJournal db e n)
  simp only [Bool.not_eq_false', Bool.not_eq_true'] at hlatest
  rw [← hlatest, ← strippedJournal_eq_iff (s := s), ← incidentTimeline_latest db s]
  have hnumber : (db.incidentRow e n i).number = n := rfl
  unfold getIncidentMsg listedMsg
  dsimp only
  rw [hnumber, listedJournal_eq, listedPeople_eq]
  simp only [incidentJSONToProto, incidentToJSON, IncidentMsg.mk.injEq, true_and,
    Option.getD_some, eq_self, List.map_nil, List.map_eq_nil_iff, List.filterMap_eq_nil_iff,
    List.foldl_map, List.map_map]
  exact Iff.rfl

/-! ## The rule -/

section Rule

variable {w : ImsWorld} (hq : env.Quiet) (s : Service) (hev : w.db.event.find? e = some ev)
  (hi : w.db.incident.find? (e, n) = some i) (hview : mayView w.db claims e n i = true)

include hq hev hi hview

theorem rowSettled_of_patchedRowListed (h : PatchedRowListed env w s claims e n) :
    RowSettled w.db claims e n i := by
  unfold PatchedRowListed at h
  rw [(answers_getIncident hq s claims hev hi).run_fst rfl,
    (answers_listIncidents hq s claims hev true).run_fst rfl] at h
  obtain ⟨view, views, hget, hlist, hmem, -⟩ := h
  have hadmitted : (readFacts w.db claims e n i).admits = true := by
    by_contra hrefused
    rw [if_neg hrefused] at hget
    cases hget
  rw [if_pos hadmitted] at hget
  cases hget
  rw [if_pos (mayList_of_admits hadmitted)] at hlist
  cases hlist
  obtain ⟨-, hrow⟩ := (mem_listedViews_iff hi s false _).mp ⟨hmem, rfl⟩
  rw [listedFlag_eq] at hrow
  obtain ⟨hincident, hmayAdd⟩ := IncidentView.mk.inj hrow
  obtain ⟨hnotNewer, hunlinked, hunmentioned⟩ := (strippedMsg_eq_iff w.db s claims e n ev i).mp hincident
  exact ⟨admits_iff_mayView.mp (iff_of_true hadmitted hview),
    (getFlag_right_iff hview).mp fun _ => hmayAdd, hunlinked, hunmentioned, hnotNewer⟩

theorem patchedRowListed_of_rowSettled (h : RowSettled w.db claims e n i) :
    PatchedRowListed env w s claims e n := by
  have hadmitted : (readFacts w.db claims e n i).admits = true :=
    (admits_iff_mayView.mpr h.admitted).mpr hview
  have hmayAdd := (getFlag_right_iff hview).mpr h.granted hadmitted
  have hincident := (strippedMsg_eq_iff w.db s claims e n ev i).mpr
    ⟨h.notNewer, h.unlinked, h.unmentioned⟩
  have hrow : stripSystemEntries ⟨getIncidentMsg w.db s claims e n ev i,
      (readFacts w.db claims e n i).write || (readFacts w.db claims e n i).grantSeen⟩ =
        ⟨listedMsg w.db s e ev false (w.db.incidentRow e n i),
          hasBit (eventMaskIn w.db e claims) eventWriteIncidents ||
            (listedGrants w.db claims e).contains n⟩ := by
    unfold stripSystemEntries
    rw [hincident, hmayAdd, listedFlag_eq]
  unfold PatchedRowListed
  rw [(answers_getIncident hq s claims hev hi).run_fst rfl,
    (answers_listIncidents hq s claims hev true).run_fst rfl, if_pos hadmitted,
    if_pos (mayList_of_admits hadmitted)]
  refine ⟨_, _, rfl, rfl, ?_, fun v hv hnumber => ?_⟩
  · rw [hrow]
    exact ((mem_listedViews_iff hi s false _).mpr ⟨hview, rfl⟩).1
  · rw [hrow]
    exact ((mem_listedViews_iff hi s false v).mp ⟨hv, hnumber⟩).2

/-- **The patched row is the listed row** exactly where the two reads agree on access, no incident is
linked, nobody is mentioned, and nothing that the server wrote is the latest change. -/
theorem patchedRowListed_iff :
    PatchedRowListed env w s claims e n ↔ RowSettled w.db claims e n i :=
  ⟨rowSettled_of_patchedRowListed hq s hev hi hview,
    patchedRowListed_of_rowSettled hq s hev hi hview⟩

end Rule

/-- A writer's incident: the writer noted something, and afterwards changed the priority. -/
def changedIncidentDB : DB :=
  { event := Table.empty.insert 1 { name := "fair" }
    person := Table.empty.insert 7 { handle := some "hub" }
    personEvent := Table.empty.insert (7, 1) { participationType := .writer }
    incident := (Table.empty.insert (1, 1) openIncident).insert (1, 2) openIncident
    journalEntry := (Table.empty.insert 1
      { authorPersonID := 7, text := [.text "seen"], created := storedSecond, generated := false })
      |>.insert 2
      { authorPersonID := 7, text := [.text "Changed priority: 5"], created := 2 * storedSecond,
        generated := true }
    incidentJournalEntry := ((Table.empty.insert (1, 1, 1) ()).insert (1, 1, 2) ()).insert
      (1, 2, 1) () }

theorem patchedRowListed_iff_noted :
    PatchedRowListed stillEnv { db := changedIncidentDB, nextId := 3 } {} ⟨7, "hub", false⟩ 1 2 := by
  have hev : changedIncidentDB.event.find? 1 = some ⟨"fair", false, none⟩ := by decide
  have hi : changedIncidentDB.incident.find? (1, 2) = some openIncident := by decide
  exact (patchedRowListed_iff (w := { db := changedIncidentDB, nextId := 3 }) stillEnv_quiet {} hev
    hi (by decide)).mpr ⟨by decide, by decide, by decide, by decide, by decide⟩

/-- The patched row of incident 1 was last changed when its priority was, the listed row when the
writer's note was. -/
theorem not_patchedRowListed_changed :
    ¬ ∀ (env : ImsEnv) (w : ImsWorld) (s : Service) (claims : IMSClaims) (e n : Int) (ev : Event)
      (i : Incident), env.Quiet → w.db.event.find? e = some ev →
        w.db.incident.find? (e, n) = some i → mayView w.db claims e n i = true →
          PatchedRowListed env w s claims e n := by
  intro h
  have hev : changedIncidentDB.event.find? 1 = some ⟨"fair", false, none⟩ := by decide
  have hi : changedIncidentDB.incident.find? (1, 1) = some openIncident := by decide
  have hview : mayView changedIncidentDB ⟨7, "hub", false⟩ 1 1 openIncident = true := by decide
  have h := h stillEnv { db := changedIncidentDB, nextId := 3 } {} ⟨7, "hub", false⟩ 1 1 _ _
    stillEnv_quiet hev hi hview
  have hsettled := rowSettled_of_patchedRowListed (w := { db := changedIncidentDB, nextId := 3 })
    stillEnv_quiet {} hev hi hview h
  have hnewer : ¬ ∀ r ∈ incidentJournal changedIncidentDB 1 1, r.journalEntry.generated = true →
      entryTime r ≤ floatToTime openIncident.created ∨ ∃ r' ∈ incidentJournal changedIncidentDB 1 1,
        r'.journalEntry.generated = false ∧ entryTime r ≤ entryTime r' := by
    decide
  exact hnewer hsettled.notNewer

end OcfIms
