import Mathlib
import OcfIms.IncidentRuns

/-!
# What a journal-only update writes

A reporter who holds a grant on an incident, and no more, may only append to its journal; the gate
that lets them through looks at the payload. Here is what an update with such a payload does to the
database: the rows of incidents, types, reports, visits, people and links are what they were, and the
journal has the entries of the payload that are not empty, in their order, and none of the system's.
-/

namespace OcfIms

open TxnLib

variable {env : ImsEnv} {e n author id : Int} {db db₁ db' : DB} {texts : List String}

/-! ## The payload -/

/-- A payload that passes the guard has journal entries and nothing else. -/
theorem eq_of_isJournalOnly {u : Option IncidentUpdate}
    (h : isJournalOnly (incidentUpdateToJSON u) = true) :
    ∃ entries, u.map (·.journalEntries) = some entries ∧ incidentUpdateToJSON u =
      { journalEntries := entries.map fun je =>
          { text := je.text, mentionedPersonIDs := je.mentionedPersonIds } } := by
  cases u with
  | none => cases h
  | some u =>
      refine ⟨u.journalEntries, rfl, ?_⟩
      simp only [isJournalOnly, incidentUpdateToJSON, Bool.and_eq_true, Option.isNone_iff_eq_none,
        Option.map_eq_none_iff, beq_iff_eq, isZero] at h
      obtain ⟨⟨⟨⟨⟨⟨⟨⟨⟨⟨⟨⟨⟨⟨_, hstate⟩, hpriority⟩, houtcome⟩, hstarted⟩, hsummary⟩, hprivate⟩, harea⟩,
        hdescription⟩, hbooth⟩, htypes⟩, hreports⟩, _⟩, _⟩, hlinks⟩ := h
      have hlocation : u.location.getD {} = {} := by
        cases hl : u.location.getD {}
        rw [hl] at harea hdescription hbooth
        cases harea
        cases hdescription
        cases hbooth
        rfl
      simp only [incidentUpdateToJSON, hstate, hprivate, houtcome, hpriority, hsummary, hstarted,
        hlocation, htypes, hreports, hlinks, Option.map_none]

/-! ## Entries -/

/-- The incident's timeline has these entries more, and no record has changed. -/
structure Appended (e n : Int) (db : DB) (entries : List (Int × JournalEntry)) (db' : DB) :
    Prop where
  incident : db'.incident = db.incident
  incidentType : db'.incidentIncidentType = db.incidentIncidentType
  report : db'.report = db.report
  visit : db'.visit = db.visit
  incidentPerson : db'.incidentPerson = db.incidentPerson
  linkedIncident : db'.incidentLinkedIncident = db.incidentLinkedIncident
  reportJournal : db'.reportJournalEntry = db.reportJournalEntry
  journalEntry : db'.journalEntry.rows = db.journalEntry.rows ++ entries
  incidentJournal : db'.incidentJournalEntry.rows =
    db.incidentJournalEntry.rows ++ entries.map fun r => ((e, n, r.1), ())

/-- An entry the author typed: not the system's, not struck, for nobody else. -/
def IsTyped (author : Int) (text : String) (r : Int × JournalEntry) : Prop :=
  ∃ created, r.2 = { authorPersonID := author, text := [.text text], created, generated := false }

/-- The author's texts are on the timeline, one entry each, in order. -/
def Journalled (e n author : Int) (db : DB) (texts : List String) (db' : DB) : Prop :=
  ∃ entries, Appended e n db entries db' ∧ List.Forall₂ (IsTyped author) texts entries

theorem Journalled.refl (e n author : Int) (db : DB) : Journalled e n author db [] db :=
  ⟨[], ⟨rfl, rfl, rfl, rfl, rfl, rfl, rfl, (List.append_nil _).symm, (List.append_nil _).symm⟩,
    .nil⟩

/-- One more entry, stored but not on the timeline yet. -/
def EntryStored (e n author : Int) (db : DB) (texts : List String) (text : String) (id : Int)
    (db' : DB) : Prop :=
  ∃ db₁ je, Journalled e n author db texts db₁ ∧ IsTyped author text (id, je) ∧
    db₁.journalEntry.contains id = false ∧
    db' = { db₁ with journalEntry := db₁.journalEntry.insert id je }

theorem Journalled.createJournalEntry {created b : Int} {text : String}
    (h : Journalled e n author db texts db₁)
    (happly : (Write.createJournalEntry
      { authorPersonID := author, text := [.text text], created, generated := false }).apply id db₁ =
        .ok (b, db')) : EntryStored e n author db texts text b db' := by
  simp only [Write.apply, DB.unique_eq_ok, DB.references_eq_ok] at happly
  obtain ⟨hnew, _, _, ⟨⟩⟩ := happly
  exact ⟨db₁, _, h, ⟨created, rfl⟩, hnew, rfl⟩

theorem EntryStored.attach {id' : Int} {text : String} {b : Unit}
    (h : EntryStored e n author db texts text id db₁)
    (happly : (Write.attachJournalEntryToIncident e n id).apply id' db₁ = .ok (b, db')) :
    Journalled e n author db (texts ++ [text]) db' := by
  obtain ⟨db₀, je, ⟨entries, happended, htyped⟩, hje, hfree, rfl⟩ := h
  simp only [Write.apply, DB.unique_eq_ok, DB.references_eq_ok] at happly
  obtain ⟨hnew, _, _, ⟨⟩⟩ := happly
  refine ⟨entries ++ [(id, je)], ?_, List.rel_append htyped (.cons hje .nil)⟩
  refine { happended with journalEntry := ?_, incidentJournal := ?_ }
  · change (db₀.journalEntry.insert id je).rows = _
    rw [Table.rows_insert hfree, happended.journalEntry, List.append_assoc]
  · change (db₀.incidentJournalEntry.insert (e, n, id) ()).rows = _
    rw [Table.rows_insert hnew, happended.incidentJournal, List.append_assoc, List.map_append]
    rfl

/-- The writes that follow an entry: its mentions and their notifications. -/
def announcesEntry : Conn → ∀ β : Type, Write β → Prop
  | _, _, .createJournalEntryMention _ _ => True
  | _, _, .createNotification _ => True
  | _, _, _ => False

theorem Journalled.announce {c : Conn} {β : Type} {q : Write β} {b : β}
    (hq : announcesEntry c β q) (h : Journalled e n author db texts db₁)
    (happly : q.apply id db₁ = .ok (b, db')) : Journalled e n author db texts db' := by
  obtain ⟨entries, ha, htyped⟩ := h
  cases Write.effect_of_apply happly with
  | createMention => exact ⟨entries, { ha with }, htyped⟩
  | createMention_ignored => exact ⟨entries, ha, htyped⟩
  | createNotification => exact ⟨entries, { ha with }, htyped⟩
  | _ => exact hq.elim

/-- The rewrite of a row as it was read changes nothing. -/
theorem updateIncident_stored {i : Incident} {b : Unit} (hi : db.incident.find? (e, n) = some i)
    (h : (Write.updateIncident e n (Edit.ofStored i).update).apply id db = .ok (b, db')) :
    db' = db := by
  simp only [Write.apply, hi, DB.textColumn_eq_ok, DB.references_eq_ok] at h
  obtain ⟨booth, hbooth, _, _, ⟨⟩⟩ := h
  have hsame : DB.updatedIncident (Edit.ofStored i).update booth i = i := by
    obtain rfl : i.locationBooth = booth := by
      change i.locationBooth.map SqlText.text = booth.map SqlText.text at hbooth
      exact Option.map_injective (fun _ _ h => SqlText.text.inj h) hbooth
    rfl
  have htable : db.incident.modify (e, n) (fun _ => DB.updatedIncident (Edit.ofStored i).update
      booth i) = db.incident := by
    refine Table.ext ?_
    rw [hsame]
    refine (List.map_congr_left fun r hr => ?_).trans (List.map_id _)
    obtain ⟨k, v⟩ := r
    by_cases hk : k = (e, n)
    · subst hk
      rw [Table.find?_eq_some_iff.mpr hr, Option.some.injEq] at hi
      simp [hi]
    · simp [hk]
  rw [htable]

/-! ## The update -/

section Update

variable {c : Conn}

theorem triple_typedEntry (text : String) :
    Call.Triple imsDB env (World.At c (Journalled e n author db texts))
      (addIncidentJournalEntry c e n author [.text text] false)
      (fun _ w => w.At c (Journalled e n author db (texts ++ [text]))) fun _ _ => True := by
  refine Call.Triple.bind (J := fun _ w => w.At c (Journalled e n author db texts)) ?_ fun t => ?_
  · exact Call.triple_ask fun w b hw s hs => hw s (by rwa [World.tock_view] at hs)
  refine Call.Triple.bind (triple_exec_at (L := fun id => EntryStored e n author db texts text id)
    (fun _ _ _ _ h happly => h.createJournalEntry happly) fun _ _ => trivial) fun id => ?_
  refine Call.Triple.bind (triple_exec_at
    (L := fun _ => Journalled e n author db (texts ++ [text]))
    (fun _ _ _ _ h happly => h.attach happly) fun _ _ => trivial) fun _ => ?_
  exact Call.triple_pure fun _ h => h

theorem triple_announces {ε α : Type} {x : Go ε α} {E : ε → Prop} {Q : α → Prop}
    (hx : x.Every anyAnswer (writesIn announcesEntry) E Q) :
    Call.Triple imsDB env (World.At c (Journalled e n author db texts)) x
      (fun _ w => w.At c (Journalled e n author db texts)) fun _ _ => True :=
  (Call.triple_at_writesIn (fun _ _ _ _ _ _ hq h happly => h.announce hq happly) hx
    fun _ _ => trivial).conseq (fun _ h => h) (fun _ _ h => h.1) fun _ _ h => h

/-- The texts so far, after an entry of the payload. -/
def addText (texts : List String) (entry : JournalEntryJSON) : List String :=
  if entry.text = "" then texts else texts ++ [entry.text]

theorem triple_addTypedEntry_journal (s : Service) (entry : JournalEntryJSON) :
    Call.Triple imsDB env (World.At .txn (Journalled e n author db texts))
      (addTypedEntry s e n author entry)
      (fun _ w => w.At .txn (Journalled e n author db (addText texts entry)))
      fun _ _ => True := by
  unfold addTypedEntry addText
  split
  · exact Call.triple_pure fun _ h => h
  refine (triple_typedEntry entry.text).bind fun id => ?_
  refine (triple_announces (every_addJournalEntryMentions (E := fun _ => True)
    (fun _ _ => trivial) (fun _ _ => trivial) s id _ _)).bind fun _ => ?_
  exact triple_announces (every_generateMentionNotificationsFor (E := fun _ => True)
    (fun _ => trivial) (fun _ _ => trivial) e (some n) none id author)

theorem foldl_addText (entries : List JournalEntryJSON) (texts : List String) :
    entries.foldl addText texts = texts ++ (entries.map (·.text)).filter (· ≠ "") := by
  induction entries generalizing texts with
  | nil => exact (List.append_nil texts).symm
  | cons entry entries ih =>
      rw [List.foldl_cons, ih, addText, List.map_cons]
      by_cases h : entry.text = ""
      · rw [if_pos h, List.filter_cons_of_neg (by simpa using h)]
      · rw [if_neg h, List.filter_cons_of_pos (by simpa using h), List.append_assoc]
        rfl

/-- With no list to reconcile and nothing to log, what is left of the transaction is the entries. -/
theorem reconcileAll_journal (s : Service) (event : String) (entries : List JournalEntryJSON)
    (st : LoadedIncident) :
    reconcileAll s { event, eventID := e, number := n, journalEntries := entries } st author [] =
      Call.concatMap (addTypedEntry s e n author) entries >>= fun mentionedPersonIDs =>
        pure { mentionedPersonIDs, updatedReports := [], updatedVisits := [],
               updatedLinkedIncidents := [] } :=
  rfl

theorem triple_updateIncident_journal (s : Service) (event : String) (admin : Bool)
    (entries : List JournalEntryJSON) (db : DB) :
    Call.Triple imsDB env (World.At .pool (· = db))
      (updateIncident s { event, eventID := e, number := n, journalEntries := entries } author admin)
      (fun _ w => w.At .pool (Journalled e n author db ((entries.map (·.text)).filter (· ≠ ""))))
      fun _ _ => True := by
  refine Call.triple_reads_bind (fun db _ => every_loadIncident (fun _ => trivial) _)
    (fun db' st hdb hst => ?_) fun _ _ => trivial
  subst hdb
  obtain ⟨i, hi, hrow, -⟩ := hst
  refine (triple_begin_at fun _ _ => trivial).bind fun _ => ?_
  refine Call.triple_deferRollback ?_
  refine Call.Triple.bind (J := fun _ w => w.At .pool (Journalled e n author db'
    ((entries.map (·.text)).filter (· ≠ "")))) ?_ fun touched => ?_
  · have hstored : st.row.incident = i := by rw [hrow]; rfl
    have hkey : st.row.event = e ∧ st.row.number = n := by rw [hrow]; exact ⟨rfl, rfl⟩
    refine Call.Triple.bind (J := fun ed w => w.At .txn (· = db') ∧ ed = Edit.ofStored i)
      (Call.triple_pure fun _ h => ⟨h, by rw [← hstored]; rfl⟩) fun ed => ?_
    refine Call.Triple.of_fact (fun _ h => h.2) fun hed => ?_
    subst hed
    refine Call.Triple.bind ((triple_exec_at (L := fun _ => (· = db')) (fun id db b db'' h happly => ?_)
      fun _ _ => trivial).conseq (fun _ h => h.1) (fun _ _ h => h) fun _ _ h => h) fun _ => ?_
    · subst h
      rw [hkey.1, hkey.2] at happly
      exact updateIncident_stored hi happly
    change Call.Triple imsDB env _ (reconcileAll s _ st author [] >>= _) _ _
    rw [reconcileAll_journal]
    have hentries : Call.Triple imsDB env (World.At .txn (Journalled e n author db' []))
        (Call.concatMap (addTypedEntry s e n author) entries) (fun _ w => w.At .txn
          (Journalled e n author db' (entries.foldl addText []))) fun _ _ => True :=
      Call.triple_concatMap_fold (L := fun texts w => w.At .txn (Journalled e n author db' texts))
        (fun _ entry => triple_addTypedEntry_journal s entry) entries []
    rw [foldl_addText, List.nil_append] at hentries
    refine Call.Triple.bind ((hentries.conseq (fun _ h s hs => ?_) (fun _ _ h => h)
      fun _ _ h => h).bind fun _ => Call.triple_pure (J := fun _ w => w.At .txn (Journalled e n
        author db' ((entries.map (·.text)).filter (· ≠ "")))) fun _ h => h) fun touched => ?_
    · rw [h s hs]
      exact Journalled.refl e n author db'
    · exact (triple_commit_at fun _ _ => trivial).bind fun _ => Call.triple_pure fun _ h => h
  · refine (Call.triple_noWrite (E := fun _ => True) (every_announceUpdate _ st author touched)
      fun _ _ => trivial).conseq (fun _ h => h) (fun _ w h => ?_) fun _ _ h => h
    exact h.1

end Update

/-- **The guard is exact.** An update whose payload passes it, and that succeeds, leaves every record
as it was and adds the payload's non-empty entries to the incident's journal, in their order, as
typed entries. -/
theorem journalOnly_exact (env : ImsEnv) (w w' : ImsWorld) (s : Service) (u : Option IncidentUpdate)
    (event : String) (e n author : Int) (admin : Bool)
    (hguard : isJournalOnly (incidentUpdateToJSON u) = true)
    (hrun : (updateIncident s
      { incidentUpdateToJSON u with event, eventID := e, number := n } author admin).run imsDB env w =
        (.ok (), w')) :
    ∃ entries, Appended e n w.db entries w'.db ∧
      List.Forall₂ (IsTyped author)
        (((u.map (·.journalEntries)).getD []).map (·.text) |>.filter (· ≠ "")) entries := by
  obtain ⟨entries, hentries, hu⟩ := eq_of_isJournalOnly hguard
  rw [hu] at hrun
  have hend := (triple_updateIncident_journal s event admin _ w.db).of_run_ok
    (fun _ hs => (Option.some.inj hs).symm) hrun
  have htexts : (entries.map fun je =>
      ({ text := je.text, mentionedPersonIDs := je.mentionedPersonIds } : JournalEntryJSON)).map
      (·.text) = entries.map (·.text) := by
    rw [List.map_map]
    rfl
  rw [htexts] at hend
  rw [hentries]
  exact hend w'.db rfl

/-- An entry, an empty one and another. -/
def twoEntries : IncidentUpdate :=
  { journalEntries := [{ text := "on scene" }, { text := "" }, { text := "left" }] }

theorem journalOnly_exact_twoEntries : ∃ w',
    (updateIncident {} { incidentUpdateToJSON (some twoEntries) with
      event := "fair", eventID := 1, number := 1 } 7 false).run imsDB stillEnv
        { db := twoIncidentsDB, nextId := 1 } = (.ok (), w') ∧
    ∃ entries, Appended 1 1 twoIncidentsDB entries w'.db ∧
      List.Forall₂ (IsTyped 7) ["on scene", "left"] entries := by
  have hok : ((updateIncident {} { incidentUpdateToJSON (some twoEntries) with
      event := "fair", eventID := 1, number := 1 } 7 false).run imsDB stillEnv
        { db := twoIncidentsDB, nextId := 1 }).1 = .ok () := by decide
  refine ⟨_, Prod.ext hok rfl, ?_⟩
  exact journalOnly_exact stillEnv { db := twoIncidentsDB, nextId := 1 } _ {} (some twoEntries) "fair" 1
    1 7 false (by decide) (Prod.ext hok rfl)

end OcfIms
