import Mathlib
import OcfIms.LibSettle
import OcfIms.RecordFrames
import OcfIms.LostUpdate

/-!
# The reconciled lists of an incident

An update that brings a list sets it exactly: what the list has and the incident lacks is attached,
what the incident has and the list lacks is detached. Attaching a type or linking an incident
inserts a row under a unique key, and the subtraction keeps duplicates, so a list that names a
missing type or incident twice is refused; reports and visits are rows of their own, and naming one
twice changes nothing. The proofs follow the sets of attached things through the transaction.
-/

namespace OcfIms

open TxnLib

/-! ## The incident a transaction sees -/

/-- What an update may change of its incident: the row, the four lists, as sets, and the journal.
`back` are the incidents with a link to this one. -/
structure ListView where
  row : Option Incident
  types : Set Int
  reports : Set Int
  visits : Set Int
  links : Set (Int × Int)
  back : Set (Int × Int)
  journal : List JournalEntry

namespace DB

def visitLink (db : DB) (e v : Int) : Option Int :=
  (db.visit.find? (e, v)).bind (·.incidentNumber)

def journalOf (db : DB) (e n : Int) : List JournalEntry :=
  (db.incidentEntriesOf e n).filterMap db.journalEntry.find?

def listView (db : DB) (e n : Int) : ListView where
  row := db.incident.find? (e, n)
  types := {t | db.incidentIncidentType.contains (e, n, t) = true}
  reports := {r | db.linkOf e r = some n}
  visits := {v | db.visitLink e v = some n}
  links := {o | db.incidentLinkedIncident.contains ((e, n), o) = true}
  back := {o | db.incidentLinkedIncident.contains (o, e, n) = true}
  journal := db.journalOf e n

theorem mem_typesOf {db : DB} {e n t : Int} :
    t ∈ db.typesOf e n ↔ db.incidentIncidentType.contains (e, n, t) = true := by
  rw [typesOf, List.mem_filterMap, ← Table.mem_keys_iff, List.mem_map]
  constructor
  · rintro ⟨⟨⟨e', n', t'⟩, u⟩, hr, h⟩
    simp only [Option.ite_none_right_eq_some, Option.some.injEq] at h
    obtain ⟨⟨rfl, rfl⟩, rfl⟩ := h
    exact ⟨_, hr, rfl⟩
  · rintro ⟨⟨k, u⟩, hr, rfl⟩
    exact ⟨_, hr, by simp⟩

theorem mem_visitsOf {db : DB} {e n v : Int} : v ∈ db.visitsOf e n ↔ db.visitLink e v = some n := by
  rw [visitsOf, List.mem_filterMap, visitLink, Option.bind_eq_some_iff]
  constructor
  · rintro ⟨⟨⟨e', v'⟩, visit⟩, hrow, h⟩
    simp only [Option.ite_none_right_eq_some, Option.some.injEq] at h
    obtain ⟨⟨rfl, hlink⟩, rfl⟩ := h
    exact ⟨visit, Table.find?_eq_some_iff.mpr hrow, hlink⟩
  · rintro ⟨visit, hfind, hlink⟩
    exact ⟨((e, v), visit), Table.find?_eq_some_iff.mp hfind, by simp [hlink]⟩

/-- No identifier from `id` on is in use, and whoever is mentioned is stored. -/
structure Orderly (db : DB) (id : Int) : Prop where
  entry : ∀ k, db.journalEntry.contains k = true → k < id
  incidentEntry : ∀ k, db.incidentJournalEntry.contains k = true → k.2.2 < id
  reportEntry : ∀ k, db.reportJournalEntry.contains k = true → k.2.2 < id
  notification : ∀ k, db.notification.contains k = true → k < id
  mention : ∀ k, db.journalEntryMention.contains k = true → db.person.contains k.2 = true

/-- The tables an update does not touch, and the keys of those it does. -/
structure SameKeys (db db' : DB) : Prop where
  event : db'.event = db.event
  person : db'.person = db.person
  incidentType : db'.incidentType = db.incidentType
  incident : ∀ k, db'.incident.contains k = db.incident.contains k
  report : ∀ k, db'.report.contains k = db.report.contains k
  visit : ∀ k, db'.visit.contains k = db.visit.contains k

theorem SameKeys.refl (db : DB) : db.SameKeys db :=
  ⟨rfl, rfl, rfl, fun _ => rfl, fun _ => rfl, fun _ => rfl⟩

variable {db T T' : DB} {id : Int}

theorem contains_eq_false_of_lt {κ ρ : Type} [DecidableEq κ] {t : Table κ ρ} {k : κ} {m : κ → Int}
    (h : ∀ k, t.contains k = true → m k < id) (hk : id ≤ m k) : t.contains k = false := by
  refine Bool.eq_false_iff.mpr fun hc => ?_
  have := h k hc
  omega

/-- A change of tables without identifiers. -/
theorem Orderly.of_tables (h : T.Orderly id) (hentry : T'.journalEntry = T.journalEntry)
    (hincident : T'.incidentJournalEntry = T.incidentJournalEntry)
    (hreport : T'.reportJournalEntry = T.reportJournalEntry)
    (hnotification : T'.notification = T.notification)
    (hmention : T'.journalEntryMention = T.journalEntryMention) (hperson : T'.person = T.person) :
    T'.Orderly (id + 1) := by
  refine ⟨fun k hk => ?_, fun k hk => ?_, fun k hk => ?_, fun k hk => ?_, fun k hk => ?_⟩
  · rw [hentry] at hk
    exact Int.lt_add_one_of_le (h.entry k hk).le
  · rw [hincident] at hk
    exact Int.lt_add_one_of_le (h.incidentEntry k hk).le
  · rw [hreport] at hk
    exact Int.lt_add_one_of_le (h.reportEntry k hk).le
  · rw [hnotification] at hk
    exact Int.lt_add_one_of_le (h.notification k hk).le
  · rw [hmention] at hk
    rw [hperson]
    exact h.mention k hk

end DB

/-- The transaction's copy shows the incident as `v` says, and is otherwise what the update may
make of `db`. -/
structure Viewed (db : DB) (e n : Int) (v : ListView) (T : DB) (id : Int) : Prop where
  view : T.listView e n = v
  same : db.SameKeys T
  orderly : T.Orderly id

section Steps

variable {env : ImsEnv} {db : DB} {e n author : Int} {v : ListView}

/-! ## One statement at a time -/

/-- A write settles what it checks. -/
theorem settles_exec {β η : Type} {q : Write β} {err : SqlErr → η} {R : DB → Int → Prop}
    {K : β → DB → Int → Prop} {p : Prop} (hq : env.Quiet)
    (h : ∀ T id, R T id → (p → ∃ b T', q.apply id T = .ok (b, T') ∧ K b T' (id + 1)) ∧
      ∀ b T', q.apply id T = .ok (b, T') → p) :
    Call.Settles imsDB env (Call.InTxn db R) (exec .txn q err) p fun b => Call.InTxn db (K b) := by
  refine Call.Settles.mapErr (Call.settles_write_inTxn hq fun T id hR => ?_)
  exact ⟨(h T id hR).1, fun r hr => (h T id hR).2 r.1 r.2 hr⟩

/-- Attaching a type: it must exist and not be attached. -/
theorem settles_attachType {η : Type} {t : Int} {err : SqlErr → η} (hq : env.Quiet)
    (hi : db.incident.contains (e, n) = true) :
    Call.Settles imsDB env (Call.InTxn db (Viewed db e n v))
      (exec .txn (.attachIncidentTypeToIncident e n t) err)
      (t ∉ v.types ∧ db.incidentType.contains t = true)
      fun _ => Call.InTxn db (Viewed db e n { v with types := insert t v.types }) := by
  refine settles_exec hq fun T id ⟨hv, hsame, horderly⟩ => ⟨fun ⟨hnew, ht⟩ => ?_, fun b T' happly => ?_⟩
  · subst hv
    have hfree : T.incidentIncidentType.contains (e, n, t) = false := Bool.eq_false_iff.mpr hnew
    have hin : T.incident.contains (e, n) = true := by rw [hsame.incident, hi]
    have htype : T.incidentType.contains t = true := by rw [hsame.incidentType, ht]
    refine ⟨(), { T with incidentIncidentType := T.incidentIncidentType.insert (e, n, t) () },
      ?_, ?_, ⟨hsame.1, hsame.2, hsame.3, hsame.4, hsame.5, hsame.6⟩,
      horderly.of_tables rfl rfl rfl rfl rfl rfl⟩
    · simp [Write.apply, DB.unique, DB.references, hfree, hin, htype]
    · have htypes : {t' | (T.incidentIncidentType.insert (e, n, t) ()).contains (e, n, t') = true} =
          insert t {t' | T.incidentIncidentType.contains (e, n, t') = true} := by
        ext t'
        simp [Table.contains_insert hfree]
      exact congrArg (fun s => ({ T.listView e n with types := s } : ListView)) htypes
  · subst hv
    simp only [Write.apply, DB.unique_eq_ok, DB.references_eq_ok] at happly
    obtain ⟨hnew, -, ht, -⟩ := happly
    exact ⟨fun hmem => Bool.eq_false_iff.mp hnew hmem, by rw [← hsame.incidentType, ht]⟩

theorem settles_detachType {η : Type} {t : Int} {err : SqlErr → η} (hq : env.Quiet) :
    Call.Settles imsDB env (Call.InTxn db (Viewed db e n v))
      (exec .txn (.detachIncidentTypeFromIncident e n t) err) True
      fun _ => Call.InTxn db (Viewed db e n { v with types := v.types \ {t} }) := by
  refine settles_exec hq fun T id ⟨hv, hsame, horderly⟩ => ⟨fun _ => ?_, fun _ _ _ => trivial⟩
  subst hv
  refine ⟨(), { T with incidentIncidentType := T.incidentIncidentType.erase (e, n, t) }, rfl, ?_,
    ⟨hsame.1, hsame.2, hsame.3, hsame.4, hsame.5, hsame.6⟩,
    horderly.of_tables rfl rfl rfl rfl rfl rfl⟩
  have htypes : {t' | (T.incidentIncidentType.erase (e, n, t)).contains (e, n, t') = true} =
      {t' | T.incidentIncidentType.contains (e, n, t') = true} \ {t} := by
    ext t'
    by_cases ht : t' = t <;> simp [Table.contains, Table.find?_erase, ht]
  exact congrArg (fun s => ({ T.listView e n with types := s } : ListView)) htypes

/-- What setting a link column does to the set of rows linked to the incident. -/
def relinked (stored : Bool) (target : Option Int) (n a : Int) (s : Set Int) : Set Int :=
  if target = some n then Call.insertIf (stored = true) a s else s \ {a}

section Relinked

variable {ρ : Type} {t : Table (Int × Int) ρ} {a : Int} {target : Option Int} {link : ρ → Option Int}
  {set : ρ → ρ}

/-- The rows of an event that are linked to an incident. -/
def linkedRows (t : Table (Int × Int) ρ) (link : ρ → Option Int) (e n : Int) : Set Int :=
  {a | (t.find? (e, a)).bind link = some n}

theorem linkedRows_of_absent (h : t.find? (e, a) = none) :
    linkedRows t link e n = relinked (t.contains (e, a)) target n a (linkedRows t link e n) := by
  have habsent : t.contains (e, a) = false := Table.contains_eq_false_iff.mpr h
  ext a'
  rw [relinked, habsent]
  by_cases ht : target = some n <;> by_cases haa : a' = a <;>
    simp [ht, haa, linkedRows, Call.insertIf, h]

theorem linkedRows_modify {row : ρ} (h : t.find? (e, a) = some row)
    (hset : ∀ row, link (set row) = target) : linkedRows (t.modify (e, a) set) link e n =
      relinked (t.contains (e, a)) target n a (linkedRows t link e n) := by
  have hstored : t.contains (e, a) = true := Table.contains_iff.mpr ⟨row, h⟩
  ext a'
  rw [relinked, hstored]
  by_cases haa : a' = a
  · subst haa
    by_cases ht : target = some n <;>
      simp [linkedRows, Call.insertIf, Table.find?_modify, h, hset, ht]
  · by_cases ht : target = some n <;>
      simp [linkedRows, Call.insertIf, Table.find?_modify, haa, ht]

end Relinked

theorem DB.SameKeys.nullOr {db' : DB} {target : Option Int} (h : db.SameKeys db')
    (hi : DB.nullOr db.incident (target.map (e, ·)) = true) :
    DB.nullOr db'.incident (target.map (e, ·)) = true := by
  cases target with
  | none => rfl
  | some m => exact (h.incident _).trans hi

theorem settles_relinkReport {η : Type} {r : Int} {err : SqlErr → η} (hq : env.Quiet)
    {target : Option Int} (hi : DB.nullOr db.incident (target.map (e, ·)) = true) :
    Call.Settles imsDB env (Call.InTxn db (Viewed db e n v))
      (exec .txn (.attachReportToIncident e r target) err) True
      fun _ => Call.InTxn db (Viewed db e n
        { v with reports := relinked (db.report.contains (e, r)) target n r v.reports }) := by
  refine settles_exec hq fun T id ⟨hv, hsame, horderly⟩ => ⟨fun _ => ?_, fun _ _ _ => trivial⟩
  subst hv
  rw [← hsame.report]
  cases hr : T.report.find? (e, r) with
  | none =>
      refine ⟨(), T, by simp only [Write.apply, hr], ?_, hsame,
        horderly.of_tables rfl rfl rfl rfl rfl rfl⟩
      exact congrArg (fun s => ({ T.listView e n with reports := s } : ListView))
        (linkedRows_of_absent hr)
  | some row =>
      refine ⟨(), { T with report := T.report.modify (e, r) ({ · with incidentNumber := target }) },
        ?_, ?_,
        ⟨hsame.1, hsame.2, hsame.3, hsame.4, fun k => ?_, hsame.6⟩,
        horderly.of_tables rfl rfl rfl rfl rfl rfl⟩
      · simp only [Write.apply, hr, DB.references, hsame.nullOr hi, if_true]
      · exact congrArg (fun s => ({ T.listView e n with reports := s } : ListView))
          (linkedRows_modify hr fun _ => rfl)
      · rw [Table.contains_modify]
        exact hsame.report k

theorem settles_relinkVisit {η : Type} {a : Int} {err : SqlErr → η} (hq : env.Quiet)
    {target : Option Int} (hi : DB.nullOr db.incident (target.map (e, ·)) = true) :
    Call.Settles imsDB env (Call.InTxn db (Viewed db e n v))
      (exec .txn (.attachVisitToIncident e a target) err) True
      fun _ => Call.InTxn db (Viewed db e n
        { v with visits := relinked (db.visit.contains (e, a)) target n a v.visits }) := by
  refine settles_exec hq fun T id ⟨hv, hsame, horderly⟩ => ⟨fun _ => ?_, fun _ _ _ => trivial⟩
  subst hv
  rw [← hsame.visit]
  cases hr : T.visit.find? (e, a) with
  | none =>
      refine ⟨(), T, by simp only [Write.apply, hr], ?_, hsame,
        horderly.of_tables rfl rfl rfl rfl rfl rfl⟩
      exact congrArg (fun s => ({ T.listView e n with visits := s } : ListView))
        (linkedRows_of_absent hr)
  | some row =>
      refine ⟨(), { T with visit := T.visit.modify (e, a) ({ · with incidentNumber := target }) },
        ?_, ?_,
        ⟨hsame.1, hsame.2, hsame.3, hsame.4, hsame.5, fun k => ?_⟩,
        horderly.of_tables rfl rfl rfl rfl rfl rfl⟩
      · simp only [Write.apply, hr, DB.references, hsame.nullOr hi, if_true]
      · exact congrArg (fun s => ({ T.listView e n with visits := s } : ListView))
          (linkedRows_modify hr fun _ => rfl)
      · rw [Table.contains_modify]
        exact hsame.visit k

/-! ## Links and entries -/

/-- One row of a pair: the other end must be stored and not linked from here. -/
theorem settles_linkOut {η : Type} {o : Int × Int} {err : SqlErr → η} (hq : env.Quiet)
    (hi : db.incident.contains (e, n) = true) (hne : o ≠ (e, n)) :
    Call.Settles imsDB env (Call.InTxn db (Viewed db e n v))
      (exec .txn (.linkIncidents e n o.1 o.2) err) (o ∉ v.links ∧ db.incident.contains o = true)
      fun _ => Call.InTxn db (Viewed db e n { v with links := insert o v.links }) := by
  refine settles_exec hq fun T id ⟨hv, hsame, horderly⟩ => ⟨fun ⟨hnew, ho⟩ => ?_, fun b T' happly => ?_⟩
  · subst hv
    have hfree : T.incidentLinkedIncident.contains ((e, n), o) = false := Bool.eq_false_iff.mpr hnew
    refine ⟨(), { T with incidentLinkedIncident := T.incidentLinkedIncident.insert ((e, n), o) () },
      ?_, ?_, ⟨hsame.1, hsame.2, hsame.3, hsame.4, hsame.5, hsame.6⟩,
      horderly.of_tables rfl rfl rfl rfl rfl rfl⟩
    · simp [Write.apply, DB.unique, DB.references, hfree, hsame.incident, hi, ho]
    · have hlinks : {o' | (T.incidentLinkedIncident.insert ((e, n), o) ()).contains ((e, n), o') =
          true} = insert o {o' | T.incidentLinkedIncident.contains ((e, n), o') = true} := by
        ext o'
        simp [Table.contains_insert hfree]
      have hback : {o' | (T.incidentLinkedIncident.insert ((e, n), o) ()).contains (o', e, n) =
          true} = {o' | T.incidentLinkedIncident.contains (o', e, n) = true} := by
        ext o'
        simp [Table.contains_insert hfree, hne.symm]
      exact congrArg₂ (fun l b => ({ T.listView e n with links := l, back := b } : ListView)) hlinks
        hback
  · subst hv
    simp only [Write.apply, DB.unique_eq_ok, DB.references_eq_ok] at happly
    obtain ⟨hnew, -, ho, -⟩ := happly
    exact ⟨fun hmem => Bool.eq_false_iff.mp hnew hmem, by rw [← hsame.incident]; exact ho⟩

theorem settles_linkIn {η : Type} {o : Int × Int} {err : SqlErr → η} (hq : env.Quiet)
    (hi : db.incident.contains (e, n) = true) (ho : db.incident.contains o = true)
    (hne : o ≠ (e, n)) :
    Call.Settles imsDB env (Call.InTxn db (Viewed db e n v))
      (exec .txn (.linkIncidents o.1 o.2 e n) err) (o ∉ v.back)
      fun _ => Call.InTxn db (Viewed db e n { v with back := insert o v.back }) := by
  refine settles_exec hq fun T id ⟨hv, hsame, horderly⟩ => ⟨fun hnew => ?_, fun b T' happly => ?_⟩
  · subst hv
    have hfree : T.incidentLinkedIncident.contains (o, e, n) = false := Bool.eq_false_iff.mpr hnew
    refine ⟨(), { T with incidentLinkedIncident := T.incidentLinkedIncident.insert (o, e, n) () },
      ?_, ?_, ⟨hsame.1, hsame.2, hsame.3, hsame.4, hsame.5, hsame.6⟩,
      horderly.of_tables rfl rfl rfl rfl rfl rfl⟩
    · simp [Write.apply, DB.unique, DB.references, hfree, hsame.incident, hi, ho]
    · have hlinks : {o' | (T.incidentLinkedIncident.insert (o, e, n) ()).contains ((e, n), o') =
          true} = {o' | T.incidentLinkedIncident.contains ((e, n), o') = true} := by
        ext o'
        simp [Table.contains_insert hfree, hne.symm]
      have hback : {o' | (T.incidentLinkedIncident.insert (o, e, n) ()).contains (o', e, n) =
          true} = insert o {o' | T.incidentLinkedIncident.contains (o', e, n) = true} := by
        ext o'
        simp [Table.contains_insert hfree]
      exact congrArg₂ (fun l b => ({ T.listView e n with links := l, back := b } : ListView)) hlinks
        hback
  · subst hv
    simp only [Write.apply, DB.unique_eq_ok] at happly
    exact fun hmem => Bool.eq_false_iff.mp happly.1 hmem

theorem settles_unlinkOut {η : Type} {o : Int × Int} {err : SqlErr → η} (hq : env.Quiet)
    (hne : o ≠ (e, n)) :
    Call.Settles imsDB env (Call.InTxn db (Viewed db e n v))
      (exec .txn (.unlinkIncidents e n o.1 o.2) err) True
      fun _ => Call.InTxn db (Viewed db e n { v with links := v.links \ {o} }) := by
  refine settles_exec hq fun T id ⟨hv, hsame, horderly⟩ => ⟨fun _ => ?_, fun _ _ _ => trivial⟩
  subst hv
  refine ⟨(), { T with incidentLinkedIncident := T.incidentLinkedIncident.erase ((e, n), o) }, rfl,
    ?_, ⟨hsame.1, hsame.2, hsame.3, hsame.4, hsame.5, hsame.6⟩,
    horderly.of_tables rfl rfl rfl rfl rfl rfl⟩
  have hlinks : {o' | (T.incidentLinkedIncident.erase ((e, n), o)).contains ((e, n), o') = true} =
      {o' | T.incidentLinkedIncident.contains ((e, n), o') = true} \ {o} := by
    ext o'
    by_cases ho : o' = o <;> simp [Table.contains, Table.find?_erase, ho]
  have hback : {o' | (T.incidentLinkedIncident.erase ((e, n), o)).contains (o', e, n) = true} =
      {o' | T.incidentLinkedIncident.contains (o', e, n) = true} := by
    ext o'
    simp [Table.contains, Table.find?_erase, hne.symm]
  exact congrArg₂ (fun l b => ({ T.listView e n with links := l, back := b } : ListView)) hlinks hback

theorem settles_unlinkIn {η : Type} {o : Int × Int} {err : SqlErr → η} (hq : env.Quiet)
    (hne : o ≠ (e, n)) :
    Call.Settles imsDB env (Call.InTxn db (Viewed db e n v))
      (exec .txn (.unlinkIncidents o.1 o.2 e n) err) True
      fun _ => Call.InTxn db (Viewed db e n { v with back := v.back \ {o} }) := by
  refine settles_exec hq fun T id ⟨hv, hsame, horderly⟩ => ⟨fun _ => ?_, fun _ _ _ => trivial⟩
  subst hv
  refine ⟨(), { T with incidentLinkedIncident := T.incidentLinkedIncident.erase (o, e, n) }, rfl,
    ?_, ⟨hsame.1, hsame.2, hsame.3, hsame.4, hsame.5, hsame.6⟩,
    horderly.of_tables rfl rfl rfl rfl rfl rfl⟩
  have hlinks : {o' | (T.incidentLinkedIncident.erase (o, e, n)).contains ((e, n), o') = true} =
      {o' | T.incidentLinkedIncident.contains ((e, n), o') = true} := by
    ext o'
    simp [Table.contains, Table.find?_erase, hne.symm]
  have hback : {o' | (T.incidentLinkedIncident.erase (o, e, n)).contains (o', e, n) = true} =
      {o' | T.incidentLinkedIncident.contains (o', e, n) = true} \ {o} := by
    ext o'
    by_cases ho : o' = o <;> simp [Table.contains, Table.find?_erase, ho]
  exact congrArg₂ (fun l b => ({ T.listView e n with links := l, back := b } : ListView)) hlinks hback

/-- A new entry is on no timeline yet. -/
theorem DB.journalOf_insert {T : DB} {id : Int} {je : JournalEntry} (h : T.Orderly id) :
    DB.journalOf { T with journalEntry := T.journalEntry.insert id je } e n = T.journalOf e n := by
  have hnew : T.journalEntry.contains id = false :=
    contains_eq_false_of_lt (m := fun k => k) h.entry le_rfl
  refine List.filterMap_congr fun id' hid' => ?_
  have hlt : id' < id := h.incidentEntry _ (mem_incidentEntriesOf.mp hid')
  exact (Table.find?_insert hnew je id').trans (if_neg hlt.ne)

/-- The entry `b` was stored last and is attached to nothing. -/
structure JustEntered (db : DB) (e n : Int) (v : ListView) (je : JournalEntry) (b : Int) (T : DB)
    (id : Int) : Prop where
  viewed : Viewed db e n v T id
  stored : T.journalEntry.find? b = some je
  offIncidents : ∀ k, T.incidentJournalEntry.contains k = true → k.2.2 < b
  offReports : ∀ k, T.reportJournalEntry.contains k = true → k.2.2 < b

theorem settles_createEntry {η : Type} {je : JournalEntry} {err : SqlErr → η} (hq : env.Quiet)
    (hfor : je.onBehalfOfPersonID = none) :
    Call.Settles imsDB env (Call.InTxn db (Viewed db e n v))
      (exec .txn (.createJournalEntry je) err) (db.person.contains je.authorPersonID = true)
      fun b => Call.InTxn db (JustEntered db e n v je b) := by
  refine settles_exec hq fun T id ⟨hv, hsame, horderly⟩ => ⟨fun hauthor => ?_, fun b T' happly => ?_⟩
  · subst hv
    have hnew : T.journalEntry.contains id = false :=
      DB.contains_eq_false_of_lt (m := fun k => k) horderly.entry le_rfl
    refine ⟨id, { T with journalEntry := T.journalEntry.insert id je }, ?_,
      ⟨?_, ⟨hsame.1, hsame.2, hsame.3, hsame.4, hsame.5, hsame.6⟩, fun k hk => ?_,
        fun k hk => (horderly.incidentEntry k hk).trans (Int.lt_succ id),
        fun k hk => (horderly.reportEntry k hk).trans (Int.lt_succ id),
        fun k hk => (horderly.notification k hk).trans (Int.lt_succ id), horderly.mention⟩,
      ?_, horderly.incidentEntry, horderly.reportEntry⟩
    · simp [Write.apply, DB.unique, DB.references, hnew, hsame.person, hauthor, hfor, DB.nullOr]
    · exact congrArg (fun l => ({ T.listView e n with journal := l } : ListView))
        (DB.journalOf_insert horderly)
    · rw [Table.contains_insert hnew, Bool.or_eq_true, decide_eq_true_iff] at hk
      rcases hk with rfl | hk
      · exact Int.lt_succ k
      · exact (horderly.entry k hk).trans (Int.lt_succ id)
    · rw [Table.find?_insert hnew, if_pos rfl]
  · simp only [Write.apply, DB.unique_eq_ok, DB.references_eq_ok] at happly
    rw [← hsame.person]
    exact happly.2.1

theorem settles_attachEntryToReport {η : Type} {r b : Int} {je : JournalEntry} {err : SqlErr → η}
    (hq : env.Quiet) :
    Call.Settles imsDB env (Call.InTxn db (JustEntered db e n v je b))
      (exec .txn (.attachJournalEntryToReport e r b) err) (db.report.contains (e, r) = true)
      fun _ => Call.InTxn db (Viewed db e n v) := by
  refine settles_exec hq fun T id h => ⟨fun hr => ?_, fun _ T' happly => ?_⟩
  · obtain ⟨⟨rfl, hsame, horderly⟩, hstored, -, hoff⟩ := h
    have hfree : T.reportJournalEntry.contains (e, r, b) = false :=
      DB.contains_eq_false_of_lt (m := fun k => k.2.2) hoff le_rfl
    have hentry : T.journalEntry.contains b = true := Table.contains_iff.mpr ⟨je, hstored⟩
    refine ⟨(), { T with reportJournalEntry := T.reportJournalEntry.insert (e, r, b) () }, ?_, rfl,
      ⟨hsame.1, hsame.2, hsame.3, hsame.4, hsame.5, hsame.6⟩,
      fun k hk => (horderly.entry k hk).trans (Int.lt_succ id),
      fun k hk => (horderly.incidentEntry k hk).trans (Int.lt_succ id), fun k hk => ?_,
      fun k hk => (horderly.notification k hk).trans (Int.lt_succ id), horderly.mention⟩
    · simp [Write.apply, DB.unique, DB.references, hfree, hsame.report, hr, hentry]
    · rw [Table.contains_insert hfree, Bool.or_eq_true, decide_eq_true_iff] at hk
      rcases hk with rfl | hk
      · exact (horderly.entry b hentry).trans (Int.lt_succ id)
      · exact (horderly.reportEntry k hk).trans (Int.lt_succ id)
  · obtain ⟨⟨-, hsame, -⟩, -⟩ := h
    simp only [Write.apply, DB.unique_eq_ok, DB.references_eq_ok] at happly
    rw [← hsame.report]
    exact happly.2.1

/-- The journal of an incident after an entry on the timeline of `o`. -/
def ListView.note (v : ListView) (e n : Int) (o : Int × Int) (je : JournalEntry) : ListView :=
  if o = (e, n) then { v with journal := v.journal ++ [je] } else v

theorem ListView.note_self (v : ListView) (e n : Int) (je : JournalEntry) :
    v.note e n (e, n) je = { v with journal := v.journal ++ [je] } :=
  if_pos rfl

/-- The entry `b` is stored. -/
def Noted (db : DB) (e n : Int) (v : ListView) (b : Int) (T : DB) (id : Int) : Prop :=
  Viewed db e n v T id ∧ T.journalEntry.contains b = true

theorem settles_attachEntryToIncident {η : Type} {o : Int × Int} {b : Int} {je : JournalEntry}
    {err : SqlErr → η} (hq : env.Quiet) :
    Call.Settles imsDB env (Call.InTxn db (JustEntered db e n v je b))
      (exec .txn (.attachJournalEntryToIncident o.1 o.2 b) err) (db.incident.contains o = true)
      fun _ => Call.InTxn db (Noted db e n (v.note e n o je) b) := by
  refine settles_exec hq fun T id h => ⟨fun ho => ?_, fun _ T' happly => ?_⟩
  · obtain ⟨⟨rfl, hsame, horderly⟩, hstored, hoff, -⟩ := h
    have hfree : T.incidentJournalEntry.contains (o.1, o.2, b) = false :=
      DB.contains_eq_false_of_lt (m := fun k => k.2.2) hoff le_rfl
    have hentry : T.journalEntry.contains b = true := Table.contains_iff.mpr ⟨je, hstored⟩
    refine ⟨(), { T with incidentJournalEntry := T.incidentJournalEntry.insert (o.1, o.2, b) () },
      ?_, ⟨?_, ⟨hsame.1, hsame.2, hsame.3, hsame.4, hsame.5, hsame.6⟩,
        fun k hk => (horderly.entry k hk).trans (Int.lt_succ id), fun k hk => ?_,
        fun k hk => (horderly.reportEntry k hk).trans (Int.lt_succ id),
        fun k hk => (horderly.notification k hk).trans (Int.lt_succ id), horderly.mention⟩, hentry⟩
    · simp [Write.apply, DB.unique, DB.references, hfree, hsame.incident, ho, hentry]
    · have hjournal : DB.journalOf
          { T with incidentJournalEntry := T.incidentJournalEntry.insert (o.1, o.2, b) () } e n =
          if o = (e, n) then T.journalOf e n ++ [je] else T.journalOf e n := by
        simp only [DB.journalOf, DB.incidentEntriesOf, Table.rows_insert hfree,
          List.filterMap_append, List.filterMap_cons, List.filterMap_nil]
        by_cases heq : o = (e, n)
        · subst heq
          simp [hstored]
        · have hne : ¬ (o.1 = e ∧ o.2 = n) := fun h => heq (Prod.ext h.1 h.2)
          simp [heq, hne]
      have hview := congrArg (fun l => ({ T.listView e n with journal := l } : ListView)) hjournal
      refine hview.trans ?_
      rw [ListView.note]
      split <;> rfl
    · rw [Table.contains_insert hfree, Bool.or_eq_true, decide_eq_true_iff] at hk
      rcases hk with rfl | hk
      · exact (horderly.entry b hentry).trans (Int.lt_succ id)
      · exact (horderly.incidentEntry k hk).trans (Int.lt_succ id)
  · obtain ⟨⟨-, hsame, -⟩, -⟩ := h
    simp only [Write.apply, DB.unique_eq_ok, DB.references_eq_ok] at happly
    rw [← hsame.incident]
    exact happly.2.1

theorem settles_addJournalEntry {r : Int} {text : List JournalLine} (hq : env.Quiet) :
    Call.Settles imsDB env (Call.InTxn db (Viewed db e n v))
      (addJournalEntry .txn e r author text true none)
      (db.person.contains author = true ∧ db.report.contains (e, r) = true)
      fun _ => Call.InTxn db (Viewed db e n v) :=
  Call.settles_ask_inTxn.bind_sure fun _ => (settles_createEntry hq rfl).bind fun _ _ =>
    (settles_attachEntryToReport hq).bind_pure fun _ _ h => h

theorem settles_addIncidentJournalEntry {o : Int × Int} {text : List JournalLine}
    {generated : Bool} (hq : env.Quiet) :
    Call.Settles imsDB env (Call.InTxn db (Viewed db e n v))
      (addIncidentJournalEntry .txn o.1 o.2 author text generated)
      (db.person.contains author = true ∧ db.incident.contains o = true)
      fun b w => ∃ created, Call.InTxn db
        (Noted db e n (v.note e n o { authorPersonID := author, text, created, generated }) b) w := by
  refine Call.settles_ask_inTxn.bind_sure fun created => ?_
  refine (settles_createEntry hq rfl).bind fun b _ => ?_
  exact (settles_attachEntryToIncident hq).bind_pure fun _ _ h => ⟨timeToFloat created, h⟩

/-! ## The four lists -/

/-- A list brought by the update replaces the set; one that is absent leaves it. -/
def wanted {γ : Type} (has : γ → Prop) (desired : Option (List γ)) (s : Set γ) : Set γ :=
  match desired with
  | none => s
  | some l => {a | a ∈ l ∧ (a ∈ s ∨ has a)}

/-- Whether a list can be reconciled: what is to be attached exists, and where the link is a row of
its own it is named once; what is to be detached exists. -/
structure Reconcilable {γ : Type} [DecidableEq γ] (unique : Prop) (ok ok' : γ → Prop)
    (desired : Option (List γ)) (current : List γ) : Prop where
  nodup : unique → ∀ l, desired = some l → (sliceSubtract l current).Nodup
  attach : ∀ l, desired = some l → ∀ a ∈ sliceSubtract l current, ok a
  detach : ∀ l, desired = some l → ∀ a ∈ sliceSubtract current l, ok' a

/-- Attaching what is missing, then detaching what is too much, leaves the list. -/
theorem settles_reconcile {γ δ : Type} [DecidableEq γ] (u : Prop) (ok ok' has : γ → Prop)
    {f g : γ → Go HTTPError Unit} {L : Set γ → ImsWorld → Prop} {current l : List γ} {r : δ}
    (hhas : u → ∀ a, ok a → has a)
    (hf : ∀ S, ∀ a ∈ sliceSubtract l current, Call.Settles imsDB env (L S) (f a)
      ((u → a ∉ S) ∧ ok a) fun _ => L (Call.insertIf (has a) a S))
    (hg : ∀ S, ∀ a ∈ sliceSubtract current l, Call.Settles imsDB env (L S) (g a) (ok' a)
      fun _ => L (S \ {a})) :
    Call.Settles imsDB env (L {a | a ∈ current})
      (do
        (sliceSubtract l current).forM f
        (sliceSubtract current l).forM g
        pure r)
      (Reconcilable u ok ok' (some l) current)
      fun r' w => r' = r ∧ L (wanted has (some l) {a | a ∈ current}) w := by
  have hattach := Call.settles_forM _ {a | a ∈ current} fun S => hf S
  have hdetach := Call.settles_forM _
    ((sliceSubtract l current).foldl (fun S a => Call.insertIf (has a) a S) {a | a ∈ current}) fun S => hg S
  refine Call.Settles.conseq (hattach.bind fun _ _ =>
    hdetach.bind_pure (L := fun r' w => r' = r ∧ L _ w) fun _ _ h => ⟨rfl, h⟩) (fun _ h => h) ?_
    fun _ w _ h => ⟨h.1, ?_⟩
  · rw [Call.eachOk_insertIf hhas, Call.eachOk_const]
    constructor
    · rintro ⟨⟨hnodup, hok⟩, hok'⟩
      refine ⟨fun hu l' hl' => ?_, fun l' hl' => ?_, fun l' hl' => ?_⟩ <;> cases hl'
      · exact (hnodup hu).1
      · exact hok
      · exact hok'
    · rintro ⟨hnodup, hok, hok'⟩
      refine ⟨⟨fun hu => ⟨hnodup hu l rfl, fun a ha => ?_⟩, hok l rfl⟩, hok' l rfl⟩
      exact (mem_sliceSubtract.mp ha).2
  · have hset := h.2
    rw [Call.foldl_insertIf, Call.foldl_erase] at hset
    refine cast (congrArg (fun S => L S w) ?_) hset
    ext a
    simp only [Set.mem_sdiff, Set.mem_ofPred_eq, mem_sliceSubtract, wanted]
    tauto

/-- The words a line about a scalar begins with. -/
def scalarWords : List String := ["Changed ", "Cleared ", "Marked "]

def JournalLine.isScalar : JournalLine → Bool
  | .text s => scalarWords.any fun word => word.toList.isPrefixOf s.toList
  | _ => false

/-- What a list section logs: something if and only if it changes something, and nothing about
scalars. -/
structure ListLines (changed : Prop) (logs : List JournalLine) : Prop where
  silent : logs ≠ [] ↔ changed
  other : ∀ line ∈ logs, line.isScalar = false

theorem listLines_logUnless {γ : Type} {add sub : List γ} {added removed : JournalLine}
    (hadded : added.isScalar = false) (hremoved : removed.isScalar = false) :
    ListLines (add ≠ [] ∨ sub ≠ []) (logUnless add added ++ logUnless sub removed) := by
  refine ⟨?_, fun line hline => ?_⟩
  · cases add <;> cases sub <;> simp [logUnless]
  · rcases List.mem_append.mp hline with h | h
    · cases add with
      | nil => cases h
      | cons => exact (List.mem_singleton.mp h) ▸ hadded
    · cases sub with
      | nil => cases h
      | cons => exact (List.mem_singleton.mp h) ▸ hremoved

/-- Neither text begins with the other. -/
def Apart (s t : String) : Prop :=
  s.toList.isPrefixOf t.toList = false ∧ t.toList.isPrefixOf s.toList = false

instance (s t : String) : Decidable (Apart s t) := inferInstanceAs (Decidable (_ ∧ _))

theorem Apart.startsWith_append {s t : String} (h : Apart s t) (rest : String) :
    s.toList.isPrefixOf (t ++ rest).toList = false := by
  refine Bool.eq_false_iff.mpr fun hp => ?_
  rw [List.isPrefixOf_iff_prefix, String.toList_append] at hp
  rcases List.prefix_or_prefix_of_prefix hp (List.prefix_append ..) with hst | hts
  · exact Bool.eq_false_iff.mp h.1 (List.isPrefixOf_iff_prefix.mpr hst)
  · exact Bool.eq_false_iff.mp h.2 (List.isPrefixOf_iff_prefix.mpr hts)

theorem isScalar_text {label : String} (h : ∀ w ∈ scalarWords, Apart w label) (rest : String) :
    (JournalLine.text (label ++ rest)).isScalar = false := by
  refine List.any_eq_false.mpr fun w hw => ?_
  rw [(h w hw).startsWith_append rest]
  exact Bool.false_ne_true

/-- The list changes something. -/
def Changes {γ : Type} [DecidableEq γ] (desired : Option (List γ)) (current : List γ) : Prop :=
  ∃ l, desired = some l ∧ (sliceSubtract l current ≠ [] ∨ sliceSubtract current l ≠ [])

variable {inc : IncidentJSON} {st : LoadedIncident}

theorem listLines_none {γ : Type} [DecidableEq γ] {current : List γ} :
    ListLines (Changes (none : Option (List γ)) current) [] :=
  ⟨⟨fun h => absurd rfl h, fun ⟨_, h, _⟩ => nomatch h⟩, fun _ h => nomatch h⟩

theorem ListLines.some {γ : Type} [DecidableEq γ] {l current : List γ} {logs : List JournalLine}
    (h : ListLines (sliceSubtract l current ≠ [] ∨ sliceSubtract current l ≠ []) logs) :
    ListLines (Changes (some l) current) logs := by
  refine ⟨h.silent.trans ⟨fun hc => ⟨l, rfl, hc⟩, ?_⟩, h.other⟩
  rintro ⟨l', hl, hc⟩
  cases hl
  exact hc

theorem reconcilable_none {γ : Type} [DecidableEq γ] {u : Prop} {ok ok' : γ → Prop}
    {current : List γ} : Reconcilable u ok ok' none current :=
  ⟨fun _ _ h => (nomatch h), fun _ h => (nomatch h), fun _ h => (nomatch h)⟩

/-- When the types can be reconciled. -/
def TypesOk (db : DB) (inc : IncidentJSON) (current : List Int) : Prop :=
  Reconcilable True (fun t => db.incidentType.contains t = true) (fun _ => True) inc.incidentTypeIDs
    current

theorem settles_reconcileTypes (hq : env.Quiet)
    (hi : db.incident.contains (inc.eventID, inc.number) = true)
    (hv : v.types = {t | t ∈ st.row.incidentTypeIds}) :
    Call.Settles imsDB env (Call.InTxn db (Viewed db inc.eventID inc.number v))
      (reconcileTypes inc st) (TypesOk db inc st.row.incidentTypeIds)
      fun logs w => ListLines (Changes inc.incidentTypeIDs st.row.incidentTypeIds) logs ∧
        Call.InTxn db (Viewed db inc.eventID inc.number
          { v with types := wanted (fun _ => True) inc.incidentTypeIDs v.types }) w := by
  unfold reconcileTypes TypesOk
  cases inc.incidentTypeIDs with
  | none =>
      exact (Call.settles_pure fun w h => ⟨listLines_none, h⟩).conseq (fun _ h => h)
        ⟨fun _ => reconcilable_none, fun _ => trivial⟩ fun _ _ _ h => h
  | some l =>
      refine Call.Settles.conseq (settles_reconcile True
        (fun t => db.incidentType.contains t = true) (fun _ => True) (fun _ => True)
        (L := fun S => Call.InTxn db (Viewed db inc.eventID inc.number { v with types := S }))
        (fun _ _ _ => trivial) (fun S t _ => ?_) fun S t _ => settles_detachType hq)
        (fun w h => ?_) Iff.rfl fun logs w _ h => ⟨?_, ?_⟩
      · refine (settles_attachType hq hi).conseq (fun _ h => h) (by simp) fun _ w _ h => ?_
        rw [Call.insertIf_of trivial]
        exact h
      · rw [← hv]
        exact h
      · rw [h.1]
        exact (listLines_logUnless (isScalar_text (by decide) _) (isScalar_text (by decide) _)).some
      · rw [hv]
        exact h.2

def DB.HasReport (db : DB) (e r : Int) : Prop := db.report.contains (e, r) = true

def DB.HasVisit (db : DB) (e a : Int) : Prop := db.visit.contains (e, a) = true

instance (db : DB) (e r : Int) : Decidable (db.HasReport e r) := inferInstanceAs (Decidable (_ = _))

instance (db : DB) (e a : Int) : Decidable (db.HasVisit e a) := inferInstanceAs (Decidable (_ = _))

/-- When the reports can be reconciled: each change is entered on the report's own timeline. -/
def ReportsOk (db : DB) (inc : IncidentJSON) (author : Int) (current : List Int) : Prop :=
  Reconcilable False (fun r => db.person.contains author = true ∧ db.HasReport inc.eventID r)
    (fun r => db.person.contains author = true ∧ db.HasReport inc.eventID r) inc.reports current

theorem settles_attachReport {r : Int} (hq : env.Quiet) (hi : db.incident.contains (e, n) = true) :
    Call.Settles imsDB env (Call.InTxn db (Viewed db e n v)) (attachReport e n author r)
      (db.person.contains author = true ∧ db.HasReport e r)
      fun _ => Call.InTxn db (Viewed db e n
        { v with reports := Call.insertIf (db.HasReport e r) r v.reports }) := by
  have hn : DB.nullOr db.incident ((some n).map (e, ·)) = true := hi
  refine (settles_relinkReport hq hn).bind_sure fun _ => ?_
  refine (settles_addJournalEntry hq).bind_pure fun _ w h => ?_
  rw [relinked, if_pos rfl] at h
  exact h

theorem settles_detachReport {r : Int} (hq : env.Quiet) :
    Call.Settles imsDB env (Call.InTxn db (Viewed db e n v)) (detachReport e n author r)
      (db.person.contains author = true ∧ db.HasReport e r)
      fun _ => Call.InTxn db (Viewed db e n { v with reports := v.reports \ {r} }) :=
  (settles_relinkReport hq rfl).bind_sure fun _ => (settles_addJournalEntry hq).bind_pure fun _ _ h => h

theorem settles_reconcileReports (author : Int) (hq : env.Quiet)
    (hi : db.incident.contains (inc.eventID, inc.number) = true)
    (hv : v.reports = {r | r ∈ st.row.reportNumbers}) :
    Call.Settles imsDB env (Call.InTxn db (Viewed db inc.eventID inc.number v))
      (reconcileReports inc st author) (ReportsOk db inc author st.row.reportNumbers)
      fun logs w => ListLines (Changes inc.reports st.row.reportNumbers) logs.1 ∧
        Call.InTxn db (Viewed db inc.eventID inc.number
          { v with reports := wanted (db.HasReport inc.eventID) inc.reports v.reports }) w := by
  unfold reconcileReports ReportsOk
  cases inc.reports with
  | none =>
      exact (Call.settles_pure fun w h => ⟨listLines_none, h⟩).conseq (fun _ h => h)
        ⟨fun _ => reconcilable_none, fun _ => trivial⟩ fun _ _ _ h => h
  | some l =>
      refine Call.Settles.conseq (settles_reconcile False
        (fun r => db.person.contains author = true ∧ db.HasReport inc.eventID r)
        (fun r => db.person.contains author = true ∧ db.HasReport inc.eventID r)
        (db.HasReport inc.eventID)
        (L := fun S => Call.InTxn db (Viewed db inc.eventID inc.number { v with reports := S }))
        (fun h => h.elim) (fun S r _ => ?_) fun S r _ => settles_detachReport hq)
        (fun w h => ?_) Iff.rfl fun logs w _ h => ⟨?_, ?_⟩
      · exact (settles_attachReport hq hi).conseq (fun _ h => h) (by simp) fun _ _ _ h => h
      · rw [← hv]
        exact h
      · rw [h.1]
        exact (listLines_logUnless rfl rfl).some
      · rw [hv]
        exact h.2

/-- Visits can always be reconciled; those that are not stored are passed over. -/
theorem settles_reconcileVisits (hq : env.Quiet)
    (hi : db.incident.contains (inc.eventID, inc.number) = true)
    (hv : v.visits = {a | a ∈ st.row.visitNumbers}) :
    Call.Settles imsDB env (Call.InTxn db (Viewed db inc.eventID inc.number v))
      (reconcileVisits inc st) True
      fun logs w => ListLines (Changes inc.visits st.row.visitNumbers) logs.1 ∧
        Call.InTxn db (Viewed db inc.eventID inc.number
          { v with visits := wanted (db.HasVisit inc.eventID) inc.visits v.visits }) w := by
  unfold reconcileVisits
  cases inc.visits with
  | none => exact Call.settles_pure fun w h => ⟨listLines_none, h⟩
  | some l =>
      refine Call.Settles.conseq (settles_reconcile False (fun _ => True) (fun _ => True)
        (db.HasVisit inc.eventID)
        (L := fun S => Call.InTxn db (Viewed db inc.eventID inc.number { v with visits := S }))
        (fun h => h.elim) (fun S a _ => ?_) fun S a _ => settles_relinkVisit hq rfl)
        (fun w h => ?_) ⟨fun _ => trivial, fun _ => ⟨fun h => h.elim, fun _ _ _ _ => trivial,
          fun _ _ _ _ => trivial⟩⟩ fun logs w _ h => ⟨?_, ?_⟩
      · have hn : DB.nullOr db.incident ((some inc.number).map (inc.eventID, ·)) = true := hi
        refine (settles_relinkVisit hq hn).conseq (fun _ h => h) (by simp) fun _ w _ h => ?_
        rw [relinked, if_pos rfl] at h
        exact h
      · rw [← hv]
        exact h
      · rw [h.1]
        exact (listLines_logUnless (isScalar_text (by decide) _) (isScalar_text (by decide) _)).some
      · rw [hv]
        exact h.2

/-- The incidents a payload names as linked. -/
def IncidentJSON.linkTargets (inc : IncidentJSON) : Option (List (Int × Int)) :=
  inc.linkedIncidents.map fun l => l.map fun dli => (dli.eventID, dli.number)

/-- When the links can be reconciled: each change is entered on the other incident's timeline. -/
def LinksOk (db : DB) (inc : IncidentJSON) (author : Int) (current : List (Int × Int)) : Prop :=
  Reconcilable True
    (fun o => db.person.contains author = true ∧ db.incident.contains o = true ∧
      o ≠ (inc.eventID, inc.number))
    (fun o => db.person.contains author = true ∧ db.incident.contains o = true) inc.linkTargets
    current

/-- An incident cannot be linked to itself: the second row is the first. -/
theorem settles_linkSelf {eventName : String} (hq : env.Quiet) :
    Call.Settles imsDB env (Call.InTxn db (Viewed db e n v)) (linkIncident e n author eventName (e, n))
      False fun _ _ => True := by
  refine Call.Settles.conseq (Call.Settles.bind (p := (e, n) ∉ v.links ∧
      db.incident.contains (e, n) = true) (q := False)
    (J := fun _ => Call.InTxn db fun T _ =>
      T.incidentLinkedIncident.contains ((e, n), e, n) = true) ?_ fun _ _ => ?_)
    (fun _ h => h) (by simp) fun _ _ _ h => h
  · refine settles_exec hq fun T id hviewed => ⟨fun hp => ?_, fun _ T' happly => ?_⟩
    · obtain ⟨hv, hsame, _⟩ := hviewed
      obtain ⟨hnew, hi⟩ := hp
      subst hv
      have hfree : T.incidentLinkedIncident.contains ((e, n), e, n) = false :=
        Bool.eq_false_iff.mpr hnew
      refine ⟨(), { T with incidentLinkedIncident :=
        T.incidentLinkedIncident.insert ((e, n), e, n) () }, ?_, ?_⟩
      · simp [Write.apply, DB.unique, DB.references, hfree, hsame.incident, hi]
      · simp [Table.contains_insert hfree]
    · obtain ⟨hv, hsame, _⟩ := hviewed
      subst hv
      simp only [Write.apply, DB.unique_eq_ok, DB.references_eq_ok] at happly
      obtain ⟨hnew, hi, -⟩ := happly
      exact ⟨fun hmem => Bool.eq_false_iff.mp hnew hmem, by rw [← hsame.incident]; exact hi⟩
  · refine Call.Settles.conseq (Call.Settles.bind (p := False) (q := True)
      (J := fun _ => Call.InTxn db fun _ _ => True) ?_ fun _ => False.elim) (fun _ h => h) (by simp)
      fun _ _ _ h => h
    refine settles_exec (K := fun _ _ _ => True) hq fun T id hstored =>
      ⟨False.elim, fun _ T' happly => ?_⟩
    simp only [Write.apply, DB.unique_eq_ok] at happly
    rw [hstored] at happly
    exact Bool.false_ne_true happly.1.symm

theorem settles_linkIncident {o : Int × Int} {eventName : String} (hq : env.Quiet)
    (hi : db.incident.contains (e, n) = true) (hback : v.back = v.links) :
    Call.Settles imsDB env (Call.InTxn db (Viewed db e n v)) (linkIncident e n author eventName o)
      (o ∉ v.links ∧ db.person.contains author = true ∧ db.incident.contains o = true ∧ o ≠ (e, n))
      fun _ => Call.InTxn db
        (Viewed db e n { v with links := insert o v.links, back := insert o v.links }) := by
  by_cases hne : o = (e, n)
  · subst hne
    exact (settles_linkSelf hq).conseq (fun _ h => h) (by simp) fun _ _ h _ => h.elim
  · refine Call.Settles.conseq ((settles_linkOut hq hi hne).bind fun _ hout =>
      (settles_linkIn hq hi hout.2 hne).bind fun _ _ =>
        (settles_addIncidentJournalEntry hq).bind_pure fun b w h => ?_)
      (fun _ h => h) ?_ fun _ _ _ h => h
    · obtain ⟨created, h⟩ := h
      refine h.mono fun T id hT => ?_
      have hviewed := hT.1
      rw [ListView.note, if_neg hne, hback] at hviewed
      exact hviewed
    · simp only [hback]
      tauto

theorem settles_unlinkIncident {o : Int × Int} {eventName : String} (hq : env.Quiet)
    (hne : o ≠ (e, n)) (hback : v.back = v.links) :
    Call.Settles imsDB env (Call.InTxn db (Viewed db e n v)) (unlinkIncident e n author eventName o)
      (db.person.contains author = true ∧ db.incident.contains o = true)
      fun _ => Call.InTxn db
        (Viewed db e n { v with links := v.links \ {o}, back := v.links \ {o} }) := by
  refine (settles_unlinkOut hq hne).bind_sure fun _ => (settles_unlinkIn hq hne).bind_sure fun _ =>
    (settles_addIncidentJournalEntry hq).bind_pure fun b w ⟨created, h⟩ => h.mono fun T id hT => ?_
  have hviewed := hT.1
  rw [ListView.note, if_neg hne, hback] at hviewed
  exact hviewed

theorem ListView.mirrored (h : v.back = v.links) : { v with links := v.links, back := v.links } = v := by
  cases v
  cases h
  rfl

theorem settles_reconcileLinkedIncidents (author : Int) (hq : env.Quiet)
    (hi : db.incident.contains (inc.eventID, inc.number) = true)
    (hself : (inc.eventID, inc.number) ∉ st.links) (hback : v.back = v.links)
    (hv : v.links = {o | o ∈ st.links}) :
    Call.Settles imsDB env (Call.InTxn db (Viewed db inc.eventID inc.number v))
      (reconcileLinkedIncidents inc st author) (LinksOk db inc author st.links)
      fun logs w => ListLines (Changes inc.linkTargets st.links) logs.1 ∧
        Call.InTxn db (Viewed db inc.eventID inc.number
          { v with
            links := wanted (fun _ => True) inc.linkTargets v.links
            back := wanted (fun _ => True) inc.linkTargets v.links }) w := by
  unfold reconcileLinkedIncidents LinksOk IncidentJSON.linkTargets
  cases inc.linkedIncidents with
  | none =>
      refine (Call.settles_pure fun w h => ⟨listLines_none, ?_⟩).conseq (fun _ h => h)
        ⟨fun _ => reconcilable_none, fun _ => trivial⟩ fun _ _ _ h => h
      show Call.InTxn db (Viewed db inc.eventID inc.number
        { v with links := v.links, back := v.links }) w
      rw [ListView.mirrored hback]
      exact h
  | some l =>
      refine Call.Settles.conseq (settles_reconcile True
        (fun o => db.person.contains author = true ∧ db.incident.contains o = true ∧
          o ≠ (inc.eventID, inc.number))
        (fun o => db.person.contains author = true ∧ db.incident.contains o = true) (fun _ => True)
        (L := fun S => Call.InTxn db
          (Viewed db inc.eventID inc.number { v with links := S, back := S }))
        (fun _ _ _ => trivial) (fun S o _ => ?_) fun S o ho => ?_)
        (fun w h => ?_) Iff.rfl fun logs w _ h => ⟨?_, ?_⟩
      · refine (settles_linkIncident hq hi rfl).conseq (fun _ h => h) (by simp) fun _ w _ h => ?_
        rw [Call.insertIf_of trivial]
        exact h
      · refine settles_unlinkIncident hq ?_ rfl
        rintro rfl
        exact hself (mem_sliceSubtract.mp ho).1
      · show Call.InTxn db (Viewed db inc.eventID inc.number
          { v with links := {o | o ∈ st.links}, back := {o | o ∈ st.links} }) w
        rw [← hv, ListView.mirrored hback]
        exact h
      · rw [h.1]
        exact (listLines_logUnless (isScalar_text (by decide) _) (isScalar_text (by decide) _)).some
      · rw [hv]
        exact h.2

/-! ## Entries -/

/-- The directory answers whenever it is asked. -/
def DirectoryUp (env : ImsEnv) : Prop := ∀ t, ∃ users, env.answer t .getAllUsers = .ok users

theorem settles_createMention {η : Type} {je b p : Int} {err : SqlErr → η} (hq : env.Quiet) :
    Call.Settles imsDB env (Call.InTxn db (Noted db e n v b))
      (exec .txn (.createJournalEntryMention je p) err) True
      fun _ => Call.InTxn db (Noted db e n v b) := by
  refine settles_exec hq fun T id ⟨⟨hv, hsame, horderly⟩, hstored⟩ => ⟨fun _ => ?_, fun _ _ _ => trivial⟩
  subst hv
  by_cases hboth : T.journalEntry.contains je && T.person.contains p
  · refine ⟨(), { T with journalEntryMention := T.journalEntryMention.insert (je, p) () },
      by simp only [Write.apply, hboth, if_true],
      ⟨rfl, ⟨hsame.1, hsame.2, hsame.3, hsame.4, hsame.5, hsame.6⟩,
        fun k hk => (horderly.entry k hk).trans (Int.lt_succ id),
        fun k hk => (horderly.incidentEntry k hk).trans (Int.lt_succ id),
        fun k hk => (horderly.reportEntry k hk).trans (Int.lt_succ id),
        fun k hk => (horderly.notification k hk).trans (Int.lt_succ id), fun k hk => ?_⟩, hstored⟩
    cases hfree : T.journalEntryMention.contains (je, p) with
    | true => exact horderly.mention k (by simpa [Table.insert, Table.mem_keys_iff, hfree] using hk)
    | false =>
        rw [Table.contains_insert hfree, Bool.or_eq_true, decide_eq_true_iff] at hk
        rcases hk with rfl | hk
        · rw [Bool.and_eq_true] at hboth
          exact hboth.2
        · exact horderly.mention k hk
  · exact ⟨(), T, by simp only [Write.apply, hboth, Bool.false_eq_true, if_false],
      ⟨rfl, hsame, horderly.of_tables rfl rfl rfl rfl rfl rfl⟩, hstored⟩

theorem settles_addJournalEntryMentions (s : Service) {b : Int} {text : String} {ids : List Int}
    (hq : env.Quiet) (hup : DirectoryUp env) :
    Call.Settles imsDB env (Call.InTxn db (Noted db e n v b))
      (addJournalEntryMentions s .txn b text ids) True
      fun _ => Call.InTxn db (Noted db e n v b) := by
  have htyped : Call.Settles imsDB env (Call.InTxn db (Noted db e n v b))
      (resolveTypedMentionIDs s text) True fun _ => Call.InTxn db (Noted db e n v b) := by
    refine Call.settles_ite (fun _ => Call.settles_pure fun _ h => h) fun _ => ?_
    refine Call.Settles.bind_sure (J := fun _ => Call.InTxn db (Noted db e n v b)) ?_ fun _ =>
      Call.settles_pure fun _ h => h
    refine Call.Settles.bind_sure (J := fun r w => (∃ users, r = .ok users) ∧
      Call.InTxn db (Noted db e n v b) w) (Call.settles_ask fun w h => ⟨hup w.tick, h⟩) fun r => ?_
    refine Call.Settles.of_fact (fun _ h => h.1) ?_
    rintro ⟨users, rfl⟩
    exact Call.settles_pure fun _ h => h.2
  refine (Call.Settles.mapErr htyped).bind_sure fun typed => Call.settles_forM_sure _ fun p _ => ?_
  exact Call.settles_ite (fun _ => Call.settles_pure fun _ h => h) fun _ => settles_createMention hq

theorem settles_createNotification {b p : Int} (hq : env.Quiet)
    (hevent : db.event.contains e = true) (hi : db.incident.contains (e, n) = true)
    (hauthor : db.person.contains author = true) (hp : db.person.contains p = true) :
    Call.Settles imsDB env (Call.InTxn db (Noted db e n v b))
      (createNotification .txn p .mentioned e (some n) none (some b) author) True
      fun _ => Call.InTxn db (Noted db e n v b) := by
  refine Call.settles_ite (fun _ => Call.settles_pure fun _ h => h) fun _ => ?_
  refine Call.settles_ask_inTxn.bind_sure fun created => ?_
  refine settles_exec hq fun T id ⟨⟨hv, hsame, horderly⟩, hstored⟩ => ⟨fun _ => ?_, fun _ _ _ => trivial⟩
  subst hv
  have hfree : T.notification.contains id = false :=
    DB.contains_eq_false_of_lt (m := fun k => k) horderly.notification le_rfl
  refine ⟨(), { T with notification := T.notification.insert id ⟨p, .mentioned, e, some n, none,
      some b, some author, timeToFloat created, none⟩ }, ?_,
    ⟨rfl, ⟨hsame.1, hsame.2, hsame.3, hsame.4, hsame.5, hsame.6⟩,
      fun k hk => (horderly.entry k hk).trans (Int.lt_succ id),
      fun k hk => (horderly.incidentEntry k hk).trans (Int.lt_succ id),
      fun k hk => (horderly.reportEntry k hk).trans (Int.lt_succ id), fun k hk => ?_,
      horderly.mention⟩, hstored⟩
  · simp [Write.apply, DB.unique, DB.references, DB.nullOr, hfree, hsame.person, hsame.event,
      hsame.incident, hp, hauthor, hevent, hi, hstored]
  · rw [Table.contains_insert hfree, Bool.or_eq_true, decide_eq_true_iff] at hk
    rcases hk with rfl | hk
    · exact Int.lt_succ k
    · exact (horderly.notification k hk).trans (Int.lt_succ id)

theorem settles_generateMentionNotifications {b : Int} (hq : env.Quiet)
    (hevent : db.event.contains e = true) (hi : db.incident.contains (e, n) = true)
    (hauthor : db.person.contains author = true) :
    Call.Settles imsDB env (Call.InTxn db (Noted db e n v b))
      (generateMentionNotifications .txn e n b author) True
      fun _ => Call.InTxn db (Noted db e n v b) := by
  refine Call.Settles.bind_sure (Call.Settles.mapErr (Call.settles_read_txn
    (b := fun T => T.journalEntryMention.rows.filterMap fun r => if r.1.1 = b then some r.1.2 else none)
    hq fun _ _ _ => rfl)) fun ids => ?_
  refine Call.Settles.of_fact (q := ∀ p ∈ ids, db.person.contains p = true) (fun w h => ?_)
    fun hids => ?_
  · obtain ⟨-, T, -, rfl, ⟨-, hsame, horderly⟩, -⟩ := h
    intro p hp
    obtain ⟨⟨⟨je, p'⟩, u⟩, hrow, hsome⟩ := List.mem_filterMap.mp hp
    simp only [Option.ite_none_right_eq_some, Option.some.injEq] at hsome
    obtain ⟨rfl, rfl⟩ := hsome
    rw [← hsame.person]
    exact horderly.mention _ (Table.mem_keys_iff.mp (List.mem_map_of_mem hrow))
  · have hloop := Call.settles_forM_sure ids fun p hp =>
      settles_createNotification (v := v) (b := b) hq hevent hi hauthor (hids p hp)
    refine (hloop.bind_pure (L := fun _ => Call.InTxn db (Noted db e n v b)) fun _ _ h => h).conseq
      (fun w h => ?_) Iff.rfl fun _ _ _ h => h
    exact Call.InTxn.mono h fun _ _ hT => hT.2

/-- A typed entry goes through: whom it mentions is stored, and whom it names otherwise is passed
over. -/
theorem settles_addTypedEntry (s : Service) (entry : JournalEntryJSON) (hq : env.Quiet)
    (hup : DirectoryUp env) (hevent : db.event.contains e = true)
    (hi : db.incident.contains (e, n) = true) (hauthor : db.person.contains author = true) :
    Call.Settles imsDB env (Call.InTxn db (Viewed db e n v)) (addTypedEntry s e n author entry) True
      fun _ w => ∃ journal, Call.InTxn db (Viewed db e n { v with journal }) w := by
  refine Call.settles_ite (fun _ => Call.settles_pure fun _ h => ⟨v.journal, h⟩) fun _ => ?_
  refine Call.Settles.bind_sure ((settles_addIncidentJournalEntry (o := (e, n)) hq).conseq
    (fun _ h => h) (by simp [hauthor, hi]) fun _ _ _ h => h) fun b => ?_
  refine Call.settles_exists fun created => ?_
  refine (settles_addJournalEntryMentions s hq hup).bind_sure fun _ => ?_
  refine (settles_generateMentionNotifications hq hevent hi hauthor).conseq (fun _ h => h) Iff.rfl
    fun _ w _ h => ?_
  rw [ListView.note_self] at h
  exact ⟨_, h.mono fun _ _ hT => hT.1⟩

theorem settles_addChangeEntry {logs : List JournalLine} (hq : env.Quiet)
    (hi : db.incident.contains (e, n) = true) (hauthor : db.person.contains author = true) :
    Call.Settles imsDB env (Call.InTxn db (Viewed db e n v)) (addChangeEntry e n author logs) True
      fun _ w => ∃ entries : List JournalEntry,
        Call.InTxn db (Viewed db e n { v with journal := v.journal ++ entries }) w ∧
          entries.map (·.text) = if logs = [] then [] else [logs] := by
  refine Call.settles_ite (fun hnil => Call.settles_pure fun _ h => ⟨[], ?_, ?_⟩) fun hne => ?_
  · rw [List.append_nil]
    exact h
  · rw [if_pos (List.isEmpty_iff.mp hnil)]
    rfl
  · refine Call.Settles.bind_pure ((settles_addIncidentJournalEntry (o := (e, n)) hq).conseq
      (fun _ h => h) (by simp [hauthor, hi]) fun _ _ _ h => h) fun b w ⟨created, h⟩ => ?_
    rw [ListView.note_self] at h
    refine ⟨_, h.mono fun _ _ hT => hT.1, ?_⟩
    rw [if_neg fun h => hne (List.isEmpty_iff.mpr h)]
    rfl

theorem settles_typedEntries (s : Service) (entries : List JournalEntryJSON) (hq : env.Quiet)
    (hup : entries ≠ [] → DirectoryUp env) (hevent : db.event.contains e = true)
    (hi : db.incident.contains (e, n) = true) (hauthor : db.person.contains author = true) :
    Call.Settles imsDB env (Call.InTxn db (Viewed db e n v))
      (Call.concatMap (addTypedEntry s e n author) entries) True
      fun _ w => ∃ journal, Call.InTxn db (Viewed db e n { v with journal }) w ∧
        (entries = [] → journal = v.journal) := by
  cases entries with
  | nil => exact Call.settles_pure fun _ h => ⟨_, h, fun _ => rfl⟩
  | cons entry entries =>
      have hpass : ∀ entry, Call.Settles imsDB env
          (fun w => ∃ journal, Call.InTxn db (Viewed db e n { v with journal }) w)
          (addTypedEntry s e n author entry) True
          fun _ w => ∃ journal, Call.InTxn db (Viewed db e n { v with journal }) w := fun entry =>
        Call.settles_exists fun journal =>
          settles_addTypedEntry (v := { v with journal }) s entry hq (hup (List.cons_ne_nil _ _))
            hevent hi hauthor
      exact (Call.settles_concatMap hpass (entry :: entries)).conseq (fun _ h => ⟨_, h⟩) Iff.rfl
        fun _ _ _ ⟨journal, h⟩ => ⟨journal, h, fun hnil => nomatch hnil⟩

/-! ## The whole reconciliation -/

/-- The incident with the lists the update wants. -/
def ListView.reconciled (v : ListView) (db : DB) (inc : IncidentJSON) : ListView :=
  { v with
    types := wanted (fun _ => True) inc.incidentTypeIDs v.types
    reports := wanted (db.HasReport inc.eventID) inc.reports v.reports
    visits := wanted (db.HasVisit inc.eventID) inc.visits v.visits
    links := wanted (fun _ => True) inc.linkTargets v.links
    back := wanted (fun _ => True) inc.linkTargets v.links }

/-- The lists an update works with are those of the incident. -/
structure LoadedAs (inc : IncidentJSON) (st : LoadedIncident) (v : ListView) : Prop where
  types : v.types = {t | t ∈ st.row.incidentTypeIds}
  reports : v.reports = {r | r ∈ st.row.reportNumbers}
  visits : v.visits = {a | a ∈ st.row.visitNumbers}
  links : v.links = {o | o ∈ st.links}
  back : v.back = v.links
  notSelf : (inc.eventID, inc.number) ∉ st.links

/-- When the lists of an update can be reconciled. -/
structure ListsOk (db : DB) (inc : IncidentJSON) (st : LoadedIncident) (author : Int) : Prop where
  types : TypesOk db inc st.row.incidentTypeIds
  reports : ReportsOk db inc author st.row.reportNumbers
  links : LinksOk db inc author st.links

/-- Some list changes something. -/
def AnyChange (inc : IncidentJSON) (st : LoadedIncident) : Prop :=
  Changes inc.incidentTypeIDs st.row.incidentTypeIds ∨ Changes inc.reports st.row.reportNumbers ∨
    Changes inc.visits st.row.visitNumbers ∨ Changes inc.linkTargets st.links

theorem ListLines.append {p q : Prop} {l l' : List JournalLine} (h : ListLines p l)
    (h' : ListLines q l') : ListLines (p ∨ q) (l ++ l') := by
  refine ⟨?_, fun line hline => (List.mem_append.mp hline).elim (h.other line) (h'.other line)⟩
  rw [← h.silent, ← h'.silent]
  cases l <;> cases l' <;> simp

/-- What an update leaves of its incident besides the row: the lists it wants, and, if it brings no
typed entry, one entry more, with what it logs, unless it logs nothing. -/
def Reconciled (db : DB) (inc : IncidentJSON) (st : LoadedIncident) (v : ListView)
    (scalarLogs : List JournalLine) (T : DB) (id : Int) : Prop :=
  ∃ journal logs, Viewed db inc.eventID inc.number { v.reconciled db inc with journal } T id ∧
    ListLines (AnyChange inc st) logs ∧
    (inc.journalEntries = [] → ∃ entries, journal = v.journal ++ entries ∧
      entries.map (·.text) = if scalarLogs ++ logs = [] then [] else [scalarLogs ++ logs])

theorem settles_reconcileAll (s : Service) (author : Int) (scalarLogs : List JournalLine)
    (hq : env.Quiet) (hup : inc.journalEntries ≠ [] → DirectoryUp env)
    (hevent : db.event.contains inc.eventID = true)
    (hi : db.incident.contains (inc.eventID, inc.number) = true)
    (hauthor : db.person.contains author = true) (hst : LoadedAs inc st v) :
    Call.Settles imsDB env (Call.InTxn db (Viewed db inc.eventID inc.number v))
      (reconcileAll s inc st author scalarLogs) (ListsOk db inc st author)
      fun _ => Call.InTxn db (Reconciled db inc st v scalarLogs) := by
  have htypes := settles_reconcileTypes hq hi hst.types
  have hreports := settles_reconcileReports author
    (v := { v with types := wanted (fun _ => True) inc.incidentTypeIDs v.types }) hq hi hst.reports
  have hvisits := settles_reconcileVisits
    (v := { v with
      types := wanted (fun _ => True) inc.incidentTypeIDs v.types
      reports := wanted (db.HasReport inc.eventID) inc.reports v.reports }) hq hi hst.visits
  have hlinks := settles_reconcileLinkedIncidents author
    (v := { v with
      types := wanted (fun _ => True) inc.incidentTypeIDs v.types
      reports := wanted (db.HasReport inc.eventID) inc.reports v.reports
      visits := wanted (db.HasVisit inc.eventID) inc.visits v.visits })
    hq hi hst.notSelf hst.back hst.links
  refine Call.Settles.conseq (htypes.bind_fact fun typeLogs _ hT => hreports.bind_fact
    fun ⟨reportLogs, _⟩ _ hR => hvisits.bind_fact fun ⟨visitLogs, _⟩ _ hV => hlinks.bind_fact
      (q := True) fun ⟨linkLogs, _⟩ _ hL => ?_) (fun _ h => h) ?_ fun _ _ _ h => h
  · have hlogs := hT.append (hR.append (hV.append hL))
    refine (settles_addChangeEntry hq hi hauthor).bind_sure fun _ => Call.settles_exists fun entries =>
      ?_
    refine Call.Settles.of_fact (fun _ h => h.2) fun hentries => ?_
    refine Call.Settles.conseq (Call.Settles.bind_pure
      (L := fun _ => Call.InTxn db (Reconciled db inc st v scalarLogs))
      (settles_typedEntries s inc.journalEntries hq hup hevent hi hauthor)
      fun _ w ⟨journal, h, hnone⟩ => ?_) (fun _ h => h.1) Iff.rfl fun _ _ _ h => h
    refine h.mono fun T id hT => ⟨journal, _, hT, hlogs, fun hnil => ⟨entries, hnone hnil, ?_⟩⟩
    simpa only [List.append_assoc] using hentries
  · exact ⟨fun h => ⟨h.1, h.2.1, h.2.2.2.1⟩, fun h => ⟨h.1, h.2, trivial, h.3, trivial⟩⟩

end Steps

end OcfIms
