import OcfIms.LinkView

/-!
# The records, and what leaves them alone

An incident's record is everything the database says of it alone: its row, its types and people, the
incidents, reports and visits linked to it, and its journal. A report's record is its row, the link
included, and its journal. Few writes change only the record they name: setting a report's link
changes the incident that loses it and the one that gains it, and a link between incidents is stored
from both sides. `Framed` is what holds all along a call that changes certain records and no others.
-/

namespace OcfIms

open TxnLib

structure IncidentRecord where
  row : Option Incident
  types : List Int
  people : List IncidentPerson
  linkedIncidents : List (Int × Int)
  reports : List Int
  visits : List Int
  journal : List (Int × Option JournalEntry)
  deriving DecidableEq

structure ReportRecord where
  row : Option Report
  journal : List (Int × Option JournalEntry)
  deriving DecidableEq

namespace DB

def peopleOf (db : DB) (e n : Int) : List IncidentPerson :=
  db.incidentPerson.rows.filterMap fun r =>
    if r.2.event = e ∧ r.2.incidentNumber = n then some r.2 else none

def entriesAt (db : DB) (ids : List Int) : List (Int × Option JournalEntry) :=
  ids.map fun id => (id, db.journalEntry.find? id)

def incidentRecord (db : DB) (e n : Int) : IncidentRecord where
  row := db.incident.find? (e, n)
  types := db.typesOf e n
  people := db.peopleOf e n
  linkedIncidents := db.linksOf e n
  reports := db.reportsOf e n
  visits := db.visitsOf e n
  journal := db.entriesAt (db.incidentEntriesOf e n)

def reportRecord (db : DB) (e r : Int) : ReportRecord where
  row := db.report.find? (e, r)
  journal := db.entriesAt (db.reportEntriesOf e r)

variable {db db' : DB} {e n r : Int}

theorem incidentRecord_congr (hrow : db'.incident.find? (e, n) = db.incident.find? (e, n))
    (htypes : db'.typesOf e n = db.typesOf e n) (hpeople : db'.peopleOf e n = db.peopleOf e n)
    (hlinks : db'.linksOf e n = db.linksOf e n) (hreports : db'.reportsOf e n = db.reportsOf e n)
    (hvisits : db'.visitsOf e n = db.visitsOf e n)
    (hentries : db'.incidentEntriesOf e n = db.incidentEntriesOf e n)
    (hjournal : ∀ id ∈ db.incidentEntriesOf e n,
      db'.journalEntry.find? id = db.journalEntry.find? id) :
    db'.incidentRecord e n = db.incidentRecord e n := by
  have hat : db'.entriesAt (db'.incidentEntriesOf e n) = db.entriesAt (db.incidentEntriesOf e n) := by
    rw [hentries]
    exact List.map_congr_left fun id hid => by rw [hjournal id hid]
  simp only [incidentRecord, hrow, htypes, hpeople, hlinks, hreports, hvisits, hat]

theorem reportRecord_congr (hrow : db'.report.find? (e, r) = db.report.find? (e, r))
    (hentries : db'.reportEntriesOf e r = db.reportEntriesOf e r)
    (hjournal : ∀ id ∈ db.reportEntriesOf e r,
      db'.journalEntry.find? id = db.journalEntry.find? id) :
    db'.reportRecord e r = db.reportRecord e r := by
  have hat : db'.entriesAt (db'.reportEntriesOf e r) = db.entriesAt (db.reportEntriesOf e r) := by
    rw [hentries]
    exact List.map_congr_left fun id hid => by rw [hjournal id hid]
  simp only [reportRecord, hrow, hat]

/-- What the schema's foreign keys and the numbering of records, from 1 on, say of any database. -/
structure Sound (db : DB) : Prop where
  stored : db.EntriesStored
  incidentNumber : ∀ e n, db.incident.contains (e, n) = true → n ≠ 0
  reportNumber : ∀ e r, db.report.contains (e, r) = true → r ≠ 0
  linkStored : ∀ e r m, db.linkOf e r = some m → db.incident.contains (e, m) = true
  pairStored : ∀ k, db.incidentLinkedIncident.contains k = true →
    db.incident.contains k.1 = true ∧ db.incident.contains k.2 = true

end DB

namespace DB

variable {db : DB} {e n : Int} {o : Int × Int}

theorem mem_linksOf : o ∈ db.linksOf e n ↔ db.incidentLinkedIncident.contains ((e, n), o) = true := by
  rw [linksOf, List.mem_filterMap, ← Table.mem_keys_iff, List.mem_map]
  constructor
  · rintro ⟨⟨⟨k, o'⟩, u⟩, hr, h⟩
    simp only [Option.ite_none_right_eq_some, Option.some.injEq] at h
    obtain ⟨rfl, rfl⟩ := h
    exact ⟨_, hr, rfl⟩
  · rintro ⟨⟨k, u⟩, hr, rfl⟩
    exact ⟨_, hr, by simp⟩

/-- Soundness is read off the rows. -/
theorem Sound.of_rows (hstored : db.EntriesStored)
    (hincident : ∀ k ∈ db.incident.rows.map Prod.fst, k.2 ≠ 0)
    (hreport : ∀ k ∈ db.report.rows.map Prod.fst, k.2 ≠ 0)
    (hlink : ∀ row ∈ db.report.rows,
      nullOr db.incident (row.2.incidentNumber.map (row.1.1, ·)) = true)
    (hpair : ∀ k ∈ db.incidentLinkedIncident.rows.map Prod.fst,
      db.incident.contains k.1 = true ∧ db.incident.contains k.2 = true) : db.Sound := by
  refine ⟨hstored, fun e n h => hincident _ (Table.mem_keys_iff.mpr h),
    fun e r h => hreport _ (Table.mem_keys_iff.mpr h), fun e r m h => ?_,
    fun k h => hpair k (Table.mem_keys_iff.mpr h)⟩
  obtain ⟨row, hrow, hm⟩ := Option.bind_eq_some_iff.mp h
  have hstored := hlink _ (Table.find?_eq_some_iff.mp hrow)
  rw [hm] at hstored
  exact hstored

theorem Sound.linked (h : db.Sound) : Linked db.linkView db := ⟨h.stored, rfl⟩

/-- An incident that is not stored is linked to nothing. -/
theorem Sound.linksOf_eq_nil (h : db.Sound) (hnew : db.incident.contains (e, n) = false) :
    db.linksOf e n = [] := by
  refine List.eq_nil_iff_forall_not_mem.mpr fun o ho => ?_
  have hstored := (h.pairStored _ (mem_linksOf.mp ho)).1
  rw [hnew] at hstored
  cases hstored

end DB

/-! ## What a call may write -/

section Framing

variable (I R : Int → Int → Prop) (db₀ : DB)

/-- A report's link may be set back to what it was at first; to change it, both incidents must be
among those that may change. -/
def Relinkable (e r : Int) (target : Option Int) : Prop :=
  r ≠ 0 → R e r ∧ (target = db₀.linkOf e r ∨
    (∀ m, db₀.linkOf e r = some m → I e m) ∧ ∀ m, target = some m → m ≠ 0 → I e m)

/-- The writes of a call that, from `db₀` on, changes the incidents in `I` and the reports in `R`. -/
def framing : Conn → ∀ β : Type, Write β → Prop
  | _, _, .createIncident e n _ _ _ _ _ => n ≠ 0 ∧ I e n
  | _, _, .updateIncident e n _ => n ≠ 0 → I e n
  | _, _, .attachReportToIncident e r target => Relinkable I R db₀ e r target
  | _, _, .createReport e r _ _ target _ =>
      r ≠ 0 ∧ R e r ∧ ∀ m, target = some m → m ≠ 0 → I e m
  | _, _, .updateReport e r _ target => Relinkable I R db₀ e r target
  | _, _, .createJournalEntry _ => True
  | _, _, .attachJournalEntryToReport e r _ => r ≠ 0 → R e r
  | _, _, .attachJournalEntryToIncident e n _ => n ≠ 0 → I e n
  | _, _, .attachVisitToIncident _ _ _ => False
  | _, _, .createJournalEntryMention _ _ => True
  | _, _, .createNotification _ => True
  | _, _, .setIncidentJournalEntryStricken _ _ _ _ => False
  | _, _, .setReportJournalEntryStricken _ _ _ _ => False
  | _, _, .attachPersonToIncident e n _ _ _ _ => I e n
  | _, _, .requestReportFromPerson _ e n _ => I e n
  | _, _, .detachPersonFromIncident e n _ => I e n
  | _, _, .linkIncidents e n _ _ => n ≠ 0 → I e n
  | _, _, .unlinkIncidents e n _ _ => I e n
  | _, _, .attachIncidentTypeToIncident e n _ => n ≠ 0 → I e n
  | _, _, .detachIncidentTypeFromIncident e n _ => I e n

/-- Between the start of a call in `db₀` and its end: the records outside `I` and `R` are as they
were, and a report whose link has changed was and is linked to incidents in `I` only. -/
structure Framed (db : DB) : Prop where
  stored : db.EntriesStored
  incidentNumber : ∀ e n, db.incident.contains (e, n) = true → n ≠ 0
  reportNumber : ∀ e r, db.report.contains (e, r) = true → r ≠ 0
  incident : ∀ e n, ¬ I e n → db.incidentRecord e n = db₀.incidentRecord e n
  report : ∀ e r, ¬ R e r → db.reportRecord e r = db₀.reportRecord e r
  linked : ∀ e r, db.linkOf e r = db₀.linkOf e r ∨
    (∀ m, db₀.linkOf e r = some m → I e m) ∧ ∀ m, db.linkOf e r = some m → I e m

end Framing

variable {I R : Int → Int → Prop} {db₀ db db' : DB}

theorem DB.Sound.framed (h : db.Sound) : Framed I R db db :=
  ⟨h.stored, h.incidentNumber, h.reportNumber, fun _ _ _ => rfl, fun _ _ _ => rfl,
    fun _ _ => Or.inl rfl⟩

/-- What changes the database within the frame, its keys and its links included, keeps it. -/
theorem Framed.trans (h : Framed I R db₀ db) (hstored : db'.EntriesStored)
    (hincidents : ∀ e n, db'.incident.contains (e, n) = true →
      db.incident.contains (e, n) = true ∨ n ≠ 0)
    (hreports : ∀ e r, db'.report.contains (e, r) = true → db.report.contains (e, r) = true ∨ r ≠ 0)
    (hincident : ∀ e n, ¬ I e n → db'.incidentRecord e n = db.incidentRecord e n)
    (hreport : ∀ e r, ¬ R e r → db'.reportRecord e r = db.reportRecord e r)
    (hlinked : ∀ e r, db'.linkOf e r = db.linkOf e r ∨ db'.linkOf e r = db₀.linkOf e r ∨
      (∀ m, db₀.linkOf e r = some m → I e m) ∧ ∀ m, db'.linkOf e r = some m → I e m) :
    Framed I R db₀ db' := by
  refine ⟨hstored, fun e n hn => (hincidents e n hn).elim (h.incidentNumber e n) id,
    fun e r hr => (hreports e r hr).elim (h.reportNumber e r) id,
    fun e n hn => (hincident e n hn).trans (h.incident e n hn),
    fun e r hr => (hreport e r hr).trans (h.report e r hr), fun e r => ?_⟩
  rcases hlinked e r with hsame | hback
  · rw [hsame]
    exact h.linked e r
  · exact hback

/-- A change of other tables than those of the rows and of the entries. -/
theorem Framed.trans_of_rows (h : Framed I R db₀ db) (hincidents : db'.incident = db.incident)
    (hreports : db'.report = db.report) (hentry : db'.journalEntry = db.journalEntry)
    (hreportEntry : db'.reportJournalEntry = db.reportJournalEntry)
    (hincidentEntry : db'.incidentJournalEntry = db.incidentJournalEntry)
    (hincident : ∀ e n, ¬ I e n → db'.incidentRecord e n = db.incidentRecord e n) :
    Framed I R db₀ db' := by
  refine h.trans ⟨fun k hk => ?_, fun k hk => ?_⟩ (fun e n hn => Or.inl ?_) (fun e r hr => Or.inl ?_)
    hincident (fun e r _ => ?_) fun e r => Or.inl ?_
  · rw [hentry]
    rw [hincidentEntry] at hk
    exact h.stored.1 k hk
  · rw [hentry]
    rw [hreportEntry] at hk
    exact h.stored.2 k hk
  · rw [← hincidents]
    exact hn
  · rw [← hreports]
    exact hr
  · exact DB.reportRecord_congr (by rw [hreports]) (by rw [DB.reportEntriesOf, hreportEntry]; rfl)
      fun id _ => by rw [hentry]
  · rw [DB.linkOf, hreports]
    rfl

/-- Setting the link of one report, as far as the frame allows it. -/
theorem Framed.relink (h : Framed I R db₀ db) {e r : Int} {target : Option Int} {stored : Report}
    {g : Report → Report} (hset : Relinkable I R db₀ e r target)
    (hfind : db.report.find? (e, r) = some stored)
    (hinc : DB.nullOr db.incident (target.map (e, ·)) = true)
    (hg : ∀ x, (g x).incidentNumber = target) :
    Framed I R db₀ { db with report := db.report.modify (e, r) g } := by
  have hr : r ≠ 0 := h.reportNumber e r (Table.contains_iff.mpr ⟨stored, hfind⟩)
  obtain ⟨hR, hset⟩ := hset hr
  have hgained : ∀ m, target = some m → m ≠ 0 := by
    rintro m rfl
    exact h.incidentNumber e m hinc
  have hlink : db.linkOf e r = stored.incidentNumber := by
    rw [DB.linkOf, hfind]
    rfl
  refine h.trans h.stored (fun _ _ hn => Or.inl hn) (fun e' r' hr' => Or.inl ?_)
    (fun e' n hn => ?_) (fun e' r' hr' => ?_) fun e' r' => ?_
  · rwa [Table.contains_modify] at hr'
  · have hreports : ∀ v, db.report.find? (e, r) = some v →
        (if e = e' ∧ (g v).incidentNumber = some n then some r else none) =
          if e = e' ∧ v.incidentNumber = some n then some r else none := by
      intro v hv
      obtain rfl := Option.some.inj (hv.symm.trans hfind)
      refine if_congr (and_congr_right fun he => ?_) rfl rfl
      subst he
      rw [hg, ← hlink]
      rcases hset with hback | ⟨hlost, hgain⟩
      · rcases h.linked e r with hsame | ⟨hlost, hnow⟩
        · rw [hback, hsame]
        · rw [hback]
          exact ⟨fun hm => absurd (hlost n hm) hn, fun hm => absurd (hnow n hm) hn⟩
      · rcases h.linked e r with hsame | ⟨-, hnow⟩
        · rw [hsame]
          exact ⟨fun hm => absurd (hgain n hm (hgained n hm)) hn, fun hm => absurd (hlost n hm) hn⟩
        · exact ⟨fun hm => absurd (hgain n hm (hgained n hm)) hn, fun hm => absurd (hnow n hm) hn⟩
    exact DB.incidentRecord_congr rfl rfl rfl rfl (Table.filterMap_modify hreports) rfl rfl
      fun _ _ => rfl
  · refine DB.reportRecord_congr ?_ rfl fun _ _ => rfl
    rw [Table.find?_modify, if_neg]
    rintro ⟨rfl, rfl⟩
    exact hr' hR
  · by_cases hk : (e', r') = (e, r)
    · obtain ⟨rfl, rfl⟩ := Prod.mk.inj hk
      have hnow : DB.linkOf { db with report := db.report.modify (e', r') g } e' r' = target := by
        rw [DB.linkOf, Table.find?_modify, if_pos rfl, hfind]
        exact hg stored
      rw [hnow]
      rcases hset with hback | ⟨hlost, hgain⟩
      · exact Or.inr (Or.inl hback)
      · exact Or.inr (Or.inr ⟨hlost, fun m hm => hgain m hm (hgained m hm)⟩)
    · left
      rw [DB.linkOf, DB.linkOf, Table.find?_modify, if_neg hk]

/-- A new report, as far as the frame allows it. -/
theorem Framed.createReport (h : Framed I R db₀ db) {e r created : Int} {summary : Option String}
    {target createdBy : Option Int} (hr : r ≠ 0) (hR : R e r)
    (hgain : ∀ m, target = some m → m ≠ 0 → I e m)
    (hnew : db.report.contains (e, r) = false)
    (hinc : DB.nullOr db.incident (target.map (e, ·)) = true) :
    Framed I R db₀ { db with
      report := db.report.insert (e, r) ⟨created, summary, target, createdBy⟩ } := by
  have hgained : ∀ m, target = some m → I e m := by
    rintro m rfl
    exact hgain m rfl (h.incidentNumber e m hinc)
  have hnone : db.linkOf e r = none := by
    rw [DB.linkOf, Table.contains_eq_false_iff.mp hnew]
    rfl
  refine h.trans h.stored (fun _ _ hn => Or.inl hn) (fun e' r' hr' => ?_)
    (fun e' n hn => ?_) (fun e' r' hr' => ?_) fun e' r' => ?_
  · rw [Table.contains_insert hnew, Bool.or_eq_true, decide_eq_true_eq] at hr'
    rcases hr' with hk | hr'
    · obtain ⟨rfl, rfl⟩ := Prod.mk.inj hk
      exact Or.inr hr
    · exact Or.inl hr'
  · refine DB.incidentRecord_congr rfl rfl rfl rfl (Table.filterMap_insert hnew ?_) rfl rfl
      fun _ _ => rfl
    rw [if_neg]
    rintro ⟨rfl, hm⟩
    exact hn (hgained n hm)
  · refine DB.reportRecord_congr ?_ rfl fun _ _ => rfl
    rw [Table.find?_insert hnew, if_neg]
    rintro ⟨rfl, rfl⟩
    exact hr' hR
  · by_cases hk : (e', r') = (e, r)
    · obtain ⟨rfl, rfl⟩ := Prod.mk.inj hk
      refine Or.inr (Or.inr ⟨fun m hm => ?_, fun m hm => ?_⟩)
      · rcases h.linked e' r' with hsame | ⟨hlost, -⟩
        · rw [← hsame, hnone] at hm
          cases hm
        · exact hlost m hm
      · refine hgained m ?_
        rw [DB.linkOf, Table.find?_insert hnew, if_pos rfl] at hm
        exact hm
    · left
      rw [DB.linkOf, DB.linkOf, Table.find?_insert hnew, if_neg hk]

/-- A new entry is on no record yet. -/
theorem Framed.createJournalEntry (h : Framed I R db₀ db) {id : Int} {je : JournalEntry}
    (hnew : db.journalEntry.contains id = false) :
    Framed I R db₀ { db with journalEntry := db.journalEntry.insert id je } := by
  have hold : ∀ id', db.journalEntry.contains id' = true →
      (db.journalEntry.insert id je).find? id' = db.journalEntry.find? id' := by
    intro id' hid'
    rw [Table.find?_insert hnew, if_neg]
    rintro rfl
    rw [hnew] at hid'
    cases hid'
  refine h.trans ⟨fun k hk => ?_, fun k hk => ?_⟩ (fun _ _ hn => Or.inl hn)
    (fun _ _ hr => Or.inl hr) (fun e n _ => ?_) (fun e r _ => ?_) fun _ _ => Or.inl rfl
  · exact Table.contains_insert_of_contains _ (h.stored.1 k hk)
  · exact Table.contains_insert_of_contains _ (h.stored.2 k hk)
  · exact DB.incidentRecord_congr rfl rfl rfl rfl rfl rfl rfl fun id' hid' =>
      hold id' (h.stored.1 _ (DB.mem_incidentEntriesOf.mp hid'))
  · exact DB.reportRecord_congr rfl rfl fun id' hid' =>
      hold id' (h.stored.2 _ (DB.mem_reportEntriesOf.mp hid'))

/-- **The frame.** A permitted write keeps it. -/
theorem Framed.of_apply (h : Framed I R db₀ db) {c : Conn} {β : Type} {q : Write β} {id : Int} {b : β}
    (happ : q.apply id db = .ok (b, db')) (hq : framing I R db₀ c β q) : Framed I R db₀ db' := by
  have hother : ∀ {e n e' n' : Int}, I e n → ¬ I e' n' → ¬ (e = e' ∧ n = n') := by
    rintro e n e' n' hin hout ⟨rfl, rfl⟩
    exact hout hin
  cases Write.effect_of_apply happ with
  | @createIncident e n _ _ _ _ _ hnew _ _ =>
      refine h.trans h.stored (fun e' n' hn' => ?_) (fun _ _ hr => Or.inl hr) (fun e' n' hn' => ?_)
        (fun _ _ _ => rfl) fun _ _ => Or.inl rfl
      · rw [Table.contains_insert hnew, Bool.or_eq_true, decide_eq_true_eq] at hn'
        rcases hn' with hk | hn'
        · obtain ⟨rfl, rfl⟩ := Prod.mk.inj hk
          exact Or.inr hq.1
        · exact Or.inl hn'
      · refine DB.incidentRecord_congr ?_ rfl rfl rfl rfl rfl rfl fun _ _ => rfl
        rw [Table.find?_insert hnew, if_neg]
        rintro ⟨rfl, rfl⟩
        exact hn' hq.2
  | @updateIncident e n _ i _ hi _ _ _ =>
      have hin : I e n := hq (h.incidentNumber e n (Table.contains_iff.mpr ⟨i, hi⟩))
      refine h.trans h.stored (fun e' n' hn' => Or.inl ?_) (fun _ _ hr => Or.inl hr)
        (fun e' n' hn' => ?_) (fun _ _ _ => rfl) fun _ _ => Or.inl rfl
      · rwa [Table.contains_modify] at hn'
      · refine DB.incidentRecord_congr ?_ rfl rfl rfl rfl rfl rfl fun _ _ => rfl
        rw [Table.find?_modify, if_neg]
        rintro ⟨rfl, rfl⟩
        exact hn' hin
  | attachReport hr hinc => exact h.relink hq hr hinc fun _ => rfl
  | updateReport hr hinc => exact h.relink hq hr hinc fun _ => rfl
  | createReport hnew _ hinc _ => exact h.createReport hq.1 hq.2.1 hq.2.2 hnew hinc
  | createJournalEntry hnew _ _ => exact h.createJournalEntry hnew
  | @attachToReport e r je hnew hr hje =>
      have hR : R e r := hq (h.reportNumber e r hr)
      refine h.trans ⟨h.stored.1, fun k hk => ?_⟩ (fun _ _ hn => Or.inl hn) (fun _ _ hr => Or.inl hr)
        (fun _ _ _ => rfl) (fun e' r' hr' => ?_) fun _ _ => Or.inl rfl
      · rw [Table.contains_insert hnew, Bool.or_eq_true, decide_eq_true_eq] at hk
        rcases hk with rfl | hk
        · exact hje
        · exact h.stored.2 k hk
      · refine DB.reportRecord_congr rfl (Table.filterMap_insert hnew ?_) fun _ _ => rfl
        rw [if_neg]
        rintro ⟨rfl, rfl⟩
        exact hr' hR
  | @attachToIncident e n je hnew hi hje =>
      have hin : I e n := hq (h.incidentNumber e n hi)
      refine h.trans ⟨fun k hk => ?_, h.stored.2⟩ (fun _ _ hn => Or.inl hn) (fun _ _ hr => Or.inl hr)
        (fun e' n' hn' => ?_) (fun _ _ _ => rfl) fun _ _ => Or.inl rfl
      · rw [Table.contains_insert hnew, Bool.or_eq_true, decide_eq_true_eq] at hk
        rcases hk with rfl | hk
        · exact hje
        · exact h.stored.1 k hk
      · exact DB.incidentRecord_congr rfl rfl rfl rfl rfl rfl
          (Table.filterMap_insert hnew (if_neg (hother hin hn'))) fun _ _ => rfl
  | attachVisit => exact hq.elim
  | attachVisit_none => exact h
  | strikeIncidentEntry => exact hq.elim
  | strikeReportEntry => exact hq.elim
  | @attachPerson e n _ _ _ _ _ _ hnew _ _ =>
      refine h.trans_of_rows rfl rfl rfl rfl rfl fun e' n' hn' => ?_
      exact DB.incidentRecord_congr rfl rfl (Table.filterMap_insert hnew (if_neg (hother hq hn'))) rfl
        rfl rfl rfl fun _ _ => rfl
  | @requestReport e n p _ =>
      refine h.trans_of_rows rfl rfl rfl rfl rfl fun e' n' hn' => ?_
      refine DB.incidentRecord_congr rfl rfl (Table.filterMap_mapVal fun k ip _ => ?_) rfl rfl rfl rfl
        fun _ _ => rfl
      by_cases hk : ip.event = e ∧ ip.incidentNumber = n ∧ ip.personID = p
      · obtain ⟨rfl, rfl, rfl⟩ := hk
        simp [hother hq hn']
      · simp [hk]
  | @detachPerson e n p =>
      refine h.trans_of_rows rfl rfl rfl rfl rfl fun e' n' hn' => ?_
      refine DB.incidentRecord_congr rfl rfl (Table.filterMap_filter fun k ip hip => ?_) rfl rfl rfl
        rfl fun _ _ => rfl
      simp only [Bool.not_eq_false', Bool.and_eq_true, decide_eq_true_eq] at hip
      obtain ⟨⟨rfl, rfl⟩, -⟩ := hip
      exact if_neg (hother hq hn')
  | @linkIncidents e n e2 n2 hnew h1 _ =>
      have hin : I e n := hq (h.incidentNumber e n h1)
      refine h.trans_of_rows rfl rfl rfl rfl rfl fun e' n' hn' => ?_
      refine DB.incidentRecord_congr rfl rfl rfl (Table.filterMap_insert hnew ?_) rfl rfl rfl
        fun _ _ => rfl
      rw [if_neg]
      rintro ⟨rfl, rfl⟩
      exact hn' hin
  | @unlinkIncidents e n e2 n2 =>
      refine h.trans_of_rows rfl rfl rfl rfl rfl fun e' n' hn' => ?_
      refine DB.incidentRecord_congr rfl rfl rfl (Table.filterMap_erase fun _ => ?_) rfl rfl rfl
        fun _ _ => rfl
      rw [if_neg]
      rintro ⟨rfl, rfl⟩
      exact hn' hq
  | @attachType e n _ hnew hi _ =>
      refine h.trans_of_rows rfl rfl rfl rfl rfl fun e' n' hn' => ?_
      exact DB.incidentRecord_congr rfl
        (Table.filterMap_insert hnew (if_neg (hother (hq (h.incidentNumber e n hi)) hn'))) rfl rfl rfl
        rfl rfl fun _ _ => rfl
  | detachType =>
      refine h.trans_of_rows rfl rfl rfl rfl rfl fun e' n' hn' => ?_
      exact DB.incidentRecord_congr rfl (Table.filterMap_erase fun _ => if_neg (hother hq hn')) rfl rfl
        rfl rfl rfl fun _ _ => rfl
  | createMention =>
      exact h.trans_of_rows rfl rfl rfl rfl rfl fun _ _ _ => rfl
  | createNotification =>
      exact h.trans_of_rows rfl rfl rfl rfl rfl fun _ _ _ => rfl
  | _ => exact h

end OcfIms
