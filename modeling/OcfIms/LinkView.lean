import OcfIms.StoreEffects

/-!
# Report links and what the timelines tell of them

The abstract side of a report's link: for each report the incident it is linked to, for each
incident and each report the lines its timeline carries about links. The timelines are true when the
last such line always names the current link. `linkView` reads this picture off the database, and
every write either leaves it alone or does to it what its name says.
-/

namespace OcfIms

open TxnLib

/-! ## What a line says -/

namespace JournalLine

/-- On an incident's timeline: the line says the report was added (`true`) or removed (`false`). -/
def mentions (r : Int) : JournalLine → Option Bool
  | .reportAdded n => if n = r then some true else none
  | .reportRemoved n => if n = r then some false else none
  | .reportsAdded ns => if r ∈ ns then some true else none
  | .reportsRemoved ns => if r ∈ ns then some false else none
  | _ => none

/-- On a report's timeline: the link the line leaves the report with. -/
def leaves : JournalLine → Option (Option Int)
  | .attachedToIncident i => some (some i)
  | .detachedFromIncident _ => some none
  | _ => none

/-- The line is about a link. -/
def isLink : JournalLine → Bool
  | .text _ => false
  | _ => true

end JournalLine

/-- The last line that mentions the report says it was added. -/
def said (lines : List JournalLine) (r : Int) : Bool :=
  lines.foldl (fun b line => (line.mentions r).getD b) false

/-- The link the last line about the report's own link leaves it with. -/
def told (lines : List JournalLine) : Option Int :=
  lines.foldl (fun l line => line.leaves.getD l) none

theorem said_append_single (lines : List JournalLine) (line : JournalLine) (r : Int) :
    said (lines ++ [line]) r = (line.mentions r).getD (said lines r) := by
  rw [said, List.foldl_append]
  rfl

theorem told_append_single (lines : List JournalLine) (line : JournalLine) :
    told (lines ++ [line]) = line.leaves.getD (told lines) := by
  rw [told, List.foldl_append]
  rfl

/-- A fold over lines does not see those it has no use for. -/
theorem foldl_filter_isLink {β : Type} {f : β → JournalLine → β}
    (hf : ∀ b text, f b (.text text) = b) (lines : List JournalLine) (b : β) :
    (lines.filter JournalLine.isLink).foldl f b = lines.foldl f b := by
  induction lines generalizing b with
  | nil => rfl
  | cons line lines ih =>
      cases line with
      | text s =>
          rw [List.foldl_cons, hf]
          exact ih b
      | _ => exact ih _

theorem said_filter_isLink (lines : List JournalLine) (r : Int) :
    said (lines.filter JournalLine.isLink) r = said lines r :=
  foldl_filter_isLink (fun _ _ => rfl) lines false

theorem told_filter_isLink (lines : List JournalLine) :
    told (lines.filter JournalLine.isLink) = told lines :=
  foldl_filter_isLink (fun _ _ => rfl) lines none

/-! ## The picture -/

/-- Links by event and report, and the lines about links by event and record. -/
structure LinkView where
  link : Int → Int → Option Int
  incidentLines : Int → Int → List JournalLine
  reportLines : Int → Int → List JournalLine

namespace LinkView

def setLink (v : LinkView) (e r : Int) (target : Option Int) : LinkView :=
  { v with link := fun e' r' => if e' = e ∧ r' = r then target else v.link e' r' }

def tellIncident (v : LinkView) (e n : Int) (lines : List JournalLine) : LinkView :=
  { v with incidentLines := fun e' n' =>
      if e' = e ∧ n' = n then v.incidentLines e' n' ++ lines else v.incidentLines e' n' }

def tellReport (v : LinkView) (e r : Int) (lines : List JournalLine) : LinkView :=
  { v with reportLines := fun e' r' =>
      if e' = e ∧ r' = r then v.reportLines e' r' ++ lines else v.reportLines e' r' }

@[simp] theorem tellIncident_nil (v : LinkView) (e n : Int) : v.tellIncident e n [] = v := by
  simp [tellIncident]

@[simp] theorem tellReport_nil (v : LinkView) (e r : Int) : v.tellReport e r [] = v := by
  simp [tellReport]

/-- Change a report's link and put the line on its timeline. -/
def relink (v : LinkView) (e r : Int) (target : Option Int) (line : JournalLine) : LinkView :=
  (v.setLink e r target).tellReport e r [line]

/-- The effect of a reconciled list of reports: some are linked to the incident, some unlinked from
it. -/
def reconcile (v : LinkView) (e n : Int) (add sub : List Int) : LinkView :=
  sub.foldl (fun v r => v.relink e r none (.detachedFromIncident n))
    (add.foldl (fun v r => v.relink e r (some n) (.attachedToIncident n)) v)

/-- The effect of a changed link on the report's side: on both timelines, and on that of the old
incident only where the report ends up without one. -/
def change (v : LinkView) (e r : Int) (previous : Option Int) : Option Int → LinkView
  | some i => (v.relink e r (some i) (.attachedToIncident i)).tellIncident e i [.reportAdded r]
  | none => match previous with
    | some j => (v.relink e r none (.detachedFromIncident j)).tellIncident e j [.reportRemoved r]
    | none => v.relink e r none (.detachedFromIncident 0)

/-- The timelines of the event tell the truth about its links. -/
structure Truthful (v : LinkView) (e : Int) : Prop where
  incident : ∀ i r, v.link e r = some i ↔ said (v.incidentLines e i) r = true
  report : ∀ r, told (v.reportLines e r) = v.link e r

section Relink

variable {v : LinkView} {e r e' r' : Int} {target : Option Int} {line : JournalLine}

theorem link_setLink : (v.setLink e r target).link e' r' =
    if e' = e ∧ r' = r then target else v.link e' r' := rfl

theorem link_relink : (v.relink e r target line).link e' r' =
    if e' = e ∧ r' = r then target else v.link e' r' := rfl

theorem told_relink (hline : line.leaves = some target) :
    told ((v.relink e r target line).reportLines e' r') =
      if e' = e ∧ r' = r then target else told (v.reportLines e' r') := by
  show told (if e' = e ∧ r' = r then v.reportLines e' r' ++ [line] else v.reportLines e' r') = _
  split
  · rw [told_append_single, hline]
    rfl
  · rfl

theorem link_relinkAll (l : List Int) : ∀ v : LinkView,
    (l.foldl (fun v r => v.relink e r target line) v).link e' r' =
      if e' = e ∧ r' ∈ l then target else v.link e' r' := by
  induction l with
  | nil => simp
  | cons r l ih =>
      intro v
      rw [List.foldl_cons, ih, link_relink]
      by_cases he : e' = e <;> by_cases hl : r' ∈ l <;> by_cases hr : r' = r <;> simp [he, hl, hr]

theorem told_relinkAll (hline : line.leaves = some target) (l : List Int) : ∀ v : LinkView,
    told ((l.foldl (fun v r => v.relink e r target line) v).reportLines e' r') =
      if e' = e ∧ r' ∈ l then target else told (v.reportLines e' r') := by
  induction l with
  | nil => simp
  | cons r l ih =>
      intro v
      rw [List.foldl_cons, ih, told_relink hline]
      by_cases he : e' = e <;> by_cases hl : r' ∈ l <;> by_cases hr : r' = r <;> simp [he, hl, hr]

theorem incidentLines_relinkAll (l : List Int) : ∀ v : LinkView,
    (l.foldl (fun v r => v.relink e r target line) v).incidentLines = v.incidentLines := by
  induction l with
  | nil => exact fun _ => rfl
  | cons r l ih => exact fun v => ih (v.relink e r target line)

end Relink

end LinkView

/-! ## The picture of a database -/

namespace DB

def linkOf (db : DB) (e r : Int) : Option Int := (db.report.find? (e, r)).bind (·.incidentNumber)

/-- The lines of an entry, where it is a system entry. -/
def systemText (db : DB) (id : Int) : List JournalLine :=
  match db.journalEntry.find? id with
  | some je => if je.generated then je.text else []
  | none => []

/-- The system lines of an incident's timeline, oldest first. -/
def incidentSystemLines (db : DB) (e n : Int) : List JournalLine :=
  (db.incidentEntriesOf e n).flatMap db.systemText

def reportSystemLines (db : DB) (e n : Int) : List JournalLine :=
  (db.reportEntriesOf e n).flatMap db.systemText

def linkView (db : DB) : LinkView where
  link := db.linkOf
  incidentLines e n := (db.incidentSystemLines e n).filter JournalLine.isLink
  reportLines e n := (db.reportSystemLines e n).filter JournalLine.isLink

/-- Every entry attached to a record is stored. -/
def EntriesStored (db : DB) : Prop :=
  (∀ k, db.incidentJournalEntry.contains k = true → db.journalEntry.contains k.2.2 = true) ∧
    ∀ k, db.reportJournalEntry.contains k = true → db.journalEntry.contains k.2.2 = true

theorem mem_incidentEntriesOf {db : DB} {e n id : Int} :
    id ∈ db.incidentEntriesOf e n ↔ db.incidentJournalEntry.contains (e, n, id) = true := by
  rw [incidentEntriesOf, List.mem_filterMap, ← Table.mem_keys_iff, List.mem_map]
  constructor
  · rintro ⟨⟨⟨e', n', id'⟩, u⟩, hr, h⟩
    simp only [Option.ite_none_right_eq_some, Option.some.injEq] at h
    obtain ⟨⟨rfl, rfl⟩, rfl⟩ := h
    exact ⟨_, hr, rfl⟩
  · rintro ⟨⟨k, u⟩, hr, rfl⟩
    exact ⟨_, hr, by simp⟩

theorem mem_reportEntriesOf {db : DB} {e n id : Int} :
    id ∈ db.reportEntriesOf e n ↔ db.reportJournalEntry.contains (e, n, id) = true := by
  rw [reportEntriesOf, List.mem_filterMap, ← Table.mem_keys_iff, List.mem_map]
  constructor
  · rintro ⟨⟨⟨e', n', id'⟩, u⟩, hr, h⟩
    simp only [Option.ite_none_right_eq_some, Option.some.injEq] at h
    obtain ⟨⟨rfl, rfl⟩, rfl⟩ := h
    exact ⟨_, hr, rfl⟩
  · rintro ⟨⟨k, u⟩, hr, rfl⟩
    exact ⟨_, hr, by simp⟩

theorem mem_reportsOf {db : DB} {e n r : Int} : r ∈ db.reportsOf e n ↔ db.linkOf e r = some n := by
  rw [reportsOf, List.mem_filterMap, linkOf, Option.bind_eq_some_iff]
  constructor
  · rintro ⟨⟨⟨e', r'⟩, rep⟩, hrow, h⟩
    simp only [Option.ite_none_right_eq_some, Option.some.injEq] at h
    obtain ⟨⟨rfl, hlink⟩, rfl⟩ := h
    exact ⟨rep, Table.find?_eq_some_iff.mpr hrow, hlink⟩
  · rintro ⟨rep, hfind, hlink⟩
    exact ⟨((e, r), rep), Table.find?_eq_some_iff.mp hfind, by simp [hlink]⟩

/-- A new entry changes the text of no other. -/
theorem systemText_insert {db : DB} {id id' : Int} {je : JournalEntry}
    (hnew : db.journalEntry.contains id = false) (hne : id' ≠ id) :
    systemText { db with journalEntry := db.journalEntry.insert id je } id' = db.systemText id' := by
  simp only [systemText, Table.find?_insert hnew, if_neg hne]

/-- A new entry is on no timeline yet. -/
theorem linkView_createJournalEntry {db : DB} {id : Int} {je : JournalEntry}
    (hs : db.EntriesStored) (hnew : db.journalEntry.contains id = false) :
    linkView { db with journalEntry := db.journalEntry.insert id je } = db.linkView := by
  have hold : ∀ ids : List Int, id ∉ ids →
      ids.flatMap (systemText { db with journalEntry := db.journalEntry.insert id je }) =
        ids.flatMap db.systemText := by
    intro ids hids
    refine List.flatMap_congr fun id' hid' => systemText_insert hnew ?_
    rintro rfl
    exact hids hid'
  have hincident : ∀ e n, id ∉ db.incidentEntriesOf e n := by
    intro e n hmem
    have hstored := hs.1 _ (mem_incidentEntriesOf.mp hmem)
    rw [hnew] at hstored
    cases hstored
  have hreport : ∀ e n, id ∉ db.reportEntriesOf e n := by
    intro e n hmem
    have hstored := hs.2 _ (mem_reportEntriesOf.mp hmem)
    rw [hnew] at hstored
    cases hstored
  simp only [linkView, incidentSystemLines, reportSystemLines, LinkView.mk.injEq]
  refine ⟨rfl, funext fun e => funext fun n => ?_, funext fun e => funext fun n => ?_⟩
  · exact congrArg _ (hold _ (hincident e n))
  · exact congrArg _ (hold _ (hreport e n))

theorem linkView_attachToIncident {db : DB} {e n id : Int}
    (hnew : db.incidentJournalEntry.contains (e, n, id) = false) :
    linkView { db with incidentJournalEntry := db.incidentJournalEntry.insert (e, n, id) () } =
      db.linkView.tellIncident e n ((db.systemText id).filter JournalLine.isLink) := by
  simp only [linkView, LinkView.tellIncident, LinkView.mk.injEq]
  refine ⟨rfl, funext fun e' => funext fun n' => ?_, rfl⟩
  simp only [incidentSystemLines, incidentEntriesOf, Table.rows_insert hnew, List.filterMap_append,
    List.flatMap_append, List.filter_append]
  by_cases h : e' = e ∧ n' = n
  · obtain ⟨rfl, rfl⟩ := h
    simp only [and_self, if_true, List.filterMap_cons, List.filterMap_nil, List.flatMap_cons,
      List.flatMap_nil, List.append_nil]
    rfl
  · have h' : ¬ (e = e' ∧ n = n') := fun hh => h ⟨hh.1.symm, hh.2.symm⟩
    simp only [if_neg h, List.filterMap_cons, List.filterMap_nil, if_neg h', List.flatMap_nil,
      List.filter_nil, List.append_nil]
    rfl

theorem linkView_attachToReport {db : DB} {e n id : Int}
    (hnew : db.reportJournalEntry.contains (e, n, id) = false) :
    linkView { db with reportJournalEntry := db.reportJournalEntry.insert (e, n, id) () } =
      db.linkView.tellReport e n ((db.systemText id).filter JournalLine.isLink) := by
  simp only [linkView, LinkView.tellReport, LinkView.mk.injEq]
  refine ⟨rfl, rfl, funext fun e' => funext fun n' => ?_⟩
  simp only [reportSystemLines, reportEntriesOf, Table.rows_insert hnew, List.filterMap_append,
    List.flatMap_append, List.filter_append]
  by_cases h : e' = e ∧ n' = n
  · obtain ⟨rfl, rfl⟩ := h
    simp only [and_self, if_true, List.filterMap_cons, List.filterMap_nil, List.flatMap_cons,
      List.flatMap_nil, List.append_nil]
    rfl
  · have h' : ¬ (e = e' ∧ n = n') := fun hh => h ⟨hh.1.symm, hh.2.symm⟩
    simp only [if_neg h, List.filterMap_cons, List.filterMap_nil, if_neg h', List.flatMap_nil,
      List.filter_nil, List.append_nil]
    rfl

/-- A change of report rows that sets one link. -/
theorem linkView_setLink {db : DB} {t : Table (Int × Int) Report} {e n : Int}
    (target : Option Int) (ht : ∀ k, (t.find? k).bind (·.incidentNumber) =
      if k = (e, n) then target else (db.report.find? k).bind (·.incidentNumber)) :
    linkView { db with report := t } = db.linkView.setLink e n target := by
  simp only [linkView, LinkView.setLink, LinkView.mk.injEq]
  refine ⟨funext fun e' => funext fun r' => ?_, rfl, rfl⟩
  simp only [linkOf, ht, Prod.mk.injEq]

end DB

/-! ## What a write does to the picture -/

/-- The stored entries are in order and the picture is `v`. -/
def Linked (v : LinkView) (db : DB) : Prop := db.EntriesStored ∧ db.linkView = v

/-- The writes that leave the picture alone. -/
def Write.isSilent {β : Type} : Write β → Bool
  | .createReport _ _ _ _ _ _ => false
  | .attachReportToIncident _ _ _ => false
  | .updateReport _ _ _ _ => false
  | .attachJournalEntryToReport _ _ _ => false
  | .attachJournalEntryToIncident _ _ _ => false
  | .setIncidentJournalEntryStricken _ _ _ _ => false
  | .setReportJournalEntryStricken _ _ _ _ => false
  | _ => true

variable {v : LinkView} {db db' : DB}

theorem Linked.of_silent {β : Type} {q : Write β} {id : Int} {b : β} (hq : q.isSilent = true)
    (hl : Linked v db) (h : q.apply id db = .ok (b, db')) : Linked v db' := by
  cases Write.effect_of_apply h with
  | createJournalEntry hnew =>
      refine ⟨⟨fun k hk => ?_, fun k hk => ?_⟩, ?_⟩
      · exact Table.contains_insert_of_contains _ (hl.1.1 k hk)
      · exact Table.contains_insert_of_contains _ (hl.1.2 k hk)
      · rw [DB.linkView_createJournalEntry hl.1 hnew]
        exact hl.2
  | createReport => cases hq
  | attachReport => cases hq
  | updateReport => cases hq
  | attachToReport => cases hq
  | attachToIncident => cases hq
  | strikeIncidentEntry => cases hq
  | strikeReportEntry => cases hq
  | _ => exact hl

/-- Attaching an entry to an incident tells its timeline what the entry says. -/
theorem Linked.attachToIncident {e n id id' : Int} {b : Unit} (hl : Linked v db)
    (h : (Write.attachJournalEntryToIncident e n id).apply id' db = .ok (b, db')) :
    Linked (v.tellIncident e n ((db.systemText id).filter JournalLine.isLink)) db' := by
  simp only [Write.apply, DB.unique_eq_ok, DB.references_eq_ok] at h
  obtain ⟨hnew, _, hje, ⟨⟩⟩ := h
  refine ⟨⟨fun k hk => ?_, hl.1.2⟩, ?_⟩
  · rw [Table.contains_insert hnew, Bool.or_eq_true, decide_eq_true_eq] at hk
    rcases hk with rfl | hk
    · exact hje
    · exact hl.1.1 k hk
  · rw [DB.linkView_attachToIncident hnew, hl.2]

theorem Linked.attachToReport {e n id id' : Int} {b : Unit} (hl : Linked v db)
    (h : (Write.attachJournalEntryToReport e n id).apply id' db = .ok (b, db')) :
    Linked (v.tellReport e n ((db.systemText id).filter JournalLine.isLink)) db' ∧
      db.report.contains (e, n) = true := by
  simp only [Write.apply, DB.unique_eq_ok, DB.references_eq_ok] at h
  obtain ⟨hnew, hr, hje, ⟨⟩⟩ := h
  refine ⟨⟨⟨hl.1.1, fun k hk => ?_⟩, ?_⟩, hr⟩
  · rw [Table.contains_insert hnew, Bool.or_eq_true, decide_eq_true_eq] at hk
    rcases hk with rfl | hk
    · exact hje
    · exact hl.1.2 k hk
  · rw [DB.linkView_attachToReport hnew, hl.2]

/-- The picture is `v`, provided the report is stored: what is left of an attempt to set the link of
a report that may not exist. -/
def LinkedIf (e n : Int) (v : LinkView) (db : DB) : Prop :=
  db.EntriesStored ∧ (db.report.contains (e, n) = true → db.linkView = v)

theorem Linked.linkedIf {e n : Int} (hl : Linked v db) : LinkedIf e n v db := ⟨hl.1, fun _ => hl.2⟩

theorem Linked.attachReport {e n id : Int} {target : Option Int} {b : Unit} (hl : Linked v db)
    (h : (Write.attachReportToIncident e n target).apply id db = .ok (b, db')) :
    LinkedIf e n (v.setLink e n target) db' := by
  simp only [Write.apply] at h
  cases hr : db.report.find? (e, n) with
  | none =>
      simp only [hr] at h
      cases h
      refine ⟨hl.1, fun hstored => ?_⟩
      rw [Table.contains_eq_false_iff.mpr hr] at hstored
      cases hstored
  | some r =>
      simp only [hr, DB.references_eq_ok] at h
      obtain ⟨_, ⟨⟩⟩ := h
      refine ⟨hl.1, fun _ => ?_⟩
      rw [DB.linkView_setLink target fun k => ?_, hl.2]
      rw [Table.find?_modify]
      split
      · next hk =>
          subst hk
          rw [hr]
          rfl
      · rfl

/-- A new entry leaves the picture alone and carries its text. -/
theorem LinkedIf.createJournalEntry {e n id : Int} {je : JournalEntry} {b : Int}
    (hl : LinkedIf e n v db)
    (h : (Write.createJournalEntry je).apply id db = .ok (b, db')) :
    LinkedIf e n v db' ∧ db'.systemText b = if je.generated then je.text else [] := by
  simp only [Write.apply, DB.unique_eq_ok, DB.references_eq_ok] at h
  obtain ⟨hnew, _, _, ⟨⟩⟩ := h
  refine ⟨⟨⟨fun k hk => ?_, fun k hk => ?_⟩, fun hr => ?_⟩, ?_⟩
  · exact Table.contains_insert_of_contains _ (hl.1.1 k hk)
  · exact Table.contains_insert_of_contains _ (hl.1.2 k hk)
  · rw [DB.linkView_createJournalEntry hl.1 hnew]
    exact hl.2 hr
  · simp only [DB.systemText, Table.find?_insert hnew, if_true]

theorem LinkedIf.attachToReport {e n id id' : Int} {b : Unit} (hl : LinkedIf e n v db)
    (h : (Write.attachJournalEntryToReport e n id).apply id' db = .ok (b, db')) :
    Linked (v.tellReport e n ((db.systemText id).filter JournalLine.isLink)) db' := by
  have hr : db.report.contains (e, n) = true := by
    simp only [Write.apply, DB.unique_eq_ok, DB.references_eq_ok] at h
    exact h.2.1
  exact (Linked.attachToReport ⟨hl.1, hl.2 hr⟩ h).1

theorem Linked.updateReport {e n id : Int} {summary : Option String} {target : Option Int}
    {b : Unit} (hl : Linked v db) (hr : db.report.contains (e, n) = true)
    (h : (Write.updateReport e n summary target).apply id db = .ok (b, db')) :
    Linked (v.setLink e n target) db' := by
  obtain ⟨r, hr⟩ := Table.contains_iff.mp hr
  simp only [Write.apply, hr, DB.references_eq_ok] at h
  obtain ⟨_, ⟨⟩⟩ := h
  refine ⟨hl.1, ?_⟩
  rw [DB.linkView_setLink target fun k => ?_, hl.2]
  rw [Table.find?_modify]
  split
  · next hk =>
      subst hk
      rw [hr]
      rfl
  · rfl

theorem Linked.createReport {e n created id : Int} {summary : Option String}
    {incident createdBy : Option Int} {b : Unit} (hl : Linked v db)
    (h : (Write.createReport e n created summary incident createdBy).apply id db = .ok (b, db')) :
    Linked (v.setLink e n incident) db' ∧ db.report.contains (e, n) = false := by
  simp only [Write.apply, DB.unique_eq_ok, DB.references_eq_ok] at h
  obtain ⟨hnew, _, _, _, ⟨⟩⟩ := h
  refine ⟨⟨hl.1, ?_⟩, hnew⟩
  rw [DB.linkView_setLink incident fun k => ?_, hl.2]
  rw [Table.find?_insert hnew]
  split <;> rfl

end OcfIms
