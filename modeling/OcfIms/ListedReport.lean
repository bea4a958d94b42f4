import OcfIms.ReportVisibility

/-!
# The listed report and the report read alone

`ListReports` and `GetReport` assemble the same view from different queries, and the board decides
from the listed one whose a report is. The list loads no mentions, so a report whose entries mention
somebody is listed without them.
-/

namespace OcfIms

open TxnLib

variable {env : ImsEnv} {db : DB} {s : Service} {claims : IMSClaims} {e n : Int} {ev : Event}
  {r : Report}

/-! ## The board -/

inductive MineReason
  | created
  | owed
  | attached
  | mentioned
  deriving DecidableEq, Repr

def mentionsMe (entries : List JournalEntryMsg) (me : Int) : Bool :=
  entries.any fun entry => entry.mentions.any fun ref => ref.personId == me

def whyMineReport (view : ReportView) (me : Int) : Option MineReason :=
  if me = 0 then none
  else if view.report.createdBy.any (·.personId == me) then some .created
  else if mentionsMe view.report.journalEntries me then some .mentioned
  else none

/-! ## Views up to the order of their entries -/

namespace ReportView

/-- The view without its entries. -/
def bare (v : ReportView) : ReportView := { v with report := { v.report with journalEntries := [] } }

theorem eq_of_bare {v w : ReportView} (hbare : v.bare = w.bare)
    (hentries : v.report.journalEntries = w.report.journalEntries) : v = w := by
  obtain ⟨⟨_, _, _, _, _, _, _⟩, _, _⟩ := v
  obtain ⟨⟨_, _, _, _, _, _, _⟩, _, _⟩ := w
  simp only [bare, ReportView.mk.injEq, ReportMsg.mk.injEq] at hbare hentries ⊢
  exact ⟨⟨hbare.1.1, hbare.1.2.1, hbare.1.2.2.1, hbare.1.2.2.2.1, hbare.1.2.2.2.2.1,
    hbare.1.2.2.2.2.2.1, hentries⟩, hbare.2⟩

/-- The two views differ in the order of their entries at most. -/
def Same (v w : ReportView) : Prop :=
  v.bare = w.bare ∧ ∀ je, je ∈ v.report.journalEntries ↔ je ∈ w.report.journalEntries

def withoutSystemEntries (v : ReportView) : ReportView :=
  { v with report :=
    { v.report with journalEntries := v.report.journalEntries.filter fun je => !je.systemEntry } }

end ReportView

/-! ## The view in the list -/

/-- A report as the list shows it. -/
def listedView (db : DB) (s : Service) (claims : IMSClaims) (e n : Int) (ev : Event) (r : Report)
    (generated : Bool) : ReportView :=
  reportViewFromJSON (reportToJSON (db.reportRow e n r) (listedTimeline db s e n generated) ⟨e, ev⟩
    (reportEditRights r claims.personID claims.admin (eventMaskIn db e claims)))

/-- The list has a view of the report that satisfies `P`. -/
def Lists (env : ImsEnv) (w : ImsWorld) (s : Service) (claims : IMSClaims) (e n : Int) (excl : Bool)
    (P : ReportView → Prop) : Prop :=
  ∃ l, ((listReports s (some claims) ⟨e, excl⟩).run imsDB env w).1 = .ok l ∧
    ∃ v ∈ l, v.report.number = n ∧ P v

theorem lists_iff (hq : env.Quiet) (s : Service) {w : ImsWorld}
    (hev : w.db.event.find? e = some ev) (hr : w.db.report.find? (e, n) = some r) (excl : Bool)
    (P : ReportView → Prop) :
    Lists env w s claims e n excl P ↔
      mayReadReport w.db claims e n r (authored w.db e n claims.handle !excl) = true ∧
        P (listedView w.db s claims e n ev r !excl) := by
  rw [Lists, (answers_listReports hq s claims hev excl).run_fst rfl]
  constructor
  · rintro ⟨l, hl, v, hv, hn, hP⟩
    split at hl
    · cases hl
      obtain ⟨row, hrow, rfl⟩ := List.mem_map.mp hv
      obtain ⟨r', hr', hrow', hmay⟩ := mem_listedReports.mp hrow
      have hnumber : row.number = n := hn
      rw [hnumber] at hr' hrow' hmay
      rw [hr, Option.some.injEq] at hr'
      subst hr'
      rw [hrow'] at hP
      exact ⟨hmay, hP⟩
    · cases hl
  · rintro ⟨hmay, hP⟩
    rw [if_pos (mayReadReports_of_mayReadReport hmay)]
    have hrow : w.db.reportRow e n r ∈ listedReports w.db claims e !excl :=
      mem_listedReports.mpr ⟨r, hr, rfl, hmay⟩
    exact ⟨_, rfl, _, List.mem_map_of_mem hrow, rfl, hP⟩

/-! ## The mentions -/

/-- An entry of a report as both reads assemble it, before the mentions. -/
def reportEntryJSON (s : Service) (row : JournalEntryRow) : JournalEntryJSON :=
  journalEntryToJSON s s.attachmentsEnabled row (onBehalfOfJSON row)

/-- The mentions that the single read puts onto an entry. -/
def mentionsOf (db : DB) (e n id : Int) : List Mention :=
  (((db.reportEntriesOf e n).flatMap db.mentionRows).filter (·.journalEntry = id)).map fun m =>
    ⟨m.personID, m.handle.getD "", m.name.getD ""⟩

theorem listedTimeline_eq (generated : Bool) : listedTimeline db s e n generated =
    (reportEntryRows db e n generated).map (reportEntryJSON s) := by
  rw [listedTimeline, listedEntries_filter]
  rfl

theorem reportTimeline_eq : reportTimeline db s s.attachmentsEnabled e n =
    (reportEntryRows db e n true).map fun row =>
      { reportEntryJSON s row with mentions := mentionsOf db e n row.id } := by
  rw [reportTimeline, reportEntryRows_true, withMentions, List.map_map]
  refine List.map_congr_left fun row _ => ?_
  show (if mentionsOf db e n row.id = [] then reportEntryJSON s row
    else { reportEntryJSON s row with mentions := mentionsOf db e n row.id }) = _
  split
  · rename_i hnone
    rw [hnone]
    rfl
  · rfl

theorem id_journalEntryRow {record id : Int} {row : JournalEntryRow}
    (h : db.journalEntryRow record id = some row) : row.id = id := by
  simp only [DB.journalEntryRow, Option.bind_eq_bind, Option.bind_eq_some_iff,
    Option.some.injEq] at h
  obtain ⟨je, _, author, _, rfl⟩ := h
  rfl

theorem journalEntry_mentionRows {id : Int} {m : MentionRow} (hm : m ∈ db.mentionRows id) :
    m.journalEntry = id := by
  simp only [DB.mentionRows, List.mem_filterMap, Option.ite_none_right_eq_some,
    Option.map_eq_some_iff] at hm
  obtain ⟨_, _, _, _, _, rfl⟩ := hm
  rfl

/-- An entry shows a mention where the entry has one. -/
theorem mentionsOf_eq_nil_iff {row : JournalEntryRow} (hrow : row ∈ reportEntryRows db e n true) :
    mentionsOf db e n row.id = [] ↔ db.mentionRows row.id = [] := by
  rw [reportEntryRows_true, List.mem_filterMap] at hrow
  obtain ⟨id, hid, hentry⟩ := hrow
  rw [id_journalEntryRow hentry, mentionsOf, List.map_eq_nil_iff, List.filter_eq_nil_iff]
  constructor
  · intro h
    rw [List.eq_nil_iff_forall_not_mem]
    intro m hm
    exact h m (List.mem_flatMap.mpr ⟨id, hid, hm⟩) (by simp [journalEntry_mentionRows hm])
  · intro h m hm heq
    obtain ⟨id', _, hm'⟩ := List.mem_flatMap.mp hm
    have hsame : id' = id := (journalEntry_mentionRows hm').symm.trans (by simpa using heq)
    rw [hsame, h] at hm'
    cases hm'

/-- Nobody is mentioned in the report's entries. -/
def Unmentioning (db : DB) (e n : Int) : Prop :=
  ∀ row ∈ reportEntryRows db e n true, db.mentionRows row.id = []

theorem reportTimeline_of_unmentioning (h : Unmentioning db e n) :
    reportTimeline db s s.attachmentsEnabled e n =
      (reportEntryRows db e n true).map (reportEntryJSON s) := by
  rw [reportTimeline_eq]
  refine List.map_congr_left fun row hrow => ?_
  rw [(mentionsOf_eq_nil_iff hrow).mpr (h row hrow)]
  rfl

/-! ## The two views -/

/-- The list without exclusions shows the report as it is read, the one without system entries shows
it without those, and the board makes the same of either. -/
def ListedAsRead (env : ImsEnv) (w : ImsWorld) (s : Service) (claims : IMSClaims) (e n : Int) :
    Prop :=
  ∀ v, ((getReport s (some claims) ⟨e, n⟩).run imsDB env w).1 = .ok v →
    (Lists env w s claims e n false fun u =>
      u.Same v ∧ ∀ me, whyMineReport u me = whyMineReport v me) ∧
    Lists env w s claims e n true fun u =>
      u.Same v.withoutSystemEntries ∧ ∀ me, whyMineReport u me = whyMineReport v me

theorem listedView_eq_of_unmentioning (h : Unmentioning db e n) :
    listedView db s claims e n ev r true = getReportView db s claims e n ev r := by
  rw [listedView, getReportView, listedTimeline_eq, reportTimeline_of_unmentioning h]

theorem listedView_false_eq_of_unmentioning (h : Unmentioning db e n) :
    listedView db s claims e n ev r false =
      (getReportView db s claims e n ev r).withoutSystemEntries := by
  rw [← listedView_eq_of_unmentioning h]
  have hentries : (listedTimeline db s e n false).map journalEntryToProto =
      ((listedTimeline db s e n true).map journalEntryToProto).filter fun je =>
        !je.systemEntry := by
    rw [listedTimeline_eq, listedTimeline_eq, List.map_map, List.map_map, List.filter_map]
    congr 1
    rw [reportEntryRows, reportEntryRows, List.filter_filter]
    refine List.filter_congr fun row _ => ?_
    simp [DB.generatedUpTo, reportEntryJSON, journalEntryToJSON, journalEntryToProto]
  exact ReportView.eq_of_bare rfl hentries

/-- The list shows no mentions. -/
theorem mentions_listedView {generated : Bool} {je : JournalEntryMsg}
    (hje : je ∈ (listedView db s claims e n ev r generated).report.journalEntries) :
    je.mentions = [] := by
  have hmem : je ∈ (listedTimeline db s e n generated).map journalEntryToProto := hje
  rw [listedTimeline_eq, List.map_map] at hmem
  obtain ⟨row, _, rfl⟩ := List.mem_map.mp hmem
  rfl

theorem mentionsMe_listedView (generated : Bool) (me : Int) :
    mentionsMe (listedView db s claims e n ev r generated).report.journalEntries me = false := by
  rw [mentionsMe, List.any_eq_false]
  intro je hje
  rw [mentions_listedView hje]
  exact Bool.false_ne_true

/-- To the board a listed report looks the same with and without its system entries. -/
theorem whyMineReport_listedView (generated : Bool) (me : Int) :
    whyMineReport (listedView db s claims e n ev r generated) me =
      whyMineReport (listedView db s claims e n ev r true) me := by
  rw [whyMineReport, whyMineReport, mentionsMe_listedView, mentionsMe_listedView]
  rfl

/-- A mention that the single read shows is on no entry of the list. -/
theorem unmentioning_of_same
    (h : (listedView db s claims e n ev r true).Same (getReportView db s claims e n ev r)) :
    Unmentioning db e n := by
  intro row hrow
  rw [← mentionsOf_eq_nil_iff hrow]
  have hread : journalEntryToProto { reportEntryJSON s row with mentions := mentionsOf db e n row.id }
      ∈ (getReportView db s claims e n ev r).report.journalEntries := by
    show _ ∈ (reportTimeline db s s.attachmentsEnabled e n).map journalEntryToProto
    rw [reportTimeline_eq, List.map_map]
    exact List.mem_map.mpr ⟨row, hrow, rfl⟩
  exact List.map_eq_nil_iff.mp (mentions_listedView ((h.2 _).mpr hread))

theorem run_getReport_of_shows (hq : env.Quiet) (s : Service) {w : ImsWorld}
    (hev : w.db.event.find? e = some ev) (hr : w.db.report.find? (e, n) = some r)
    (hshows : GetReportShows env w s claims e n) :
    ((getReport s (some claims) ⟨e, n⟩).run imsDB env w).1 =
      .ok (getReportView w.db s claims e n ev r) := by
  have hmay := (getReportShows_iff hq s hev hr).mp hshows
  rw [(answers_getReport hq s claims hev hr).run_fst rfl,
    if_pos (mayReadReports_of_mayReadReport hmay), if_pos hmay]

/-- A report the caller may read is listed as it is read exactly where its entries mention nobody and
the caller would own it without its system entries, if they read it as its owner. -/
theorem listedAsRead_iff (env : ImsEnv) (hq : env.Quiet) (w : ImsWorld) (s : Service)
    (claims : IMSClaims) (e n : Int) (ev : Event) (r : Report)
    (hev : w.db.event.find? e = some ev) (hr : w.db.report.find? (e, n) = some r)
    (hshows : GetReportShows env w s claims e n) :
    ListedAsRead env w s claims e n ↔ Unmentioning w.db e n ∧
      mayReadReport w.db claims e n r (authored w.db e n claims.handle false) = true := by
  have hrun := run_getReport_of_shows hq s hev hr hshows
  have hmay := (getReportShows_iff hq s hev hr).mp hshows
  rw [ListedAsRead, hrun]
  constructor
  · intro h
    obtain ⟨hfull, htyped⟩ := h _ rfl
    obtain ⟨_, hsame, _⟩ := (lists_iff hq s hev hr false _).mp hfull
    obtain ⟨hlisted, _⟩ := (lists_iff hq s hev hr true _).mp htyped
    exact ⟨unmentioning_of_same hsame, hlisted⟩
  · rintro ⟨hnone, hlisted⟩ v hv
    cases hv
    have hwhy : ∀ generated me, whyMineReport (listedView w.db s claims e n ev r generated) me =
        whyMineReport (getReportView w.db s claims e n ev r) me := by
      intro generated me
      rw [whyMineReport_listedView, listedView_eq_of_unmentioning hnone]
    constructor
    · refine (lists_iff hq s hev hr false _).mpr ⟨hmay, ?_, hwhy true⟩
      show (listedView w.db s claims e n ev r true).Same _
      rw [listedView_eq_of_unmentioning hnone]
      exact ⟨rfl, fun _ => Iff.rfl⟩
    · refine (lists_iff hq s hev hr true _).mpr ⟨hlisted, ?_, hwhy false⟩
      show (listedView w.db s claims e n ev r false).Same _
      rw [listedView_false_eq_of_unmentioning hnone]
      exact ⟨rfl, fun _ => Iff.rfl⟩

/-! ## A report that mentions its reader -/

/-- A writer and two reports, of which the second has an entry that mentions the writer. -/
def mentioningDB : DB :=
  { event := Table.empty.insert 1 { name := "fair" }
    person := (Table.empty.insert 7 { handle := some "hub" }).insert 8 { handle := some "gate" }
    personEvent := Table.empty.insert (7, 1) { participationType := .writer }
    report := (Table.empty.insert (1, 1) { created := 0, createdBy := some 8 }).insert (1, 2)
      { created := 0, createdBy := some 8 }
    journalEntry :=
      (Table.empty.insert 1
        { authorPersonID := 8, text := [.text "Gate is shut"], created := 0,
          generated := false }).insert
      2 { authorPersonID := 8, text := [.text "ask @hub"], created := 0, generated := false }
    reportJournalEntry := (Table.empty.insert (1, 1, 1) ()).insert (1, 2, 2) ()
    journalEntryMention := Table.empty.insert (2, 7) () }

theorem listedAsRead_iff_unmentioning :
    ListedAsRead stillEnv { db := mentioningDB, nextId := 3 } {} ⟨7, "hub", false⟩ 1 1 := by
  have hev : mentioningDB.event.find? 1 = some { name := "fair" } := by decide
  have hr : mentioningDB.report.find? (1, 1) = some { created := 0, createdBy := some 8 } := by
    decide
  have hshows : GetReportShows stillEnv { db := mentioningDB, nextId := 3 } {} ⟨7, "hub", false⟩ 1 1 :=
    (getReportShows_iff stillEnv_quiet {} hev hr).mpr (by decide)
  have hnone : ∀ row ∈ reportEntryRows mentioningDB 1 1 true,
      mentioningDB.mentionRows row.id = [] := by decide
  exact (listedAsRead_iff stillEnv stillEnv_quiet { db := mentioningDB, nextId := 3 } {}
    ⟨7, "hub", false⟩ 1 1 _ _ hev hr hshows).mpr ⟨hnone, by decide⟩

/-- The single read shows the mention, the list does not. -/
theorem not_listedAsRead_mentioned :
    ¬ ∀ (env : ImsEnv) (w : ImsWorld) (s : Service) (claims : IMSClaims) (e n : Int), env.Quiet →
      GetReportShows env w s claims e n → ListedAsRead env w s claims e n := by
  intro h
  have hev : mentioningDB.event.find? 1 = some { name := "fair" } := by decide
  have hr : mentioningDB.report.find? (1, 2) = some { created := 0, createdBy := some 8 } := by
    decide
  have hshows : GetReportShows stillEnv { db := mentioningDB, nextId := 3 } {} ⟨7, "hub", false⟩ 1 2 :=
    (getReportShows_iff stillEnv_quiet {} hev hr).mpr (by decide)
  have hlisted := (h stillEnv { db := mentioningDB, nextId := 3 } {} ⟨7, "hub", false⟩ 1 2
    stillEnv_quiet hshows _ (run_getReport_of_shows stillEnv_quiet {} hev hr hshows)).1
  obtain ⟨_, hsame, _⟩ := (lists_iff stillEnv_quiet {} hev hr false _).mp hlisted
  have hnone := unmentioning_of_same hsame
  have hmentioned : ¬ ∀ row ∈ reportEntryRows mentioningDB 1 2 true,
      mentioningDB.mentionRows row.id = [] := by decide
  exact hmentioned hnone

end OcfIms
