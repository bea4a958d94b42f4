import OcfIms.Gates
import OcfIms.Watch

/-!
# Which reports a caller sees

`GetReport`, `ListReports` and the stream decide on the same three bits, on who owns the report and
on whose crews its creator is in. Ownership is where they differ: it is read off the entries the
path happened to load, and a list without system entries does not see the authors of those.
-/

namespace OcfIms

open TxnLib

variable {env : ImsEnv} {db : DB} {s : Service} {claims : IMSClaims} {e n : Int} {ev : Event}
  {r : Report}

/-! ## The rule -/

/-- The rows of a report's entries, system entries included only where `generated` is set. -/
def reportEntryRows (db : DB) (e n : Int) (generated : Bool) : List JournalEntryRow :=
  ((db.reportEntriesOf e n).filterMap (db.journalEntryRow n)).filter (DB.generatedUpTo generated)

/-- The caller wrote one of those entries. -/
def authored (db : DB) (e n : Int) (handle : String) (generated : Bool) : Bool :=
  (reportEntryRows db e n generated).any fun row => row.author.getD "" = handle

/-- Whether the caller may read the report, given whether they wrote one of the entries looked at. -/
def mayReadReport (db : DB) (claims : IMSClaims) (e n : Int) (r : Report) (isAuthor : Bool) : Bool :=
  hasBit (eventMaskIn db e claims) eventReadAllReports ||
    (hasBit (eventMaskIn db e claims) eventReadOwnReports &&
      (r.createdBy == some claims.personID || isAuthor)) ||
    (hasBit (eventMaskIn db e claims) eventReadCrewReports &&
      (db.crewLeaderReports e claims.personID).contains n)

theorem mayReadReports_eq (perms : EventPermissionMask) : mayReadReports perms =
    (hasBit perms eventReadAllReports || hasBit perms eventReadOwnReports ||
      hasBit perms eventReadCrewReports) := by
  rw [mayReadReports, hasBit_or, hasBit_or]

/-- Whoever may read one report may ask for reports. -/
theorem mayReadReports_of_mayReadReport {isAuthor : Bool}
    (h : mayReadReport db claims e n r isAuthor = true) :
    mayReadReports (eventMaskIn db e claims) = true := by
  rw [mayReadReports_eq]
  unfold mayReadReport at h
  revert h
  cases hasBit (eventMaskIn db e claims) eventReadAllReports <;>
    cases hasBit (eventMaskIn db e claims) eventReadOwnReports <;>
      cases hasBit (eventMaskIn db e claims) eventReadCrewReports <;> simp

/-! ## The single read and the stream -/

theorem answers_report {ε : Type} (hq : env.Quiet) (hr : db.report.find? (e, n) = some r)
    (err : SqlErr → ε) :
    (select .pool (.report e n) err).Answers imsDB env db (.ok (db.reportRow e n r)) := by
  have h : (select .pool (.report e n) err).Answers imsDB env db _ := answers_select hq _ err
  rw [Read.eval, hr] at h
  exact h

/-- The journal of a report as the single read and the stream load it. -/
def reportTimeline (db : DB) (s : Service) (attachmentsEnabled : Bool) (e n : Int) :
    List JournalEntryJSON :=
  withMentions
    (((db.reportEntriesOf e n).filterMap (db.journalEntryRow n)).map fun row =>
      journalEntryToJSON s attachmentsEnabled row (onBehalfOfJSON row))
    ((db.reportEntriesOf e n).flatMap db.mentionRows)

theorem answers_fetchReport (hq : env.Quiet) (s : Service) (attachmentsEnabled : Bool)
    (hr : db.report.find? (e, n) = some r) :
    (fetchReport s attachmentsEnabled e n).Answers imsDB env db
      (.ok (db.reportRow e n r, reportTimeline db s attachmentsEnabled e n)) := by
  refine (answers_report hq hr _).bind ?_
  refine (answers_select hq (.reportJournalEntries e n) _).bind ?_
  exact (answers_select hq (.reportJournalEntryMentions e n) _).bind (Call.answers_pure _)

/-- Mentions leave the authors alone. -/
theorem containsAuthor_withMentions (entries : List JournalEntryJSON) (rows : List MentionRow)
    (handle : String) :
    containsAuthor (withMentions entries rows) handle = containsAuthor entries handle := by
  unfold containsAuthor withMentions
  rw [List.any_map]
  congr 1
  funext je
  show decide ((if _ then je else _ : JournalEntryJSON).author = handle) = _
  split <;> rfl

theorem reportEntryRows_true : reportEntryRows db e n true =
    (db.reportEntriesOf e n).filterMap (db.journalEntryRow n) := by
  rw [reportEntryRows, List.filter_eq_self]
  intro row _
  exact Bool.or_true _

theorem containsAuthor_reportTimeline (attachmentsEnabled : Bool) (handle : String) :
    containsAuthor (reportTimeline db s attachmentsEnabled e n) handle =
      authored db e n handle true := by
  rw [reportTimeline, containsAuthor_withMentions, authored, reportEntryRows_true, containsAuthor,
    List.any_map]
  rfl

/-- The half of the gate that is about one report, for a caller without the read-all bit. -/
theorem answers_mayReadLimitedReport (hq : env.Quiet)
    (hall : hasBit (eventMaskIn db e claims) eventReadAllReports = false)
    (entries : List JournalEntryJSON) :
    (mayReadLimitedReport e n r entries (eventMaskIn db e claims) claims.personID
      claims.handle).Answers imsDB env db
        (.ok (mayReadReport db claims e n r (containsAuthor entries claims.handle))) := by
  unfold mayReadLimitedReport mayReadReport ownsReport
  rw [hall, Bool.false_or]
  by_cases hown : (hasBit (eventMaskIn db e claims) eventReadOwnReports &&
      (r.createdBy == some claims.personID || containsAuthor entries claims.handle)) = true
  · rw [if_pos hown, hown]
    exact Call.answers_pure true
  · rw [if_neg hown, eq_false_of_ne_true hown, Bool.false_or]
    cases hasBit (eventMaskIn db e claims) eventReadCrewReports with
    | true =>
        exact (answers_select hq (.crewLeaderReportNumbers e claims.personID) _).bind
          (Call.answers_pure _)
    | false => exact Call.answers_pure false

theorem answers_requireReportReadable (hq : env.Quiet) (entries : List JournalEntryJSON) :
    (requireReportReadable e n r entries (eventMaskIn db e claims) claims).Answers imsDB env db
      (if mayReadReport db claims e n r (containsAuthor entries claims.handle) then .ok ()
      else .error ⟨.permissionDenied,
        "the requestor does not have permission to access this particular Report"⟩) := by
  unfold requireReportReadable
  cases hall : hasBit (eventMaskIn db e claims) eventReadAllReports with
  | true =>
      unfold mayReadReport
      rw [hall]
      exact Call.answers_pure ()
  | false =>
      have hlimited := (answers_mayReadLimitedReport (n := n) (r := r) hq hall entries).mapErr
        herrToConnect
      exact hlimited.bind (Call.answers_ensure _ _)

def getReportView (db : DB) (s : Service) (claims : IMSClaims) (e n : Int) (ev : Event)
    (r : Report) : ReportView :=
  reportViewFromJSON (reportToJSON (db.reportRow e n r) (reportTimeline db s s.attachmentsEnabled e n)
    ⟨e, ev⟩ (reportEditRights r claims.personID claims.admin (eventMaskIn db e claims)))

theorem answers_getReport (hq : env.Quiet) (s : Service) (claims : IMSClaims)
    (hev : db.event.find? e = some ev) (hr : db.report.find? (e, n) = some r) :
    (getReport s (some claims) ⟨e, n⟩).Answers imsDB env db
      (if mayReadReports (eventMaskIn db e claims) then
        if mayReadReport db claims e n r (authored db e n claims.handle true) then
          .ok (getReportView db s claims e n ev r)
        else .error ⟨.permissionDenied,
          "the requestor does not have permission to access this particular Report"⟩
      else .error ⟨.permissionDenied,
        "the requestor does not have permission to read Reports on this Event"⟩) := by
  have hreadable : (requireReportReadable e n r _ _ claims).Answers imsDB env db _ :=
    answers_requireReportReadable hq (reportTimeline db s s.attachmentsEnabled e n)
  rw [containsAuthor_reportTimeline] at hreadable
  refine (answers_authenticated claims).bind ?_
  refine (answers_fetchEvent hq hev).bind ?_
  refine (answers_permissionsAt hq e claims).bind ?_
  refine answers_ensure_bind ?_
  refine ((answers_fetchReport hq s s.attachmentsEnabled hr).mapErr herrToConnect).bind ?_
  cases hmay : mayReadReport db claims e n r (authored db e n claims.handle true) with
  | true =>
      rw [hmay] at hreadable
      exact hreadable.bind (Call.answers_pure _)
  | false =>
      rw [hmay] at hreadable
      exact hreadable.bind_error

theorem answers_reportPokeVisible (hq : env.Quiet) (s : Service)
    (hr : db.report.find? (e, n) = some r) :
    (reportPokeVisible s claims (eventMaskIn db e claims)
      { eventID := e, reportNumber := n }).Answers imsDB env db
        (.ok (mayReadReport db claims e n r (authored db e n claims.handle true))) := by
  unfold reportPokeVisible
  cases hall : hasBit (eventMaskIn db e claims) eventReadAllReports with
  | true =>
      unfold mayReadReport
      rw [hall]
      exact Call.answers_pure true
  | false =>
      rw [if_neg Bool.false_ne_true]
      cases hbits : hasBit (eventMaskIn db e claims) (eventReadOwnReports ||| eventReadCrewReports)
        with
      | false =>
          rw [hasBit_or, Bool.or_eq_false_iff] at hbits
          unfold mayReadReport
          rw [hall, hbits.1, hbits.2]
          exact Call.answers_pure false
      | true =>
          refine (answers_fetchReport hq s false hr).result.bind ?_
          have hlimited := answers_mayReadLimitedReport (n := n) (r := r) hq hall
            (reportTimeline db s false e n)
          rw [containsAuthor_reportTimeline] at hlimited
          exact hlimited

/-! ## The list -/

/-- The entries of an event's reports as the list loads them. -/
def listedEntries (db : DB) (e : Int) (generated : Bool) : List JournalEntryRow :=
  (db.reportJournalEntry.rows.filterMap fun r =>
    if r.1.1 = e then db.journalEntryRow r.1.2.1 r.1.2.2 else none).filter (DB.generatedUpTo generated)

theorem recordNumber_journalEntryRow {record id : Int} {row : JournalEntryRow}
    (h : db.journalEntryRow record id = some row) : row.recordNumber = record := by
  simp only [DB.journalEntryRow, Option.bind_eq_bind, Option.bind_eq_some_iff,
    Option.some.injEq] at h
  obtain ⟨je, _, author, _, rfl⟩ := h
  rfl

/-- The entries the list finds for a report are the report's own. -/
theorem listedEntries_filter (db : DB) (e n : Int) (generated : Bool) :
    (listedEntries db e generated).filter (·.recordNumber = n) =
      reportEntryRows db e n generated := by
  unfold listedEntries reportEntryRows DB.reportEntriesOf
  rw [List.filter_comm, List.filter_filterMap, List.filterMap_filterMap]
  congr 2
  funext ⟨⟨e', n', id⟩, _⟩
  by_cases he : e' = e
  · by_cases hn : n' = n
    · subst he hn
      simp only [and_self, if_true, Option.bind_some]
      cases hrow : db.journalEntryRow n' id with
      | none => rfl
      | some row => simp [Option.filter, recordNumber_journalEntryRow hrow]
    · simp only [he, hn, if_true, and_false, if_false, Option.bind_none]
      cases hrow : db.journalEntryRow n' id with
      | none => rfl
      | some row => simp [Option.filter, recordNumber_journalEntryRow hrow, hn]
  · simp [he]

/-- The journal the list shows of a report. -/
def listedTimeline (db : DB) (s : Service) (e n : Int) (generated : Bool) : List JournalEntryJSON :=
  ((listedEntries db e generated).filter (·.recordNumber = n)).map fun row =>
    journalEntryToJSON s s.attachmentsEnabled row (onBehalfOfJSON row)

theorem containsAuthor_listedTimeline (generated : Bool) (handle : String) :
    containsAuthor (listedTimeline db s e n generated) handle =
      authored db e n handle generated := by
  rw [listedTimeline, listedEntries_filter, containsAuthor, List.any_map]
  rfl

/-- The reports of an event. -/
def storedReports (db : DB) (e : Int) : List ReportRow :=
  db.report.rows.filterMap fun r => if r.1.1 = e then some (db.reportRow e r.1.2 r.2) else none

theorem answers_authorizedReports (hq : env.Quiet) (s : Service) (generated : Bool) :
    (authorizedReports e (eventMaskIn db e claims) claims
      (fun n => listedTimeline db s e n generated) (storedReports db e)).Answers imsDB env db
        (.ok ((storedReports db e).filter fun row => mayReadReport db claims e row.number row.report
          (authored db e row.number claims.handle generated))) := by
  unfold authorizedReports mayReadReport
  cases hasBit (eventMaskIn db e claims) eventReadAllReports with
  | true =>
      simp only [Bool.true_or, List.filter_true, if_true]
      exact Call.answers_pure _
  | false =>
      have hcrew : (crewReportsFor e (eventMaskIn db e claims) claims.personID).Answers imsDB env db
          (.ok (if hasBit (eventMaskIn db e claims) eventReadCrewReports then
            db.crewLeaderReports e claims.personID else [])) := by
        unfold crewReportsFor
        cases hasBit (eventMaskIn db e claims) eventReadCrewReports with
        | true => exact answers_select hq (.crewLeaderReportNumbers e claims.personID) _
        | false => exact Call.answers_pure []
      rw [if_neg Bool.false_ne_true]
      refine (hcrew.mapErr herrToConnect).bind ?_
      simp only [ownsReport, containsAuthor_listedTimeline, Bool.false_or]
      cases hasBit (eventMaskIn db e claims) eventReadCrewReports with
      | true =>
          simp only [if_true, Bool.true_and]
          exact Call.answers_pure _
      | false =>
          simp only [Bool.false_eq_true, if_false, List.contains_nil, Bool.or_false, Bool.false_and]
          exact Call.answers_pure _

/-- The reports the list shows. -/
def listedReports (db : DB) (claims : IMSClaims) (e : Int) (generated : Bool) : List ReportRow :=
  (storedReports db e).filter fun row =>
    mayReadReport db claims e row.number row.report (authored db e row.number claims.handle generated)

theorem answers_listReports (hq : env.Quiet) (s : Service) (claims : IMSClaims)
    (hev : db.event.find? e = some ev) (excl : Bool) :
    (listReports s (some claims) ⟨e, excl⟩).Answers imsDB env db
      (if mayReadReports (eventMaskIn db e claims) then
        .ok ((listedReports db claims e !excl).map fun row =>
          reportViewFromJSON (reportToJSON row (listedTimeline db s e row.number !excl) ⟨e, ev⟩
            (reportEditRights row.report claims.personID claims.admin (eventMaskIn db e claims))))
      else .error ⟨.permissionDenied,
        "the requestor does not have permission to read Reports on this Event"⟩) := by
  refine (answers_authenticated claims).bind ?_
  refine (answers_fetchEvent hq hev).bind ?_
  refine (answers_permissionsAt hq e claims).bind ?_
  refine answers_ensure_bind ?_
  refine (answers_select hq (.reportsJournalEntries e !excl) _).bind ?_
  refine (answers_select hq (.reports e) _).bind ?_
  exact (answers_authorizedReports hq s !excl).bind (Call.answers_pure _)

theorem mem_listedReports {generated : Bool} {row : ReportRow} :
    row ∈ listedReports db claims e generated ↔
      ∃ r, db.report.find? (e, row.number) = some r ∧ row = db.reportRow e row.number r ∧
        mayReadReport db claims e row.number r
          (authored db e row.number claims.handle generated) = true := by
  simp only [listedReports, storedReports, List.mem_filter, List.mem_filterMap,
    Option.ite_none_right_eq_some, Option.some.injEq]
  constructor
  · rintro ⟨⟨⟨⟨e', n⟩, r⟩, hr, rfl, rfl⟩, hmay⟩
    exact ⟨r, Table.find?_eq_some_iff.mpr hr, rfl, hmay⟩
  · rintro ⟨r, hr, hrow, hmay⟩
    refine ⟨⟨((e, row.number), r), Table.find?_eq_some_iff.mp hr, rfl, hrow.symm⟩, ?_⟩
    rw [hrow]
    exact hmay

/-! ## One rule, four paths -/

def GetReportShows (env : ImsEnv) (w : ImsWorld) (s : Service) (claims : IMSClaims) (e n : Int) :
    Prop :=
  ∃ v, ((getReport s (some claims) ⟨e, n⟩).run imsDB env w).1 = .ok v

def ListReportsShows (env : ImsEnv) (w : ImsWorld) (s : Service) (claims : IMSClaims) (e n : Int)
    (excl : Bool) : Prop :=
  ∃ l, ((listReports s (some claims) ⟨e, excl⟩).run imsDB env w).1 = .ok l ∧
    ∃ v ∈ l, v.report.number = n

/-- The stream tells the caller about the report. -/
def StreamShows (env : ImsEnv) (w : ImsWorld) (s : Service) (claims : IMSClaims) (e n : Int) : Prop :=
  ((pokeVisible s (some claims) { eventID := e, reportNumber := n }).run imsDB env w).1 = .ok true

theorem getReportShows_iff (hq : env.Quiet) (s : Service) {w : ImsWorld}
    (hev : w.db.event.find? e = some ev) (hr : w.db.report.find? (e, n) = some r) :
    GetReportShows env w s claims e n ↔
      mayReadReport w.db claims e n r (authored w.db e n claims.handle true) = true := by
  rw [GetReportShows, (answers_getReport hq s claims hev hr).run_fst rfl]
  cases hmay : mayReadReport w.db claims e n r (authored w.db e n claims.handle true) with
  | true => simp [mayReadReports_of_mayReadReport hmay]
  | false => split <;> simp

theorem listReportsShows_iff (hq : env.Quiet) (s : Service) {w : ImsWorld}
    (hev : w.db.event.find? e = some ev) (hr : w.db.report.find? (e, n) = some r) (excl : Bool) :
    ListReportsShows env w s claims e n excl ↔
      mayReadReport w.db claims e n r (authored w.db e n claims.handle !excl) = true := by
  rw [ListReportsShows, (answers_listReports hq s claims hev excl).run_fst rfl]
  constructor
  · rintro ⟨l, heq, v, hv, hn⟩
    split at heq
    · rw [Except.ok.injEq] at heq
      subst heq
      obtain ⟨row, hrow, rfl⟩ := List.mem_map.mp hv
      have hnumber : row.number = n := hn
      obtain ⟨r', hr', hrow', hmay⟩ := mem_listedReports.mp hrow
      rw [hnumber] at hr' hmay
      rw [hr, Option.some.injEq] at hr'
      rw [hr']
      exact hmay
    · cases heq
  · intro hmay
    rw [if_pos (mayReadReports_of_mayReadReport hmay)]
    exact ⟨_, rfl, _, List.mem_map.mpr ⟨w.db.reportRow e n r,
      mem_listedReports.mpr ⟨r, hr, rfl, hmay⟩, rfl⟩, rfl⟩

theorem streamShows_iff (hq : env.Quiet) (s : Service) {w : ImsWorld}
    (hr : w.db.report.find? (e, n) = some r) :
    StreamShows env w s claims e n ↔
      mayReadReport w.db claims e n r (authored w.db e n claims.handle true) = true := by
  have hperms : (eventPermissions (some e) claims).Answers imsDB env w.db _ :=
    answers_eventPermissions hq e claims
  have hpoke : (pokeVisible s (some claims) { eventID := e, reportNumber := n }).Answers imsDB env
      w.db (.ok (mayReadReport w.db claims e n r (authored w.db e n claims.handle true))) := by
    refine (hperms.mapErr asHTTPError).bind ?_
    simp only [eventMasks_get_singleton]
    exact answers_reportPokeVisible hq s hr
  rw [StreamShows, hpoke.run_fst rfl, Except.ok.injEq]

/-- The paths agree. -/
def ReportPathsAgree (env : ImsEnv) (w : ImsWorld) (s : Service) (claims : IMSClaims) (e n : Int) :
    Prop :=
  (GetReportShows env w s claims e n ↔ ListReportsShows env w s claims e n false) ∧
    (GetReportShows env w s claims e n ↔ ListReportsShows env w s claims e n true) ∧
    (GetReportShows env w s claims e n ↔ StreamShows env w s claims e n)

/-- An entry looked at without system entries is looked at with them. -/
theorem authored_mono (handle : String) (h : authored db e n handle false = true) :
    authored db e n handle true = true := by
  simp only [authored, reportEntryRows, List.any_eq_true, List.mem_filter] at h ⊢
  obtain ⟨row, ⟨hrow, _⟩, hauthor⟩ := h
  exact ⟨row, ⟨hrow, Bool.or_true _⟩, hauthor⟩

/-- The four paths agree unless the caller's whole claim to the report is having written system
entries on it: the own-reports bit and nothing better, not its creator, not in scope of a crew they
lead, the author of some system entry and of no other. -/
theorem reportPathsAgree_iff (hq : env.Quiet) (s : Service) {w : ImsWorld}
    (hev : w.db.event.find? e = some ev) (hr : w.db.report.find? (e, n) = some r) :
    ReportPathsAgree env w s claims e n ↔
      ¬ (hasBit (eventMaskIn w.db e claims) eventReadAllReports = false ∧
        hasBit (eventMaskIn w.db e claims) eventReadOwnReports = true ∧
        r.createdBy ≠ some claims.personID ∧
        (hasBit (eventMaskIn w.db e claims) eventReadCrewReports = true →
          n ∉ w.db.crewLeaderReports e claims.personID) ∧
        authored w.db e n claims.handle true = true ∧
        authored w.db e n claims.handle false = false) := by
  have hmono : authored w.db e n claims.handle false = true →
      authored w.db e n claims.handle true = true := authored_mono claims.handle
  rw [ReportPathsAgree, getReportShows_iff hq s hev hr, listReportsShows_iff hq s hev hr,
    listReportsShows_iff hq s hev hr, streamShows_iff hq s hr, ← List.contains_iff_mem, Ne,
    ← beq_iff_eq (a := r.createdBy)]
  simp only [mayReadReport, Bool.not_false, Bool.not_true]
  revert hmono
  generalize hasBit (eventMaskIn w.db e claims) eventReadAllReports = all
  generalize hasBit (eventMaskIn w.db e claims) eventReadOwnReports = own
  generalize hasBit (eventMaskIn w.db e claims) eventReadCrewReports = crew
  generalize (w.db.crewLeaderReports e claims.personID).contains n = inCrew
  generalize authored w.db e n claims.handle true = wrote
  generalize authored w.db e n claims.handle false = wroteTyped
  generalize (r.createdBy == some claims.personID) = creator
  cases all <;> cases own <;> cases crew <;> cases inCrew <;> cases wrote <;> cases wroteTyped <;>
    cases creator <;> simp

/-- A reporter who once linked another's report to an incident, and wrote nothing on it since. -/
def formerWriterDB : DB :=
  { event := Table.empty.insert 1 { name := "fair" }
    person := (Table.empty.insert 7 { handle := some "hub" }).insert 8 { handle := some "gate" }
    personEvent := Table.empty.insert (7, 1) { participationType := .reporter }
    report := (Table.empty.insert (1, 1) { created := 0, createdBy := some 8 }).insert (1, 2)
      { created := 0, createdBy := some 7 }
    journalEntry := Table.empty.insert 1
      { authorPersonID := 7, text := [.attachedToIncident 1], created := 0, generated := true }
    reportJournalEntry := Table.empty.insert (1, 1, 1) () }

theorem reportPathsAgree_iff_creator :
    ReportPathsAgree stillEnv { db := formerWriterDB, nextId := 2 } {} ⟨7, "hub", false⟩ 1 2 := by
  have hev : formerWriterDB.event.find? 1 = some ⟨"fair", false, none⟩ := by decide
  have hr : formerWriterDB.report.find? (1, 2) = some { created := 0, createdBy := some 7 } := by
    decide
  exact (reportPathsAgree_iff (w := { db := formerWriterDB, nextId := 2 }) stillEnv_quiet {} hev
    hr).mpr (by decide)

/-- The single read, the full list and the stream count the author of a system entry as an owner of
the report; the list without system entries does not. -/
theorem listReports_drops_system_author :
    ¬ ∀ (env : ImsEnv) (w : ImsWorld) (s : Service) (claims : IMSClaims) (e n : Int) (ev : Event)
      (r : Report), env.Quiet → w.db.event.find? e = some ev →
        w.db.report.find? (e, n) = some r → ReportPathsAgree env w s claims e n := by
  intro h
  have hev : formerWriterDB.event.find? 1 = some ⟨"fair", false, none⟩ := by decide
  have hr : formerWriterDB.report.find? (1, 1) = some { created := 0, createdBy := some 8 } := by
    decide
  have h := h stillEnv { db := formerWriterDB, nextId := 2 } {} ⟨7, "hub", false⟩ 1 1 _ _
    stillEnv_quiet hev hr
  have hget : GetReportShows stillEnv { db := formerWriterDB, nextId := 2 } {} ⟨7, "hub", false⟩ 1
      1 := (getReportShows_iff stillEnv_quiet {} hev hr).mpr (by decide)
  have hlist := (listReportsShows_iff stillEnv_quiet {} hev hr true).mp (h.2.1.mp hget)
  exact absurd hlist (by decide)

end OcfIms
