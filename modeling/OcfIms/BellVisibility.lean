import OcfIms.IncidentVisibility
import OcfIms.NotificationRead
import OcfIms.ReportVisibility

/-!
# What the bell shows of records its owner may not read

The bell withholds the summary of a private incident by the privacy half of the read rule only, and
a report's summary never. Whoever is mentioned where they cannot read is shown the summary anyway.
-/

namespace OcfIms

open TxnLib

variable {env : ImsEnv} {db : DB} {s : Service} {claims : IMSClaims}

/-! ## The bell as a function of the database -/

def bellOf (db : DB) (claims : IMSClaims) : List NotificationMsg :=
  (db.recentNotifications claims.personID).map fun r =>
    notificationToProto
      (notificationToJSON (db.notificationRow r.1 r.2) claims.personID claims.admin)

def unreadOf (db : DB) (person : Int) : Int :=
  db.notification.rows.countP fun r => r.2.recipientPersonID = person ∧ r.2.readAt = none

theorem answers_listNotifications (hq : env.Quiet) (claims : IMSClaims) :
    (listNotifications (some claims)).Answers imsDB env db
      (.ok ⟨bellOf db claims, unreadOf db claims.personID⟩) := by
  refine (answers_authenticated claims).bind ?_
  refine (answers_select hq (.notificationsForPerson claims.personID) _).bind ?_
  refine (answers_select hq (.unreadNotificationCountForPerson claims.personID) _).bind ?_
  have hrows : (db.recentNotifications claims.personID).map (fun r => notificationToProto
      (notificationToJSON (db.notificationRow r.1 r.2) claims.personID claims.admin)) =
        ((db.recentNotifications claims.personID).map fun r => db.notificationRow r.1 r.2).map
          fun row => notificationToProto (notificationToJSON row claims.personID claims.admin) := by
    rw [List.map_map]
    rfl
  rw [bellOf, hrows]
  exact Call.answers_pure _

theorem mem_recentNotifications {person : Int} {r : Int × Notification}
    (h : r ∈ db.recentNotifications person) :
    db.notification.find? r.1 = some r.2 ∧ r.2.recipientPersonID = person := by
  have hsorted := List.mem_of_mem_take h
  rw [List.mem_insertionSort, List.mem_filter, decide_eq_true_eq] at hsorted
  exact ⟨Table.find?_eq_some_iff.mpr hsorted.1, hsorted.2⟩

/-- What holds of the one row that a number joins. -/
theorem exists_joined {ρ : Type} {t : Table (Int × Int) ρ} {e number : Int} {row : ρ}
    (hrow : t.find? (e, number) = some row) (P : Int → ρ → Prop) :
    (∃ number' row', some number = some number' ∧ t.find? (e, number') = some row' ∧
      P number' row') ↔ P number row := by
  constructor
  · rintro ⟨number', row', hnumber, hrow', h⟩
    cases hnumber
    rw [hrow, Option.some.injEq] at hrow'
    exact hrow' ▸ h
  · intro h
    exact ⟨number, row, rfl, hrow, h⟩

/-- The bell shows the summary of an incident that has one, unless the privacy rule hides it. -/
theorem notificationSummary_ne_iff {id : Int} {n : Notification}
    (hmine : n.recipientPersonID = claims.personID) :
    notificationSummary (db.notificationRow id n) claims.personID claims.admin ≠ "" ↔
      ∃ number i, n.incidentNumber = some number ∧ db.incident.find? (n.event, number) = some i ∧
        i.summary.getD "" ≠ "" ∧ (i.isPrivate = false ∨ claims.admin = true ∨
          i.createdBy = some claims.personID ∨ db.hasGrant n.event number claims.personID = true) := by
  simp only [notificationSummary, DB.notificationRow, hmine]
  cases hn : n.incidentNumber with
  | none => simp
  | some number =>
      cases hi : db.incident.find? (n.event, number) with
      | none => simp [hi]
      | some i =>
          rw [exists_joined hi fun number i => i.summary.getD "" ≠ "" ∧ (i.isPrivate = false ∨
            claims.admin = true ∨ i.createdBy = some claims.personID ∨
              db.hasGrant n.event number claims.personID = true)]
          simp only [Option.bind_some, hi, Option.map_some, Option.any_some,
            ← beq_iff_eq (a := i.createdBy)]
          generalize (i.createdBy == some claims.personID) = creator
          generalize db.hasGrant n.event number claims.personID = grant
          cases i.isPrivate <;> cases claims.admin <;> cases creator <;> cases grant <;> simp

theorem strPtrIfNonEmpty_ne_none_iff {text : String} :
    strPtrIfNonEmpty text ≠ none ↔ text ≠ "" := by
  rw [strPtrIfNonEmpty]
  split <;> simp_all

/-! ## Whose summaries it shows -/

/-- Every summary the bell shows is of an incident, or a report, that its read shows the caller. -/
def BellHonest (env : ImsEnv) (w : ImsWorld) (s : Service) (claims : IMSClaims) : Prop :=
  ∀ resp, ((listNotifications (some claims)).run imsDB env w).1 = .ok resp →
    ∀ v ∈ resp.notifications, ∃ n, w.db.notification.find? v.id = some n ∧
      (v.incidentSummary ≠ none → ∃ number, n.incidentNumber = some number ∧
        GetShows env w s claims n.event number) ∧
      (v.reportSummary ≠ none → ∃ number, n.reportNumber = some number ∧
        GetReportShows env w s claims n.event number)

/-- The caller reads incidents at the event, or was granted this one. -/
def ReadsOrGranted (db : DB) (claims : IMSClaims) (e n : Int) : Prop :=
  hasBit (eventMaskIn db e claims) eventReadIncidents = true ∨
    db.hasGrant e n claims.personID = true

/-- Where their newest notifications are about an incident with a summary that is open or their own,
the caller reads incidents at the event or was granted it; where about a report with a summary, they
may read the report. -/
structure BellCovered (db : DB) (claims : IMSClaims) : Prop where
  incident : ∀ r ∈ db.recentNotifications claims.personID, ∀ number i,
    r.2.incidentNumber = some number → db.incident.find? (r.2.event, number) = some i →
    i.summary.getD "" ≠ "" → i.isPrivate = false ∨ i.createdBy = some claims.personID →
      ReadsOrGranted db claims r.2.event number
  report : ∀ r ∈ db.recentNotifications claims.personID, ∀ number report,
    r.2.reportNumber = some number → db.report.find? (r.2.event, number) = some report →
    report.summary.getD "" ≠ "" → mayReadReport db claims r.2.event number report
      (authored db r.2.event number claims.handle true) = true

/-- A notification's event is stored, as its foreign key demands. -/
def NotificationsReference (db : DB) : Prop :=
  ∀ id n, db.notification.find? id = some n → ∃ ev, db.event.find? n.event = some ev

theorem getShows_iff_of_visible (hq : env.Quiet) (s : Service) {w : ImsWorld} {e n : Int}
    {ev : Event} {i : Incident} (hev : w.db.event.find? e = some ev)
    (hi : w.db.incident.find? (e, n) = some i)
    (hvisible : i.isPrivate = false ∨ claims.admin = true ∨ i.createdBy = some claims.personID ∨
      w.db.hasGrant e n claims.personID = true) :
    GetShows env w s claims e n ↔ ReadsOrGranted w.db claims e n := by
  rw [getShows_iff hq s hev hi, ReadFacts.admits, readFacts, ReadsOrGranted]
  rw [← beq_iff_eq (a := i.createdBy)] at hvisible
  revert hvisible
  generalize hasBit (eventMaskIn w.db e claims) eventReadIncidents = read
  generalize w.db.hasGrant e n claims.personID = grant
  generalize (i.createdBy == some claims.personID) = creator
  cases i.isPrivate <;> cases claims.admin <;> cases creator <;> cases grant <;> cases read <;> simp

/-- The incident half, for one notification. -/
theorem incidentHonest_iff (hq : env.Quiet) (s : Service) {w : ImsWorld} {id : Int}
    {n : Notification} (hmine : n.recipientPersonID = claims.personID)
    (hev : ∃ ev, w.db.event.find? n.event = some ev) :
    (notificationSummary (w.db.notificationRow id n) claims.personID claims.admin ≠ "" →
        ∃ number, n.incidentNumber = some number ∧ GetShows env w s claims n.event number) ↔
      ∀ number i, n.incidentNumber = some number → w.db.incident.find? (n.event, number) = some i →
        i.summary.getD "" ≠ "" → i.isPrivate = false ∨ i.createdBy = some claims.personID →
          ReadsOrGranted w.db claims n.event number := by
  obtain ⟨ev, hev⟩ := hev
  rw [notificationSummary_ne_iff hmine]
  constructor
  · intro h number i hn hi hsummary hopen
    have hvisible : i.isPrivate = false ∨ claims.admin = true ∨
        i.createdBy = some claims.personID ∨
          w.db.hasGrant n.event number claims.personID = true :=
      hopen.elim .inl fun hcreator => .inr (.inr (.inl hcreator))
    obtain ⟨number', hn', hshows⟩ := h ⟨number, i, hn, hi, hsummary, hvisible⟩
    rw [hn, Option.some.injEq] at hn'
    subst hn'
    exact (getShows_iff_of_visible hq s hev hi hvisible).mp hshows
  · rintro h ⟨number, i, hn, hi, hsummary, hvisible⟩
    refine ⟨number, hn, (getShows_iff_of_visible hq s hev hi hvisible).mpr ?_⟩
    rcases hvisible with hopen | hadmin | hcreator | hgrant
    · exact h number i hn hi hsummary (.inl hopen)
    · exact .inl (readIncidents_of_admin hadmin n.event)
    · exact h number i hn hi hsummary (.inr hcreator)
    · exact .inr hgrant

/-- The report half. -/
theorem reportHonest_iff (hq : env.Quiet) (s : Service) {w : ImsWorld} (id : Int)
    {n : Notification} (hev : ∃ ev, w.db.event.find? n.event = some ev) :
    ((w.db.notificationRow id n).reportSummary.getD "" ≠ "" →
        ∃ number, n.reportNumber = some number ∧ GetReportShows env w s claims n.event number) ↔
      ∀ number report, n.reportNumber = some number →
        w.db.report.find? (n.event, number) = some report → report.summary.getD "" ≠ "" →
          mayReadReport w.db claims n.event number report
            (authored w.db n.event number claims.handle true) = true := by
  obtain ⟨ev, hev⟩ := hev
  constructor
  · intro h number report hn hr hsummary
    have hshown : (w.db.notificationRow id n).reportSummary.getD "" ≠ "" := by
      simpa [DB.notificationRow, hn, hr] using hsummary
    obtain ⟨number', hn', hshows⟩ := h hshown
    rw [hn, Option.some.injEq] at hn'
    subst hn'
    exact (getReportShows_iff hq s hev hr).mp hshows
  · intro h hshown
    cases hn : n.reportNumber with
    | none => simp [DB.notificationRow, hn] at hshown
    | some number =>
        cases hr : w.db.report.find? (n.event, number) with
        | none => simp [DB.notificationRow, hn, hr] at hshown
        | some report =>
            have hsummary : report.summary.getD "" ≠ "" := by
              simpa [DB.notificationRow, hn, hr] using hshown
            exact ⟨number, rfl, (getReportShows_iff hq s hev hr).mpr (h number report hn hr
              hsummary)⟩

/-- The two halves, over the notifications the bell is made from. -/
theorem bellHonest_iff_shown (hq : env.Quiet) (s : Service) {w : ImsWorld} :
    BellHonest env w s claims ↔ ∀ r ∈ w.db.recentNotifications claims.personID,
      (notificationSummary (w.db.notificationRow r.1 r.2) claims.personID claims.admin ≠ "" →
        ∃ number, r.2.incidentNumber = some number ∧
          GetShows env w s claims r.2.event number) ∧
      ((w.db.notificationRow r.1 r.2).reportSummary.getD "" ≠ "" →
        ∃ number, r.2.reportNumber = some number ∧
          GetReportShows env w s claims r.2.event number) := by
  rw [BellHonest, (answers_listNotifications hq claims).run_fst rfl]
  constructor
  · intro h r hr
    obtain ⟨n, hn, hincident, hreport⟩ := h _ rfl _ (List.mem_map_of_mem hr)
    have hsame : n = r.2 := Option.some.inj (hn.symm.trans (mem_recentNotifications hr).1)
    subst hsame
    exact ⟨fun hne => hincident (strPtrIfNonEmpty_ne_none_iff.mpr hne),
      fun hne => hreport (strPtrIfNonEmpty_ne_none_iff.mpr hne)⟩
  · rintro h resp hresp v hv
    cases hresp
    obtain ⟨r, hr, rfl⟩ := List.mem_map.mp hv
    obtain ⟨hincident, hreport⟩ := h r hr
    exact ⟨r.2, (mem_recentNotifications hr).1,
      fun hne => hincident (strPtrIfNonEmpty_ne_none_iff.mp hne),
      fun hne => hreport (strPtrIfNonEmpty_ne_none_iff.mp hne)⟩

/-- The bell shows its owner nothing they may not read exactly where what it shows is covered. -/
theorem bellHonest_iff (env : ImsEnv) (hq : env.Quiet) (w : ImsWorld) (s : Service)
    (claims : IMSClaims) (hfk : NotificationsReference w.db) :
    BellHonest env w s claims ↔ BellCovered w.db claims := by
  have hevent : ∀ r ∈ w.db.recentNotifications claims.personID,
      ∃ ev, w.db.event.find? r.2.event = some ev := fun r hr =>
    hfk r.1 r.2 (mem_recentNotifications hr).1
  rw [bellHonest_iff_shown hq s]
  constructor
  · intro h
    constructor
    · intro r hr
      exact (incidentHonest_iff hq s (mem_recentNotifications hr).2 (hevent r hr)).mp (h r hr).1
    · intro r hr
      exact (reportHonest_iff hq s r.1 (hevent r hr)).mp (h r hr).2
  · intro h r hr
    constructor
    · exact (incidentHonest_iff hq s (mem_recentNotifications hr).2 (hevent r hr)).mpr
        (h.incident r hr)
    · exact (reportHonest_iff hq s r.1 (hevent r hr)).mpr (h.report r hr)

/-! ## A volunteer who is mentioned on an incident and on a report -/

def lostChild : Incident :=
  { created := 0, priority := 3, state := .stateOpen, started := 0,
    summary := some "Lost child at the gate", createdBy := some 8 }

/-- Person 7 is mentioned by person 8, on one of their records. -/
def mentionOf (incident report : Option Int) : Notification where
  recipientPersonID := 7
  type := .mentioned
  event := 1
  incidentNumber := incident
  reportNumber := report
  journalEntry := none
  actorPersonID := some 8
  created := 0

/-- Person 8 mentions person 7 on an incident and on a report of theirs. -/
def mentionedDB (role : ParticipationType) : DB :=
  { event := Table.empty.insert 1 { name := "fair" }
    person := (Table.empty.insert 7 { handle := some "hub" }).insert 8 { handle := some "gate" }
    personEvent := Table.empty.insert (7, 1) { participationType := role }
    incident := Table.empty.insert (1, 1) lostChild
    report := Table.empty.insert (1, 1)
      { created := 0, summary := some "Fight at the gate", createdBy := some 8 }
    notification :=
      (Table.empty.insert 1 (mentionOf (some 1) none)).insert 2 (mentionOf none (some 1)) }

def hub : IMSClaims := ⟨7, "hub", false⟩

instance (db : DB) : Decidable (NotificationsReference db) :=
  decidable_of_iff (∀ r ∈ db.notification.rows, (db.event.find? r.2.event).isSome = true) <|
    ⟨fun h id n hn => Option.isSome_iff_exists.mp (h (id, n) (Table.find?_eq_some_iff.mp hn)),
      fun h r hr => Option.isSome_iff_exists.mpr (h r.1 r.2 (Table.find?_eq_some_iff.mpr hr))⟩

theorem bellHonest_iff_writer :
    BellHonest stillEnv { db := mentionedDB .writer, nextId := 3 } {} hub := by
  have hread : ∀ r ∈ (mentionedDB .writer).recentNotifications hub.personID,
      hasBit (eventMaskIn (mentionedDB .writer) r.2.event hub) eventReadIncidents = true := by
    decide
  have hreports : ∀ r ∈ (mentionedDB .writer).recentNotifications hub.personID,
      hasBit (eventMaskIn (mentionedDB .writer) r.2.event hub) eventReadAllReports = true := by
    decide
  refine (bellHonest_iff stillEnv stillEnv_quiet { db := mentionedDB .writer, nextId := 3 } {} hub
    (by decide)).mpr ⟨fun r hr _ _ _ _ _ _ => .inl (hread r hr), fun r hr _ _ _ _ _ => ?_⟩
  rw [mayReadReport, hreports r hr]
  rfl

/-- The bell shows a volunteer the summary of an incident that the single read refuses them. -/
theorem not_bellHonest_volunteer :
    ¬ ∀ (env : ImsEnv) (w : ImsWorld) (s : Service) (claims : IMSClaims), env.Quiet →
      NotificationsReference w.db → BellHonest env w s claims := by
  intro h
  have hhonest := h stillEnv { db := mentionedDB .volunteer, nextId := 3 } {} hub stillEnv_quiet
    (by decide)
  have hshown := (bellHonest_iff_shown stillEnv_quiet {}).mp hhonest
  have hmem : (1, mentionOf (some 1) none) ∈
      (mentionedDB .volunteer).recentNotifications hub.personID := by decide
  obtain ⟨number, hnumber, hshows⟩ := (hshown _ hmem).1 (by decide)
  cases hnumber
  have hev : (mentionedDB .volunteer).event.find? 1 = some { name := "fair" } := by decide
  have hi : (mentionedDB .volunteer).incident.find? (1, 1) = some lostChild := by decide
  exact absurd ((getShows_iff stillEnv_quiet {} hev hi).mp hshows) (by decide)

end OcfIms
