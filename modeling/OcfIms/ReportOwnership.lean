import OcfIms.Contracts
import OcfIms.ReportVisibility

/-!
# Owning a report

A report belongs to its creator and to the authors of its entries. The creator is known by their
number. An author is known by their handle: the one their row has when the report is looked at, set
against the one the caller's token carries. The two name the same person as long as nobody else has
the handle the token carries.
-/

namespace OcfIms

open TxnLib

variable {env : ImsEnv} {db : DB} {s : Service} {claims : IMSClaims} {e n : Int} {r : Report}

/-! ## By number -/

def CreatedReport (db : DB) (person e n : Int) : Prop :=
  ∃ r, db.report.find? (e, n) = some r ∧ r.createdBy = some person

/-- The person wrote this entry of the report. -/
def WroteReportEntry (db : DB) (person e n id : Int) : Prop :=
  id ∈ db.reportEntriesOf e n ∧
    ∃ je, db.journalEntry.find? id = some je ∧ je.authorPersonID = person

/-- The person created the report or wrote one of its entries. -/
def OwnReport (db : DB) (person e n : Int) : Prop :=
  CreatedReport db person e n ∨ ∃ id, WroteReportEntry db person e n id

/-- The person created the report or wrote the entry in question. -/
def OwnReportEntry (db : DB) (person e n id : Int) : Prop :=
  CreatedReport db person e n ∨ WroteReportEntry db person e n id

/-! ## By handle -/

/-- The caller's handle is nobody else's. -/
def NamesOnly (db : DB) (claims : IMSClaims) : Prop :=
  claims.handle ≠ "" ∧
    ∀ id p, db.person.find? id = some p → p.handle = some claims.handle → id = claims.personID

theorem author_of_row (h : NamesOnly db claims) {id : Int} {row : JournalEntryRow}
    (hrow : db.journalEntryRow n id = some row) (hhandle : row.author.getD "" = claims.handle) :
    ∃ je, db.journalEntry.find? id = some je ∧ je.authorPersonID = claims.personID := by
  simp only [DB.journalEntryRow, Option.bind_eq_bind, Option.bind_eq_some_iff,
    Option.some.injEq] at hrow
  obtain ⟨je, hje, author, hauthor, rfl⟩ := hrow
  refine ⟨je, hje, h.2 _ author hauthor ?_⟩
  dsimp only at hhandle
  cases hnull : author.handle with
  | none =>
      rw [hnull] at hhandle
      exact absurd hhandle.symm h.1
  | some handle =>
      rw [hnull] at hhandle
      exact congrArg some hhandle

theorem wrote_of_row (h : NamesOnly db claims) {row : JournalEntryRow}
    (hrow : row ∈ (db.reportEntriesOf e n).filterMap (db.journalEntryRow n))
    (hhandle : row.author.getD "" = claims.handle) :
    ∃ id, WroteReportEntry db claims.personID e n id := by
  obtain ⟨id, hid, hrow⟩ := List.mem_filterMap.mp hrow
  exact ⟨id, hid, author_of_row h hrow hhandle⟩

theorem wrote_of_authored (h : NamesOnly db claims) {generated : Bool}
    (hauthored : authored db e n claims.handle generated = true) :
    ∃ id, WroteReportEntry db claims.personID e n id := by
  obtain ⟨row, hrow, hhandle⟩ := List.any_eq_true.mp hauthored
  exact wrote_of_row h (List.mem_filter.mp hrow).1 (of_decide_eq_true hhandle)

/-- Reading is left to ownership: the caller reads neither every report nor this one as the leader
of a crew. -/
def ReadsByOwnership (db : DB) (claims : IMSClaims) (e n : Int) : Prop :=
  hasBit (eventMaskIn db e claims) eventReadAllReports = false ∧
    (hasBit (eventMaskIn db e claims) eventReadCrewReports = true →
      (db.crewLeaderReports e claims.personID).contains n = false)

theorem own_of_mayRead (h : NamesOnly db claims) (hlimited : ReadsByOwnership db claims e n)
    (hr : db.report.find? (e, n) = some r) {generated : Bool}
    (hmay : mayReadReport db claims e n r (authored db e n claims.handle generated) = true) :
    OwnReport db claims.personID e n := by
  have hcrew : (hasBit (eventMaskIn db e claims) eventReadCrewReports &&
      (db.crewLeaderReports e claims.personID).contains n) = false := by
    cases hbit : hasBit (eventMaskIn db e claims) eventReadCrewReports with
    | false => rfl
    | true => exact hlimited.2 hbit
  rw [mayReadReport, hlimited.1, hcrew, Bool.false_or, Bool.or_false, Bool.and_eq_true,
    Bool.or_eq_true, beq_iff_eq] at hmay
  rcases hmay.2 with hcreated | hauthored
  · exact .inl ⟨r, hr, hcreated⟩
  · exact .inr (wrote_of_authored h hauthored)

theorem own_of_ownsForEdit (h : NamesOnly db claims)
    (hlimited : hasBit (eventMaskIn db e claims) eventWriteAllReports = false)
    (hr : db.report.find? (e, n) = some r) (howns : ownsForEdit db claims e n r = true) :
    OwnReport db claims.personID e n := by
  rw [ownsForEdit, hlimited, Bool.false_or, Bool.or_eq_true, beq_iff_eq] at howns
  rcases howns with hcreated | hauthored
  · exact .inl ⟨r, hr, hcreated⟩
  · obtain ⟨row, hrow, hhandle⟩ := List.any_eq_true.mp hauthored
    exact .inr (wrote_of_row h hrow (of_decide_eq_true hhandle))

/-! ## What the reads ask for -/

section Reads

variable {E : ConnectError → Prop}

theorem every_fetchReport {E : HTTPError → Prop} (hE : ∀ err, E err) (s : Service)
    (attachmentsEnabled : Bool) (e n : Int) :
    (fetchReport s attachmentsEnabled e n).Every (truthful imsDB db) readsPool E fun r =>
      db.report.find? (e, n) = some r.1.report ∧ r.2 = reportTimeline db s attachmentsEnabled e n := by
  refine Call.every_bind (Q := fun row => db.report.find? (e, n) = some row.report)
    (every_read (fun row hrow => ?_) fun _ _ => hE _) fun row hrow => ?_
  · rw [Read.eval, DB.one_eq_ok, Option.map_eq_some_iff] at hrow
    obtain ⟨r, hr, rfl⟩ := hrow
    exact hr
  refine Call.every_bind (Q := (· = (db.reportEntriesOf e n).filterMap (db.journalEntryRow n)))
    (every_read (fun _ h => (Except.ok.inj h).symm) fun _ _ => hE _) fun entryRows hentries => ?_
  refine Call.every_bind (Q := (· = (db.reportEntriesOf e n).flatMap db.mentionRows))
    (every_read (fun _ h => (Except.ok.inj h).symm) fun _ _ => hE _) fun mentionRows hmentions => ?_
  subst hentries hmentions
  exact Call.every_pure ⟨hrow, rfl⟩

theorem every_crewReportNumberSet {E : HTTPError → Prop} (hE : ∀ err, E err) (e leader : Int) :
    (crewReportNumberSet e leader).Every (truthful imsDB db) readsPool E
      (· = db.crewLeaderReports e leader) :=
  every_read (fun _ h => (Except.ok.inj h).symm) fun _ _ => hE _

theorem every_requireReportReadable (hE : ∀ err, E err) (e n : Int) (r : Report)
    (entries : List JournalEntryJSON) (claims : IMSClaims) :
    (requireReportReadable e n r entries (eventMaskIn db e claims) claims).Every (truthful imsDB db)
      readsPool E fun _ =>
        mayReadReport db claims e n r (containsAuthor entries claims.handle) = true := by
  refine Call.every_ite (fun hall => Call.every_pure ?_) fun hall => ?_
  · rw [mayReadReport, hall]
    rfl
  refine Call.every_bind (Q := fun visible => visible = true →
    mayReadReport db claims e n r (containsAuthor entries claims.handle) = true)
    (Call.every_mapErr ?_) fun visible hvisible => Call.every_ensure (fun _ => hE _) hvisible
  refine Call.every_ite (fun hown => Call.every_pure fun _ => ?_) fun _ => ?_
  · rw [mayReadReport, ← ownsReport, hown, Bool.or_true]
    rfl
  refine Call.every_ite (fun hcrew => ?_) fun _ => Call.every_pure fun hno =>
    absurd hno Bool.false_ne_true
  refine Call.every_bind (every_crewReportNumberSet (fun _ => hE _) e claims.personID)
    fun crewReportNums hnums => Call.every_pure fun hin => ?_
  subst hnums
  rw [mayReadReport, hcrew, hin]
  exact Bool.or_true _

theorem every_getReport (hE : ∀ err, E err) (s : Service) (claims : IMSClaims)
    (req : GetReportRequest) :
    (getReport s (some claims) req).Every (truthful imsDB db) readsPool E fun _ =>
      ∃ r, db.report.find? (req.eventId, req.reportNumber) = some r ∧
        mayReadReport db claims req.eventId req.reportNumber r
          (authored db req.eventId req.reportNumber claims.handle true) = true := by
  refine Call.every_bind (every_authenticated hE _) fun caller hcaller => ?_
  cases hcaller
  refine Call.every_bind (every_fetchEvent hE req.eventId) fun event hevent => ?_
  rw [hevent.1]
  refine Call.every_bind (every_permissionsAt hE req.eventId claims) fun perms hperms => ?_
  subst hperms
  refine Call.every_bind (Q := fun _ => True) (Call.every_ensure (fun _ => hE _) fun _ => trivial)
    fun _ _ => ?_
  refine Call.every_bind (Call.every_mapErr (every_fetchReport (fun _ => hE _) s
    s.attachmentsEnabled req.eventId req.reportNumber)) fun fetched hfetched => ?_
  obtain ⟨row, entries⟩ := fetched
  obtain ⟨hr, hentries⟩ := hfetched
  change entries = _ at hentries
  subst hentries
  refine Call.every_bind (every_requireReportReadable hE _ _ _ _ _) fun _ hmay => ?_
  rw [containsAuthor_reportTimeline] at hmay
  exact Call.every_pure ⟨row.report, hr, hmay⟩

theorem every_authorizedReports (hE : ∀ err, E err) (e : Int) (claims : IMSClaims) (s : Service)
    (generated : Bool) :
    (authorizedReports e (eventMaskIn db e claims) claims
      (fun n => listedTimeline db s e n generated) (storedReports db e)).Every (truthful imsDB db)
        readsPool E fun rows => ∀ row ∈ rows, row ∈ listedReports db claims e generated := by
  refine Call.every_ite (fun hall => Call.every_pure fun row hrow => ?_) fun _ => ?_
  · refine List.mem_filter.mpr ⟨hrow, ?_⟩
    rw [mayReadReport, hall]
    rfl
  refine Call.every_bind (Q := fun nums => ∀ n, nums.contains n = true →
    hasBit (eventMaskIn db e claims) eventReadCrewReports = true ∧
      (db.crewLeaderReports e claims.personID).contains n = true) (Call.every_mapErr ?_)
    fun nums hnums => Call.every_pure fun row hrow => ?_
  · refine Call.every_ite (fun hcrew => ?_) fun _ => Call.every_pure fun _ hn => absurd hn Bool.false_ne_true
    refine (every_crewReportNumberSet (fun _ => hE _) e claims.personID).mono (fun _ _ _ h => h)
      (fun _ _ h => h) (fun _ h => h) fun nums hnums n hn => ?_
    subst hnums
    exact ⟨hcrew, hn⟩
  · obtain ⟨hstored, hmay⟩ := List.mem_filter.mp hrow
    refine List.mem_filter.mpr ⟨hstored, ?_⟩
    rw [ownsReport, containsAuthor_listedTimeline] at hmay
    rcases Bool.or_eq_true_iff.mp hmay with hown | hin
    · rw [mayReadReport, hown, Bool.or_true]
      rfl
    · obtain ⟨hcrew, hin⟩ := hnums row.number hin
      rw [mayReadReport, hcrew, hin]
      exact Bool.or_true _

theorem every_listReports (hE : ∀ err, E err) (s : Service) (claims : IMSClaims)
    (req : ListReportsRequest) :
    (listReports s (some claims) req).Every (truthful imsDB db) readsPool E fun l =>
      ∀ v ∈ l, ∃ row ∈ listedReports db claims req.eventId (!req.excludeSystemEntries),
        v.report.number = row.number := by
  refine Call.every_bind (every_authenticated hE _) fun caller hcaller => ?_
  cases hcaller
  refine Call.every_bind (every_fetchEvent hE req.eventId) fun event hevent => ?_
  rw [hevent.1]
  refine Call.every_bind (every_permissionsAt hE req.eventId claims) fun perms hperms => ?_
  subst hperms
  refine Call.every_bind (Q := fun _ => True) (Call.every_ensure (fun _ => hE _) fun _ => trivial)
    fun _ _ => ?_
  refine Call.every_bind (Q := (· = listedEntries db req.eventId (!req.excludeSystemEntries)))
    (every_read (fun _ h => (Except.ok.inj h).symm) fun _ _ => hE _) fun entryRows hentries => ?_
  subst hentries
  refine Call.every_bind (Q := (· = storedReports db req.eventId))
    (every_read (fun _ h => (Except.ok.inj h).symm) fun _ _ => hE _) fun stored hstored => ?_
  subst hstored
  refine Call.every_bind (every_authorizedReports hE req.eventId claims s
    (!req.excludeSystemEntries)) fun rows hrows => Call.every_pure fun v hv => ?_
  obtain ⟨row, hrow, rfl⟩ := List.mem_map.mp hv
  exact ⟨row, hrows row hrow, rfl⟩

end Reads

/-! ## What the writes ask for -/

section Writes

variable {E : ConnectError → Prop}

/-- A caller who does not pass the ownership floor is refused before anything is written. -/
theorem every_updateReport_refused (hE : ∀ err, E err) (s : Service) (claims : IMSClaims)
    (req : UpdateReportRequest) (h : ∀ r, db.report.find? (req.eventId, req.reportNumber) = some r →
      ownsForEdit db claims req.eventId req.reportNumber r = false) :
    (updateReport s (some claims) req).Every (truthful imsDB db) readsPool E fun _ => False := by
  refine Call.every_bind (every_authenticated hE _) fun caller hcaller => ?_
  cases hcaller
  refine Call.every_bind (every_reportWriteContext hE req.eventId claims) fun context hcontext => ?_
  obtain ⟨event, perms⟩ := context
  obtain ⟨hid, -, hperms, -⟩ := hcontext
  dsimp only at hid hperms ⊢
  subst hperms
  rw [hid]
  refine Call.every_bind (every_fetchStoredReport hE req.eventId req.reportNumber) fun row hrow => ?_
  refine Call.every_bind (every_requireReportOwner hE req.eventId req.reportNumber row.report claims)
    fun _ howns => ?_
  rw [h _ hrow] at howns
  cases howns

theorem wrote_of_authorsEntry (h : NamesOnly db claims) {id : Int}
    (hauthors : authorsEntry db claims e n id = true) :
    WroteReportEntry db claims.personID e n id := by
  rw [authorsEntry, Bool.and_eq_true, Option.any_eq_true] at hauthors
  obtain ⟨hin, row, hrow, hhandle⟩ := hauthors
  obtain ⟨v, hv⟩ := Table.contains_iff.mp hin
  refine ⟨List.mem_filterMap.mpr ⟨_, Table.find?_eq_some_iff.mp hv, ?_⟩,
    author_of_row h hrow (of_decide_eq_true hhandle)⟩
  exact if_pos ⟨rfl, rfl⟩

theorem every_strike_refused (hE : ∀ err, E err) (claims : IMSClaims)
    (req : UpdateJournalEntryRequest) (hstricken : req.stricken.isSome = true)
    (hlimited : hasBit (eventMaskIn db req.eventId claims) eventWriteAllReports = false)
    (h : authorsEntry db claims req.eventId req.recordNumber req.journalEntryId = false) :
    (updateReportJournalEntry (some claims) req).Every (truthful imsDB db) readsPool E
      fun _ => False := by
  obtain ⟨stricken, hset⟩ := Option.isSome_iff_exists.mp hstricken
  refine Call.every_bind (every_authenticated hE _) fun caller hcaller => ?_
  cases hcaller
  refine Call.every_bind (every_reportWriteContext hE req.eventId claims) fun context hcontext => ?_
  obtain ⟨event, perms⟩ := context
  obtain ⟨hid, -, hperms, -⟩ := hcontext
  dsimp only at hid hperms ⊢
  subst hperms
  rw [hid, hset]
  refine Call.every_bind (Q := fun _ => True) (every_read (fun _ _ => trivial) fun _ _ => hE _)
    fun _ _ => ?_
  refine Call.every_bind (every_requireEntryAuthor hE _ _ _ _ claims) fun _ hauthors => ?_
  have hauthors := hauthors hlimited
  rw [h] at hauthors
  cases hauthors

end Writes

/-! ## The ownership path -/

/-- The call succeeded, or left something behind where it did not. -/
def TakesEffect {α : Type} (env : ImsEnv) (w : ImsWorld) (x : Go ConnectError α) : Prop :=
  (∃ a, (x.run imsDB env w).1 = .ok a) ∨ (x.run imsDB env w).2.db ≠ w.db

theorem not_takesEffect_of_refused {α : Type} {w : ImsWorld} {x : Go ConnectError α}
    (hx : x.Every (truthful imsDB w.db) readsPool (fun _ => True) fun _ => False) :
    ¬ TakesEffect env w x := by
  have hstart : w.Holds (· = w.db) fun _ => True := ⟨rfl, fun _ _ => trivial⟩
  have hrun : (x.run imsDB env w).2.Holds (· = w.db) (fun _ => True) ∧
      Call.Outcome (fun _ => True) (fun _ => False) (x.run imsDB env w).1 :=
    Call.run_every (fun _ o _ hw ho => Call.step_readsPool o hw ho) hx hstart
  obtain ⟨hheld, hout⟩ := hrun
  rintro (⟨a, ha⟩ | hdiffers)
  · rw [ha] at hout
    exact hout
  · exact hdiffers hheld.1

theorem value_of_reads {α : Type} {w : ImsWorld} {x : Go ConnectError α} {Q : α → Prop}
    (hx : x.Every (truthful imsDB w.db) readsPool (fun _ => True) Q) {a : α}
    (h : (x.run imsDB env w).1 = .ok a) : Q a := by
  have hstart : w.Holds (· = w.db) fun _ => True := ⟨rfl, fun _ _ => trivial⟩
  have hrun : (x.run imsDB env w).2.Holds (· = w.db) (fun _ => True) ∧
      Call.Outcome (fun _ => True) Q (x.run imsDB env w).1 :=
    Call.run_every (fun _ o _ hw ho => Call.step_readsPool o hw ho) hx hstart
  have hout := hrun.2
  rw [h] at hout
  exact hout

/-- What the caller reads, edits or strikes by owning it is theirs by number. -/
structure OwnershipFollowsPerson (db : DB) (claims : IMSClaims) : Prop where
  get : ∀ (env : ImsEnv) (w : ImsWorld) (s : Service) (e n : Int), w.db = db →
    ReadsByOwnership db claims e n → GetReportShows env w s claims e n →
      OwnReport db claims.personID e n
  list : ∀ (env : ImsEnv) (w : ImsWorld) (s : Service) (e n : Int) (excl : Bool), w.db = db →
    ReadsByOwnership db claims e n → ListReportsShows env w s claims e n excl →
      OwnReport db claims.personID e n
  update : ∀ (env : ImsEnv) (w : ImsWorld) (s : Service) (req : UpdateReportRequest), w.db = db →
    hasBit (eventMaskIn db req.eventId claims) eventWriteAllReports = false →
      TakesEffect env w (updateReport s (some claims) req) →
        OwnReport db claims.personID req.eventId req.reportNumber
  strike : ∀ (env : ImsEnv) (w : ImsWorld) (req : UpdateJournalEntryRequest), w.db = db →
    req.stricken.isSome = true →
      hasBit (eventMaskIn db req.eventId claims) eventWriteAllReports = false →
        TakesEffect env w (updateReportJournalEntry (some claims) req) →
          OwnReportEntry db claims.personID req.eventId req.recordNumber req.journalEntryId

/-- Ownership follows the person as long as nobody else has their handle. -/
theorem ownershipFollowsPerson (h : NamesOnly db claims) : OwnershipFollowsPerson db claims where
  get env w s e n hdb hlimited hshows := by
    subst hdb
    obtain ⟨v, hv⟩ := hshows
    obtain ⟨r, hr, hmay⟩ := value_of_reads (every_getReport (fun _ => trivial) s claims ⟨e, n⟩) hv
    exact own_of_mayRead h hlimited hr hmay
  list env w s e n excl hdb hlimited hshows := by
    subst hdb
    obtain ⟨l, hl, v, hv, rfl⟩ := hshows
    obtain ⟨row, hrow, hnumber⟩ := value_of_reads
      (every_listReports (fun _ => trivial) s claims ⟨e, excl⟩) hl v hv
    obtain ⟨r, hr, -, hmay⟩ := mem_listedReports.mp hrow
    rw [hnumber] at hlimited ⊢
    exact own_of_mayRead h hlimited hr hmay
  update env w s req hdb hlimited htakes := by
    subst hdb
    by_contra hnot
    refine not_takesEffect_of_refused (every_updateReport_refused (fun _ => trivial) s claims req ?_) htakes
    intro r hr
    by_contra howns
    exact hnot (own_of_ownsForEdit h hlimited hr (eq_true_of_ne_false howns))
  strike env w req hdb hstricken hlimited htakes := by
    subst hdb
    by_contra hnot
    refine not_takesEffect_of_refused
      (every_strike_refused (fun _ => trivial) claims req hstricken hlimited ?_) htakes
    by_contra hauthors
    exact hnot (.inr (wrote_of_authorsEntry h (eq_true_of_ne_false hauthors)))

end OcfIms
