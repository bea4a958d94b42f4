import OcfIms.Contracts
import OcfIms.StoreEffects

/-!
# The link of an updated report

`UpdateReport` writes the report's incident twice: first the requested link, on the pool, then, if
the request also carries a summary or an entry, the whole row from the copy it read before. The
second write puts the old link back.
-/

namespace OcfIms

open TxnLib

variable {env : ImsEnv} {db db' : DB} {e n : Int} {r : Report} {link : Option Int}

/-- The report exists and is linked so. -/
def LinkIs (e n : Int) (link : Option Int) (db : DB) : Prop :=
  ∃ r, db.report.find? (e, n) = some r ∧ r.incidentNumber = link

theorem LinkIs.unique {link' : Option Int} (h : LinkIs e n link db) (h' : LinkIs e n link' db) :
    link = link' := by
  obtain ⟨r, hr, rfl⟩ := h
  obtain ⟨r', hr', rfl⟩ := h'
  rw [hr, Option.some.injEq] at hr'
  rw [hr']

/-- The writes that may set the link of the report. -/
def Write.setsLink (e n : Int) {β : Type} : Write β → Bool
  | .createReport e' n' _ _ _ _ => (e', n') = (e, n)
  | .attachReportToIncident e' n' _ => (e', n') = (e, n)
  | .updateReport e' n' _ _ => (e', n') = (e, n)
  | _ => false

/-- Every other write leaves the link alone. -/
theorem LinkIs.of_apply {β : Type} {q : Write β} {id : Int} {b : β} (hq : q.setsLink e n = false)
    (hl : LinkIs e n link db) (h : q.apply id db = .ok (b, db')) : LinkIs e n link db' := by
  obtain ⟨r, hr, rfl⟩ := hl
  cases Write.effect_of_apply h with
  | createReport hnew =>
      have hne := of_decide_eq_false hq
      refine ⟨r, ?_, rfl⟩
      rw [Table.find?_insert hnew, if_neg fun h => hne h.symm, hr]
  | attachReport =>
      have hne := of_decide_eq_false hq
      refine ⟨r, ?_, rfl⟩
      rw [Table.find?_modify, if_neg fun h => hne h.symm, hr]
  | updateReport =>
      have hne := of_decide_eq_false hq
      refine ⟨r, ?_, rfl⟩
      rw [Table.find?_modify, if_neg fun h => hne h.symm, hr]
  | _ => exact ⟨r, hr, rfl⟩

/-! ## The two writes -/

/-- Writes that leave the link alone, on either connection. -/
def keepsLink (e n : Int) : Conn → ∀ β : Type, Write β → Prop := fun _ _ q => q.setsLink e n = false

theorem permitsEntries_keepsLink (e n : Int) (c : Conn) : PermitsEntries (keepsLink e n) c :=
  ⟨fun _ => rfl, fun _ _ => rfl, fun _ => rfl⟩

theorem triple_pool_keepsLink {ε α : Type} {x : Go ε α} {Q : α → Prop}
    (hx : x.Every anyAnswer (writesIn (keepsLink e n)) (fun _ => True) Q) :
    Call.Triple imsDB env (World.Holds (LinkIs e n link) fun _ => True) x
      (fun a w => w.Holds (LinkIs e n link) (fun _ => True) ∧ Q a) fun _ _ => True :=
  Call.triple_writesIn (fun _ _ _ _ _ _ hq hl h => LinkIs.of_apply hq hl h)
    (fun _ _ _ _ _ _ _ _ _ => trivial) hx fun _ _ _ _ => trivial

theorem triple_txn_keepsLink {ε α : Type} {x : Go ε α} {link' : Option Int} {Q : α → Prop}
    (hx : x.Every anyAnswer (writesIn (keepsLink e n)) (fun _ => True) Q) :
    Call.Triple imsDB env (World.Holds (LinkIs e n link) (LinkIs e n link')) x
      (fun a w => w.Holds (LinkIs e n link) (LinkIs e n link') ∧ Q a) fun _ _ => True :=
  Call.triple_writesIn (fun _ _ _ _ _ _ hq hl h => LinkIs.of_apply hq hl h)
    (fun _ _ _ _ _ _ hq hl h => LinkIs.of_apply hq hl h) hx fun _ _ _ _ => trivial

/-- The link after the first write: the requested one, where the request carries one. -/
def requestedLink (r : Report) : Option Int → Option Int
  | none => r.incidentNumber
  | some value => targetIncident value

theorem triple_changeReportLink (hr : db.report.find? (e, n) = some r) (author : Int)
    (target : Option Int) :
    Call.Triple imsDB env (World.Holds (· = db) fun _ => True)
      (changeReportLink e n author r.incidentNumber target)
      (fun _ w => w.Holds (LinkIs e n target) fun _ => True) fun _ _ => True := by
  have hwrite : ∀ id db₀ b db', db₀ = db →
      (Write.attachReportToIncident e n target).apply id db₀ = .ok (b, db') →
        LinkIs e n target db' := by
    rintro id db₀ b db' rfl h
    simp only [Write.apply, hr, DB.references_eq_ok] at h
    obtain ⟨_, ⟨⟩⟩ := h
    refine ⟨{ r with incidentNumber := target }, ?_, rfl⟩
    rw [Table.find?_modify, if_pos rfl, hr]
    rfl
  refine Call.Triple.bind (triple_exec_pool hwrite fun _ _ _ => trivial) fun _ => ?_
  refine Call.Triple.bind_fact (triple_pool_keepsLink (every_recordLinkChange (e := e)
    (n := n) (permitsEntries_keepsLink e n .pool) (fun _ => rfl) (fun _ => trivial) author
      fun _ _ _ => rfl)) fun _ _ => ?_
  refine Call.Triple.bind_fact (triple_pool_keepsLink (every_notifyReportUpdate e n)) fun _ _ => ?_
  exact (triple_pool_keepsLink (every_notifyIncidentUpdates e _ _)).conseq (fun _ h => h)
    (fun _ _ h => h.1) fun _ _ h => h

theorem triple_reconcileReportLink (hr : db.report.find? (e, n) = some r) (author : Int)
    (desired : Option Int) :
    Call.Triple imsDB env (World.Holds (· = db) fun _ => True)
      (reconcileReportLink e n author r desired)
      (fun _ w => w.Holds (LinkIs e n (requestedLink r desired)) fun _ => True)
      fun _ _ => True := by
  cases desired with
  | none => exact Call.triple_pure fun w hw => ⟨⟨r, by rw [hw.1, hr], rfl⟩, hw.2⟩
  | some value =>
      refine Call.triple_ite (fun heq => ?_) fun _ => triple_changeReportLink hr author _
      exact Call.triple_pure fun w hw => ⟨⟨r, by rw [hw.1, hr], heq.symm⟩, hw.2⟩

/-- The second write: from whatever link the first one left, back to the one that was read. -/
theorem triple_updateReportTxn (s : Service) (author : Int) (r : Report) (report : ReportJSON) :
    Call.Triple imsDB env (World.Holds (LinkIs e n link) (LinkIs e n link))
      (updateReportTxn s e n author r report)
      (fun _ w => w.Holds (LinkIs e n r.incidentNumber) fun _ => True) fun _ _ => True := by
  have hwrite : ∀ summary id db₀ b db', LinkIs e n link db₀ →
      (Write.updateReport e n summary r.incidentNumber).apply id db₀ = .ok (b, db') →
        LinkIs e n r.incidentNumber db' := by
    rintro summary id db₀ b db' ⟨r₀, hr₀, _⟩ h
    simp only [Write.apply, hr₀, DB.references_eq_ok] at h
    obtain ⟨_, ⟨⟩⟩ := h
    refine ⟨{ r₀ with summary, incidentNumber := r.incidentNumber }, ?_, rfl⟩
    rw [Table.find?_modify, if_pos rfl, hr₀]
    rfl
  have hjournal := permitsEntries_keepsLink e n .txn
  refine Call.Triple.bind_fact (triple_txn_keepsLink (every_recordSummary (e := e)
    (n := n) hjournal (fun _ => rfl) (fun _ => trivial) author report.summary)) fun _ _ => ?_
  refine Call.Triple.bind (triple_exec_txn (hwrite _) fun _ _ _ => trivial) fun _ => ?_
  refine Call.Triple.bind_fact (triple_txn_keepsLink (every_applyReportJournalEntries (e := e)
    (n := n) hjournal (fun _ => rfl) (fun _ => trivial) s author report.journalEntries)) fun mentioned _ => ?_
  refine Call.Triple.bind (triple_commitTx fun _ _ _ => trivial) fun _ => ?_
  exact Call.triple_pure fun w hw => ⟨hw.1, fun _ _ => trivial⟩

/-- The part of an update after the link: it runs for a summary or an entry that is not empty. -/
def edits (report : ReportJSON) : Bool := report.summary.isSome || addsEntry report

theorem triple_editReport (s : Service) (ev : EventRow) (r : Report) (report : ReportJSON)
    (perms : EventPermissionMask) (claims : IMSClaims) :
    Call.Triple imsDB env (World.Holds (LinkIs ev.id n link) fun _ => True)
      (editReport s ev n r report perms claims)
      (fun _ w => LinkIs ev.id n (if edits report then r.incidentNumber else link) w.db)
      fun _ _ => True := by
  refine Call.triple_ite (fun hnone => ?_) fun hedit => ?_
  · have hno : edits report = false := by
      rw [Bool.and_eq_true, Bool.not_eq_true', Bool.not_eq_true'] at hnone
      rw [edits, hnone.1, hnone.2]
      rfl
    rw [hno, if_neg Bool.false_ne_true]
    exact Call.triple_pure fun w hw => hw.1
  · have hyes : edits report = true := by
      rw [edits]
      cases hs : report.summary.isSome <;> cases ha : addsEntry report
      · exact absurd (by rw [hs, ha]; rfl) hedit
      all_goals rfl
    rw [hyes, if_pos rfl]
    refine Call.Triple.bind_fact (M := World.Holds (LinkIs ev.id n link) fun _ => True)
      (Q := fun _ => True) ?_ fun _ _ => ?_
    · refine triple_pool_keepsLink (Call.every_bind (Q := fun _ => True)
        (Call.every_ensure (fun _ => trivial) fun _ => trivial) fun _ _ => ?_)
      exact Call.every_ensure (fun _ => trivial) fun _ => trivial
    refine Call.Triple.bind (triple_beginTx fun _ _ _ => trivial) fun _ => ?_
    refine Call.triple_deferRollback ?_
    refine Call.Triple.bind (triple_updateReportTxn s claims.personID r report) fun mentioned => ?_
    refine Call.Triple.bind_fact (triple_pool_keepsLink (every_emit _)) fun _ _ => ?_
    exact (triple_pool_keepsLink (every_notifyReportUpdate ev.id n)).conseq (fun _ h => h)
      (fun _ _ h => h.1.1) fun _ _ h => h

/-- The link of the report after a successful update. -/
def finalLink (r : Report) (report : ReportJSON) : Option Int :=
  if edits report then r.incidentNumber else requestedLink r report.incident

theorem triple_updateReport (s : Service) (db : DB) (caller : Option IMSClaims)
    (req : UpdateReportRequest) :
    Call.Triple imsDB env (fun w => w.db = db) (updateReport s caller req)
      (fun _ w => ∃ r, db.report.find? (req.eventId, req.reportNumber) = some r ∧
        LinkIs req.eventId req.reportNumber (finalLink r (reportWriteToJSON req.report)) w.db)
      fun _ _ => True := by
  obtain ⟨e, n, write⟩ := req
  refine Call.Triple.conseq (I := World.Holds (· = db) fun _ => True) ?_
    (fun w hw => ⟨hw, fun _ _ => trivial⟩) (fun _ _ h => h) fun _ _ h => h
  have hread : ∀ {α : Type} {x : Go ConnectError α} {Q : α → Prop},
      x.Every (truthful imsDB db) readsPool (fun _ => True) Q →
        Call.Triple imsDB env (World.Holds (· = db) fun _ => True) x
          (fun a w => w.Holds (· = db) (fun _ => True) ∧ Q a) fun _ _ => True :=
    fun hx => Call.triple_reads hx fun _ _ _ _ => trivial
  refine Call.Triple.bind_fact (hread (every_authenticated (fun _ => trivial) caller))
    fun claims _ => ?_
  refine Call.Triple.bind_fact (hread (every_reportWriteContext (fun _ => trivial) e claims))
    fun ⟨ev, perms⟩ hctx => ?_
  obtain ⟨hid, _, hperms, _⟩ := hctx
  change ev.id = e at hid
  change perms = _ at hperms
  subst hid hperms
  refine Call.Triple.bind_fact (hread (every_fetchStoredReport (fun _ => trivial) ev.id n))
    fun row hrow => ?_
  refine Call.Triple.bind_fact (hread (every_requireReportOwner (fun _ => trivial) ev.id n
    row.report claims)) fun _ _ => ?_
  refine Call.Triple.bind (triple_reconcileReportLink hrow claims.personID _) fun _ => ?_
  refine (triple_editReport s ev row.report _ _ claims).conseq (fun _ h => h) (fun _ w hw => ?_)
    fun _ _ h => h
  exact ⟨row.report, hrow, hw⟩

/-! ## What the caller asked for, and what is stored -/

/-- The incident value of a request, where it has one. -/
def UpdateReportRequest.incident (req : UpdateReportRequest) : Option Int :=
  req.report.bind (·.incident)

/-- The request also carries a summary or an entry that is not empty. -/
def UpdateReportRequest.carriesEdit (req : UpdateReportRequest) : Bool :=
  req.report.any fun report =>
    report.summary.isSome || report.journalEntries.any (·.text ≠ "")

theorem incident_reportWriteToJSON (report : Option ReportWrite) :
    (reportWriteToJSON report).incident = report.bind (·.incident) := by
  cases report <;> rfl

theorem edits_reportWriteToJSON (req : UpdateReportRequest) :
    edits (reportWriteToJSON req.report) = req.carriesEdit := by
  obtain ⟨e, n, report⟩ := req
  cases report with
  | none => rfl
  | some report =>
      simp only [edits, reportWriteToJSON, addsEntry, UpdateReportRequest.carriesEdit,
        Option.any_some, List.any_map]
      rfl

/-- A present value is stored; without one the link stays what it was. -/
def LinkFollowsRequest (db db' : DB) (req : UpdateReportRequest) : Prop :=
  match req.incident with
  | some value => LinkIs req.eventId req.reportNumber (targetIncident value) db'
  | none => ∃ link, LinkIs req.eventId req.reportNumber link db ∧
      LinkIs req.eventId req.reportNumber link db'

/-- After a successful update the link is the requested one, or unchanged where none is requested,
exactly if the request names no incident, names the stored link, or carries neither a summary nor an
entry that is not empty. -/
theorem linkFollowsRequest_iff (s : Service) (caller : Option IMSClaims)
    (req : UpdateReportRequest) (w : ImsWorld)
    (h : ((updateReport s caller req).run imsDB env w).1 = .ok ()) :
    LinkFollowsRequest w.db ((updateReport s caller req).run imsDB env w).2.db req ↔
      req.incident = none ∨
      (∃ value, req.incident = some value ∧
        LinkIs req.eventId req.reportNumber (targetIncident value) w.db) ∨
      req.carriesEdit = false := by
  have hrun : (updateReport s caller req).run imsDB env w = (.ok (), _) := Prod.ext h rfl
  obtain ⟨r, hr, hfinal⟩ := (triple_updateReport s w.db caller req).of_run_ok rfl hrun
  have hstored : LinkIs req.eventId req.reportNumber r.incidentNumber w.db := ⟨r, hr, rfl⟩
  rw [finalLink, edits_reportWriteToJSON, incident_reportWriteToJSON] at hfinal
  change LinkIs _ _ (if req.carriesEdit = true then _ else requestedLink r req.incident) _ at hfinal
  unfold LinkFollowsRequest
  cases hinc : req.incident with
  | none =>
      rw [hinc] at hfinal
      refine iff_of_true ⟨r.incidentNumber, hstored, ?_⟩ (Or.inl rfl)
      cases hedit : req.carriesEdit <;> (rw [hedit] at hfinal; exact hfinal)
  | some value =>
      rw [hinc] at hfinal
      cases hedit : req.carriesEdit with
      | false =>
          rw [hedit] at hfinal
          exact iff_of_true hfinal (Or.inr (Or.inr rfl))
      | true =>
          rw [hedit] at hfinal
          constructor
          · intro htarget
            refine Or.inr (Or.inl ⟨value, rfl, ?_⟩)
            rw [htarget.unique hfinal]
            exact hstored
          · rintro (habsent | ⟨value', hvalue', hlink⟩ | hno)
            · cases habsent
            · rw [Option.some.injEq] at hvalue'
              subst hvalue'
              show LinkIs _ _ (targetIncident value) _
              rw [hlink.unique hstored]
              exact hfinal
            · cases hno

/-- A writer, two incidents, and a report linked to the first. -/
def linkedReportDB : DB :=
  { event := Table.empty.insert 1 { name := "fair" }
    person := Table.empty.insert 7 { handle := some "hub" }
    personEvent := Table.empty.insert (7, 1) { participationType := .writer }
    incident := (Table.empty.insert (1, 1)
      { created := 0, priority := 3, state := .stateOpen, started := 0, createdBy := some 7 }).insert
        (1, 2)
        { created := 0, priority := 3, state := .stateOpen, started := 0, createdBy := some 7 }
    report := Table.empty.insert (1, 1)
      { created := 0, incidentNumber := some 1, createdBy := some 7 } }

theorem linkFollowsRequest_iff_moved :
    LinkFollowsRequest linkedReportDB
      ((updateReport {} (some ⟨7, "hub", false⟩) ⟨1, 1, some { incident := some 2 }⟩).run imsDB
        stillEnv { db := linkedReportDB, nextId := 1 }).2.db
      ⟨1, 1, some { incident := some 2 }⟩ :=
  (linkFollowsRequest_iff {} (some ⟨7, "hub", false⟩) ⟨1, 1, some { incident := some 2 }⟩
    { db := linkedReportDB, nextId := 1 } (by decide)).mpr (Or.inr (Or.inr (by decide)))

/-- A request that moves the report and changes its summary succeeds, and the report has not
moved. -/
theorem updateReport_reverts_link :
    ¬ ∀ (env : ImsEnv) (s : Service) (caller : Option IMSClaims) (req : UpdateReportRequest)
      (w : ImsWorld), ((updateReport s caller req).run imsDB env w).1 = .ok () →
        LinkFollowsRequest w.db ((updateReport s caller req).run imsDB env w).2.db req := by
  intro h
  have h := h stillEnv {} (some ⟨7, "hub", false⟩)
    ⟨1, 1, some { incident := some 2, summary := some "moved" }⟩
    { db := linkedReportDB, nextId := 1 } (by decide)
  obtain ⟨r, hr, hlink⟩ := h
  have hafter : ((updateReport {} (some ⟨7, "hub", false⟩)
      ⟨1, 1, some { incident := some 2, summary := some "moved" }⟩).run imsDB stillEnv
        { db := linkedReportDB, nextId := 1 }).2.db.report.find? (1, 1) =
      some { created := 0, summary := some "moved", incidentNumber := some 1, createdBy := some 7 } := by
    decide
  rw [hafter, Option.some.injEq] at hr
  subst hr
  exact absurd hlink (by decide)

end OcfIms
