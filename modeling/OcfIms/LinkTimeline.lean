import OcfIms.Contracts
import OcfIms.LinkView
import OcfIms.ReportLink

/-!
# The timelines and the links

What each successful call does to the picture of links and timelines: the reports an update of an
incident links and unlinks, the link a new report is created with, and the link an update of a
report changes and, where it also edits the report, puts back.
-/

namespace OcfIms

open TxnLib

variable {env : ImsEnv} {c : Conn} {v : LinkView} {e n : Int}

/-! ## Entries -/

/-- What an entry tells its timeline about links. -/
def linkText (generated : Bool) (text : List JournalLine) : List JournalLine :=
  (if generated then text else []).filter JournalLine.isLink

theorem filter_isLink_of_textOnly {logs : List JournalLine} (h : TextOnly logs) :
    logs.filter JournalLine.isLink = [] := by
  refine List.filter_eq_nil_iff.mpr fun line hline => ?_
  obtain ⟨s, rfl⟩ := h line hline
  exact Bool.false_ne_true

@[simp] theorem linkText_false (text : List JournalLine) : linkText false text = [] := rfl

@[simp] theorem linkText_text (generated : Bool) (s : String) :
    linkText generated [.text s] = [] := by
  cases generated <;> rfl

theorem linkText_single {line : JournalLine} (hline : line.isLink = true) :
    linkText true [line] = [line] := by
  rw [linkText, if_pos rfl, List.filter_cons_of_pos hline]
  rfl

/-- The writes that leave the picture alone, on either connection. -/
def silent : Conn → ∀ β : Type, Write β → Prop := fun _ _ q => q.isSilent = true

/-- A program of silent writes leaves the picture alone. -/
theorem triple_silent {ε α : Type} {x : Go ε α} {Q : α → Prop}
    (hx : x.Every anyAnswer (writesIn silent) (fun _ => True) Q) :
    Call.Triple imsDB env (World.At c (Linked v)) x (fun a w => w.At c (Linked v) ∧ Q a)
      fun _ _ => True :=
  Call.triple_at_writesIn (fun _ _ _ _ _ _ hq hl h => Linked.of_silent hq hl h) hx
    fun _ _ => trivial

/-- An entry on an incident tells its timeline what it says. -/
theorem triple_addIncidentJournalEntry (e n author : Int) (text : List JournalLine)
    (generated : Bool) :
    Call.Triple imsDB env (World.At c (Linked v)) (addIncidentJournalEntry c e n author text generated)
      (fun _ w => w.At c (Linked (v.tellIncident e n (linkText generated text))))
      fun _ _ => True := by
  refine Call.Triple.bind_fact (triple_silent (every_now trivial fun _ => trivial)) fun t _ => ?_
  refine Call.Triple.bind (triple_exec_at (L := fun id db => Linked v db ∧
    db.systemText id = if generated then text else []) ?_ fun _ _ => trivial) fun id => ?_
  · intro id db b db' hl h
    refine ⟨Linked.of_silent rfl hl h, ?_⟩
    exact ((hl.linkedIf (e := e) (n := n)).createJournalEntry h).2
  refine Call.Triple.bind (triple_exec_at (L := fun _ => Linked (v.tellIncident e n
    (linkText generated text))) ?_ fun _ _ => trivial) fun _ => Call.triple_pure fun _ hw => hw
  rintro id' db b db' ⟨hl, htext⟩ h
  have hattached := hl.attachToIncident h
  rw [htext] at hattached
  exact hattached

/-- An entry on a report, which then exists, tells its timeline what it says. -/
theorem triple_addJournalEntry (e n author : Int) (text : List JournalLine) (generated : Bool)
    (onBehalfOf : Option Int) :
    Call.Triple imsDB env (World.At c (LinkedIf e n v))
      (addJournalEntry c e n author text generated onBehalfOf)
      (fun _ w => w.At c (Linked (v.tellReport e n (linkText generated text))))
      fun _ _ => True := by
  refine Call.Triple.bind (J := fun _ w => w.At c (LinkedIf e n v)) ?_ fun t => ?_
  · exact Call.triple_ask fun w b hw s hs => hw s (by rwa [World.tock_view] at hs)
  refine Call.Triple.bind (triple_exec_at (L := fun id db => LinkedIf e n v db ∧
    db.systemText id = if generated then text else []) ?_ fun _ _ => trivial) fun id => ?_
  · intro id db b db' hl h
    exact hl.createJournalEntry h
  refine Call.Triple.bind (triple_exec_at (L := fun _ => Linked (v.tellReport e n
    (linkText generated text))) ?_ fun _ _ => trivial) fun _ => Call.triple_pure fun _ hw => hw
  rintro id' db b db' ⟨hl, htext⟩ h
  have hattached := hl.attachToReport h
  rw [htext] at hattached
  exact hattached

theorem triple_setLink {ε : Type} {err : SqlErr → ε} (r : Int) (target : Option Int) :
    Call.Triple imsDB env (World.At c (Linked v)) (exec c (.attachReportToIncident e r target) err)
      (fun _ w => w.At c (LinkedIf e r (v.setLink e r target))) fun _ _ => True :=
  triple_exec_at (fun _ _ _ _ hl h => hl.attachReport h) fun _ _ => trivial

theorem permitsEntries_silent (c : Conn) : PermitsEntries silent c :=
  ⟨fun _ => rfl, fun _ _ => rfl, fun _ => rfl⟩

/-! ## UpdateIncident -/

theorem triple_attachReport (author r : Int) :
    Call.Triple imsDB env (World.At .txn (Linked v)) (attachReport e n author r)
      (fun _ w => w.At .txn (Linked (v.relink e r (some n) (.attachedToIncident n))))
      fun _ _ => True :=
  (triple_setLink r (some n)).bind fun _ =>
    (triple_addJournalEntry e r author [.attachedToIncident n] true none).bind fun _ =>
      Call.triple_pure fun _ h => h

theorem triple_detachReport (author r : Int) :
    Call.Triple imsDB env (World.At .txn (Linked v)) (detachReport e n author r)
      (fun _ w => w.At .txn (Linked (v.relink e r none (.detachedFromIncident n))))
      fun _ _ => True :=
  (triple_setLink r none).bind fun _ =>
    (triple_addJournalEntry e r author [.detachedFromIncident n] true none).bind fun _ =>
      Call.triple_pure fun _ h => h

/-- The lines of a reconciled list of reports. -/
def reconcileLines (add sub : List Int) : List JournalLine :=
  logUnless add (.reportsAdded add) ++ logUnless sub (.reportsRemoved sub)

theorem triple_reconcileReports (inc : IncidentJSON) (st : LoadedIncident) (author : Int) :
    Call.Triple imsDB env (World.At .txn (Linked v)) (reconcileReports inc st author)
      (fun logs w => w.At .txn (Linked (v.reconcile inc.eventID inc.number (reportAdds inc st)
          (reportSubs inc st))) ∧
        logs.1 = reconcileLines (reportAdds inc st) (reportSubs inc st))
      fun _ _ => True := by
  unfold reconcileReports reportAdds reportSubs
  cases inc.reports with
  | none => exact Call.triple_pure fun w hw => ⟨hw, rfl⟩
  | some desired =>
      refine (Call.triple_forM_fold (L := fun v w => w.At .txn (Linked v))
        (fun v r => triple_attachReport author r) _ _).bind fun _ => ?_
      refine (Call.triple_forM_fold (L := fun v w => w.At .txn (Linked v))
        (fun v r => triple_detachReport author r) _ _).bind fun _ => ?_
      exact Call.triple_pure fun w hw => ⟨hw, rfl⟩

/-- A line of plain text on some incident's timeline changes nothing in the picture. -/
theorem triple_addTextEntry (e n author : Int) (s : String) (generated : Bool) :
    Call.Triple imsDB env (World.At c (Linked v))
      (addIncidentJournalEntry c e n author [.text s] generated) (fun _ w => w.At c (Linked v))
      fun _ _ => True := by
  have h : Call.Triple imsDB env (World.At c (Linked v)) _ (fun _ w => w.At c (Linked
      (v.tellIncident e n (linkText generated [.text s])))) fun _ _ => True :=
    triple_addIncidentJournalEntry e n author [.text s] generated
  rw [linkText_text, LinkView.tellIncident_nil] at h
  exact h

theorem triple_linkIncident (author : Int) (eventName : String) (o : Int × Int) :
    Call.Triple imsDB env (World.At .txn (Linked v)) (linkIncident e n author eventName o)
      (fun _ w => w.At .txn (Linked v)) fun _ _ => True := by
  refine (triple_exec_at (fun _ _ _ _ hl h => Linked.of_silent rfl hl h)
    fun _ _ => trivial).bind fun _ => ?_
  refine (triple_exec_at (fun _ _ _ _ hl h => Linked.of_silent rfl hl h)
    fun _ _ => trivial).bind fun _ => ?_
  exact (triple_addTextEntry o.1 o.2 author _ true).bind fun _ => Call.triple_pure fun _ h => h

theorem triple_unlinkIncident (author : Int) (eventName : String) (o : Int × Int) :
    Call.Triple imsDB env (World.At .txn (Linked v)) (unlinkIncident e n author eventName o)
      (fun _ w => w.At .txn (Linked v)) fun _ _ => True := by
  refine (triple_exec_at (fun _ _ _ _ hl h => Linked.of_silent rfl hl h)
    fun _ _ => trivial).bind fun _ => ?_
  refine (triple_exec_at (fun _ _ _ _ hl h => Linked.of_silent rfl hl h)
    fun _ _ => trivial).bind fun _ => ?_
  exact (triple_addTextEntry o.1 o.2 author _ true).bind fun _ => Call.triple_pure fun _ h => h

theorem triple_reconcileLinkedIncidents (inc : IncidentJSON) (st : LoadedIncident) (author : Int) :
    Call.Triple imsDB env (World.At .txn (Linked v)) (reconcileLinkedIncidents inc st author)
      (fun logs w => w.At .txn (Linked v) ∧ TextOnly logs.1) fun _ _ => True := by
  unfold reconcileLinkedIncidents
  split
  · exact Call.triple_pure fun w hw => ⟨hw, textOnly_nil⟩
  · refine (Call.triple_forM (fun o => triple_linkIncident author _ o) _).bind fun _ => ?_
    refine (Call.triple_forM (fun o => triple_unlinkIncident author _ o) _).bind fun _ => ?_
    exact Call.triple_pure fun w hw =>
      ⟨hw, (textOnly_logUnless _ _).append (textOnly_logUnless _ _)⟩

theorem triple_addChangeEntry (author : Int) (logs : List JournalLine) :
    Call.Triple imsDB env (World.At .txn (Linked v)) (addChangeEntry e n author logs)
      (fun _ w => w.At .txn (Linked (v.tellIncident e n (logs.filter JournalLine.isLink))))
      fun _ _ => True := by
  refine Call.triple_ite (fun hempty => ?_) fun _ => ?_
  · rw [List.isEmpty_iff.mp hempty, List.filter_nil, LinkView.tellIncident_nil]
    exact Call.triple_pure fun _ h => h
  · exact (triple_addIncidentJournalEntry e n author logs true).bind fun _ =>
      Call.triple_pure fun _ h => h

theorem triple_addTypedEntry (s : Service) (author : Int) (entry : JournalEntryJSON) :
    Call.Triple imsDB env (World.At .txn (Linked v)) (addTypedEntry s e n author entry)
      (fun _ w => w.At .txn (Linked v)) fun _ _ => True := by
  have hjournal := permitsEntries_silent .txn
  refine Call.triple_ite (fun _ => Call.triple_pure fun _ h => h) fun _ => ?_
  refine (triple_addTextEntry e n author _ false).bind fun id => ?_
  refine Call.Triple.bind_fact (triple_silent (every_addJournalEntryMentions hjournal.mention
    (fun _ _ => trivial) s id _ _)) fun _ _ => ?_
  exact (triple_silent (every_generateMentionNotificationsFor hjournal.notification (fun _ _ => trivial) e
    (some n) none id author)).conseq (fun _ h => h) (fun _ _ h => h.1) fun _ _ h => h

/-- The picture after an update of an incident that links and unlinks these reports. -/
def updatedView (v : LinkView) (e n : Int) (add sub : List Int) : LinkView :=
  (v.reconcile e n add sub).tellIncident e n (reconcileLines add sub)

theorem LinkView.link_updatedView {add sub : List Int} {e' r : Int} :
    (updatedView v e n add sub).link e' r =
      if e' = e ∧ r ∈ sub then none else if e' = e ∧ r ∈ add then some n else v.link e' r := by
  show (v.reconcile e n add sub).link e' r = _
  rw [LinkView.reconcile, LinkView.link_relinkAll, LinkView.link_relinkAll]

theorem filter_isLink_reconcileLines (add sub : List Int) :
    (reconcileLines add sub).filter JournalLine.isLink = reconcileLines add sub := by
  unfold reconcileLines logUnless
  cases add <;> cases sub <;> rfl

theorem triple_reconcileAll (s : Service) (inc : IncidentJSON) (st : LoadedIncident) (author : Int)
    {logs : List JournalLine} (hlogs : TextOnly logs) :
    Call.Triple imsDB env (World.At .txn (Linked v)) (reconcileAll s inc st author logs)
      (fun _ w => w.At .txn (Linked (updatedView v inc.eventID inc.number (reportAdds inc st)
        (reportSubs inc st)))) fun _ _ => True := by
  refine Call.Triple.bind_fact (triple_silent (every_reconcileTypes (fun _ => rfl) (fun _ => rfl)
    fun _ => trivial)) fun typeLogs htypes => ?_
  refine Call.Triple.bind_fact (triple_reconcileReports inc st author) fun reportLogs hreports => ?_
  obtain ⟨reportLogs, updatedReports⟩ := reportLogs
  refine Call.Triple.bind_fact (triple_silent (every_reconcileVisits (fun _ _ _ => rfl)
    fun _ => trivial)) fun visitLogs hvisits => ?_
  obtain ⟨visitLogs, updatedVisits⟩ := visitLogs
  refine Call.Triple.bind_fact (triple_reconcileLinkedIncidents inc st author)
    fun linkLogs hlinks => ?_
  obtain ⟨linkLogs, updatedLinks⟩ := linkLogs
  change reportLogs = _ at hreports
  change TextOnly visitLogs at hvisits
  change TextOnly linkLogs at hlinks
  have hlines : (logs ++ typeLogs ++ reportLogs ++ visitLogs ++ linkLogs).filter JournalLine.isLink =
      reconcileLines (reportAdds inc st) (reportSubs inc st) := by
    simp only [List.filter_append, filter_isLink_of_textOnly hlogs, filter_isLink_of_textOnly htypes,
      filter_isLink_of_textOnly hvisits, filter_isLink_of_textOnly hlinks, hreports,
      filter_isLink_reconcileLines, List.nil_append, List.append_nil]
  refine (triple_addChangeEntry author _).bind fun _ => ?_
  rw [hlines]
  refine (Call.triple_concatMap (fun entry => triple_addTypedEntry s author entry) _).bind
    fun _ => ?_
  exact Call.triple_pure fun _ h => h

theorem triple_updateIncidentTxn (s : Service) (inc : IncidentJSON) (st : LoadedIncident)
    (author : Int) (admin : Bool) :
    Call.Triple imsDB env (World.At .txn (Linked v)) (updateIncidentTxn s inc st author admin)
      (fun _ w => w.At .pool (Linked (updatedView v inc.eventID inc.number (reportAdds inc st)
        (reportSubs inc st)))) fun _ _ => True := by
  refine Call.Triple.bind_fact (triple_silent (every_scalarEdits (fun _ => trivial) s inc st author
    admin)) fun ed hed => ?_
  refine (triple_exec_at (L := fun _ => Linked v)
    (fun _ _ _ _ hl h => Linked.of_silent rfl hl h) fun _ _ => trivial).bind fun _ => ?_
  refine (triple_reconcileAll s inc st author hed).bind fun touched => ?_
  exact (triple_commit_at fun _ _ => trivial).bind fun _ => Call.triple_pure fun _ h => h

/-- The reports an update links and unlinks, in terms of the links it finds. -/
structure Relinks (v : LinkView) (e n : Int) (reports : Option (List Int)) (add sub : List Int) :
    Prop where
  requested : ∀ r ∈ add, ∃ desired, reports = some desired ∧ r ∈ desired
  unlinked : ∀ r ∈ add, v.link e r ≠ some n
  linked : ∀ r ∈ sub, v.link e r = some n

theorem relinks_of_loaded {db : DB} {inc : IncidentJSON} {st : LoadedIncident} (hl : Linked v db)
    (hst : st.row.reportNumbers = db.reportsOf inc.eventID inc.number) :
    Relinks v inc.eventID inc.number inc.reports (reportAdds inc st) (reportSubs inc st) := by
  have hlink : ∀ r, r ∈ st.row.reportNumbers ↔ v.link inc.eventID r = some inc.number := by
    intro r
    rw [hst, DB.mem_reportsOf, ← hl.2]
    rfl
  refine ⟨fun r hr => ?_, fun r hr => ?_, fun r hr => ?_⟩
  · unfold reportAdds at hr
    split at hr
    · cases hr
    · next desired hdesired => exact ⟨desired, hdesired, (mem_sliceSubtract.mp hr).1⟩
  · unfold reportAdds at hr
    split at hr
    · cases hr
    · rw [Ne, ← hlink]
      exact (mem_sliceSubtract.mp hr).2
  · unfold reportSubs at hr
    split at hr
    · cases hr
    · rw [← hlink]
      exact (mem_sliceSubtract.mp hr).1

/-- The picture after an update of the incident with this list of reports, if it has one. -/
def Updated (v : LinkView) (e n : Int) (reports : Option (List Int)) (db : DB) : Prop :=
  ∃ add sub, Relinks v e n reports add sub ∧ Linked (updatedView v e n add sub) db

theorem triple_updateIncident (s : Service) (inc : IncidentJSON) (author : Int) (admin : Bool) :
    Call.Triple imsDB env (World.At .pool (Linked v)) (updateIncident s inc author admin)
      (fun _ w => w.At .pool (Updated v inc.eventID inc.number inc.reports)) fun _ _ => True := by
  refine Call.triple_reads_bind (fun db _ => every_loadIncident (fun _ => trivial) inc)
    (fun db st hl hst => ?_) fun _ _ => trivial
  obtain ⟨i, _, hrow, _⟩ := hst
  have hrelinks : Relinks v inc.eventID inc.number inc.reports (reportAdds inc st)
      (reportSubs inc st) := relinks_of_loaded hl (by rw [hrow]; rfl)
  refine (triple_begin_at fun _ _ => trivial).bind fun _ => ?_
  refine Call.triple_deferRollback ?_
  refine (triple_updateIncidentTxn s inc st author admin).bind fun touched => ?_
  exact (triple_silent (every_announceUpdate inc st author touched)).conseq (fun _ h => h)
    (fun _ w h db hdb => ⟨_, _, hrelinks, h.1 db hdb⟩) fun _ _ h => h

theorem triple_authenticated {R : DB → Prop} (caller : Option IMSClaims) :
    Call.Triple imsDB env (World.At .pool R) (authenticated caller) (fun _ => World.At .pool R)
      fun _ _ => True := by
  cases caller with
  | none => exact Call.triple_throw fun _ _ => trivial
  | some claims => exact Call.triple_pure fun _ h => h

/-- The rest of a call, once it is done writing, tells the world about it. -/
theorem triple_told {ε : Type} {R : DB → Prop} {x : Go ε Unit}
    (hx : x.Every anyAnswer (writesIn Call.noWrite) (fun _ => True) fun _ => True) :
    Call.Triple imsDB env (World.At c R) x (fun _ => World.At c R) fun _ _ => True :=
  (Call.triple_noWrite hx fun _ _ => trivial).conseq (fun _ h => h) (fun _ _ h => h.1)
    fun _ _ h => h

theorem reports_incidentUpdateToJSON (u : Option IncidentUpdate) :
    (incidentUpdateToJSON u).reports = u.bind (·.reports) := by
  cases u <;> rfl

theorem triple_updateIncidentRPC (s : Service) (caller : Option IMSClaims)
    (req : UpdateIncidentRequest) :
    Call.Triple imsDB env (World.At .pool (Linked v)) (updateIncidentRPC s caller req)
      (fun _ w => w.At .pool (Updated v req.eventId req.incidentNumber
        (req.update.bind (·.reports)))) fun _ _ => True := by
  obtain ⟨e, n, u⟩ := req
  refine (triple_authenticated caller).bind fun claims => ?_
  refine Call.triple_reads_bind (fun db _ => every_fetchEvent (fun _ => trivial) e)
    (fun db ev _ hev => ?_) fun _ _ => trivial
  obtain ⟨rfl, _⟩ := hev
  refine Call.triple_reads_bind (fun db _ => every_permissionsAt (fun _ => trivial) ev.id claims)
    (fun db perms _ _ => ?_) fun _ _ => trivial
  refine Call.Triple.bind (triple_told ?_) fun _ => ?_
  · refine Call.every_ite (fun _ => Call.every_pure trivial) fun _ => ?_
    refine Call.every_bind (Q := fun _ => True)
      (every_select trivial (fun _ => trivial) fun _ _ => trivial) fun g _ => ?_
    refine Call.every_bind (Q := fun _ => True)
      (Call.every_ensure (fun _ => trivial) fun _ => trivial) fun _ _ => ?_
    exact Call.every_ensure (fun _ => trivial) fun _ => trivial
  refine Call.triple_reads_bind (fun db _ => every_requireIncidentVisible (fun _ => trivial) ev.id n
    claims) (fun db _ _ _ => ?_) fun _ _ => trivial
  rw [← reports_incidentUpdateToJSON]
  exact (Call.Triple.mapErr (triple_updateIncident s _ claims.personID claims.admin)).bind
    fun _ => triple_told (every_emit _)

theorem triple_createIncident (s : Service) (caller : Option IMSClaims)
    (req : CreateIncidentRequest) :
    Call.Triple imsDB env (World.At .pool (Linked v)) (createIncident s caller req)
      (fun n w => w.At .pool (Updated v req.eventId n (req.incident.bind (·.reports))))
      fun _ _ => True := by
  obtain ⟨e, u⟩ := req
  refine (triple_authenticated caller).bind fun claims => ?_
  refine Call.triple_reads_bind (fun db _ => every_fetchEvent (fun _ => trivial) e)
    (fun db ev _ hev => ?_) fun _ _ => trivial
  obtain ⟨rfl, _⟩ := hev
  refine Call.triple_reads_bind (fun db _ => every_permissionsAt (fun _ => trivial) ev.id claims)
    (fun db perms _ _ => ?_) fun _ _ => trivial
  refine Call.Triple.bind (triple_told (Call.every_ensure (fun _ => trivial) fun _ => trivial))
    fun _ => ?_
  refine Call.Triple.bind_fact (Call.triple_noWrite (E := fun _ => True) (Q := fun _ => True)
    (every_select trivial (fun _ => trivial) fun _ _ => trivial) fun _ _ => trivial) fun n _ => ?_
  refine Call.Triple.bind_fact (Call.triple_noWrite (E := fun _ => True) (Q := fun _ => True)
    (every_now trivial fun _ => trivial) fun _ _ => trivial) fun created _ => ?_
  refine Call.Triple.bind (triple_exec_at (L := fun _ => Linked v)
    (fun _ _ _ _ hl h => Linked.of_silent rfl hl h) fun _ _ => trivial) fun _ => ?_
  rw [← reports_incidentUpdateToJSON]
  refine (Call.Triple.mapErr (triple_updateIncident s _ claims.personID claims.admin)).bind
    fun _ => ?_
  exact (triple_told (every_emit _)).bind fun _ => Call.triple_pure fun _ h => h

/-! ## CreateReport -/

theorem triple_addGeneratedReportEntry (r author : Int) (line : JournalLine)
    (hline : line.isLink = true) :
    Call.Triple imsDB env (World.At c (LinkedIf e r v)) (addGeneratedReportEntry c e r author line)
      (fun _ w => w.At c (Linked (v.tellReport e r [line]))) fun _ _ => True := by
  have h : Call.Triple imsDB env (World.At c (LinkedIf e r v)) _ (fun _ w => w.At c (Linked
      (v.tellReport e r (linkText true [line])))) fun _ _ => True :=
    triple_addJournalEntry e r author [line] true none
  rw [linkText_single hline] at h
  exact (Call.Triple.mapErr h).bind fun _ => Call.triple_pure fun _ h => h

theorem triple_addGeneratedIncidentEntry (author : Int) (line : JournalLine)
    (hline : line.isLink = true) :
    Call.Triple imsDB env (World.At c (Linked v)) (addGeneratedIncidentEntry c e n author line)
      (fun _ w => w.At c (Linked (v.tellIncident e n [line]))) fun _ _ => True := by
  have h : Call.Triple imsDB env (World.At c (Linked v)) _ (fun _ w => w.At c (Linked
      (v.tellIncident e n (linkText true [line])))) fun _ _ => True :=
    triple_addIncidentJournalEntry e n author [line] true
  rw [linkText_single hline] at h
  exact (Call.Triple.mapErr h).bind fun _ => Call.triple_pure fun _ h => h

/-- A line of plain text on a report's timeline changes nothing in the picture. -/
theorem triple_addReportText (r author : Int) (s : String) (generated : Bool)
    (onBehalfOf : Option Int) :
    Call.Triple imsDB env (World.At c (Linked v))
      (addJournalEntry c e r author [.text s] generated onBehalfOf)
      (fun _ w => w.At c (Linked v)) fun _ _ => True := by
  have h : Call.Triple imsDB env (World.At c (LinkedIf e r v)) _ (fun _ w => w.At c (Linked
      (v.tellReport e r (linkText generated [.text s])))) fun _ _ => True :=
    triple_addJournalEntry e r author [.text s] generated onBehalfOf
  rw [linkText_text, LinkView.tellReport_nil] at h
  exact h.conseq (fun w hw db hdb => (hw db hdb).linkedIf) (fun _ _ h => h) fun _ _ h => h

theorem triple_recordSummary (r author : Int) (summary : Option String) :
    Call.Triple imsDB env (World.At .txn (Linked v)) (recordSummary e r author summary)
      (fun _ w => w.At .txn (Linked v)) fun _ _ => True := by
  cases summary with
  | none => exact Call.triple_pure fun _ h => h
  | some text =>
      exact (Call.Triple.mapErr (triple_addReportText r author _ true none)).bind fun _ =>
        Call.triple_pure fun _ h => h

theorem triple_applyReportJournalEntries (s : Service) (r author : Int)
    (entries : List JournalEntryJSON) :
    Call.Triple imsDB env (World.At .txn (Linked v)) (applyReportJournalEntries s e r author entries)
      (fun _ w => w.At .txn (Linked v)) fun _ _ => True := by
  have hjournal := permitsEntries_silent .txn
  refine Call.triple_concatMap (fun entry => ?_) entries
  refine Call.triple_ite (fun _ => Call.triple_pure fun _ h => h) fun _ => ?_
  refine (Call.Triple.mapErr (triple_addReportText r author _ false _)).bind fun id => ?_
  refine Call.Triple.bind_fact (triple_silent (Call.every_mapErr (every_addJournalEntryMentions
    hjournal.mention (fun _ _ => trivial) s id _ _))) fun _ _ => ?_
  exact (triple_silent (Call.every_mapErr (every_generateMentionNotificationsFor hjournal.notification
    (fun _ _ => trivial) e none (some r) id author))).conseq (fun _ h => h) (fun _ _ h => h.1)
    fun _ _ h => h

/-- The picture after a report is created, linked to an incident or not. -/
def createdView (v : LinkView) (e r : Int) (incident : Option Int) : LinkView :=
  match incident with
  | none => v.setLink e r none
  | some i => v.change e r none (some i)

/-- A report was created: it was not there before, and now it is linked as requested. -/
def Created (v : LinkView) (e r : Int) (incident : Option Int) (db : DB) : Prop :=
  v.link e r = none ∧ Linked (createdView v e r incident) db

theorem triple_recordLink (r author : Int) (incident : Option Int) :
    Call.Triple imsDB env (World.At .txn (Linked (v.setLink e r incident)))
      (recordLink e r author incident) (fun _ w => w.At .txn (Linked (createdView v e r incident)))
      fun _ _ => True := by
  cases incident with
  | none => exact Call.triple_pure fun _ h => h
  | some i =>
      refine Call.Triple.bind (J := fun _ w => w.At .txn (Linked (v.relink e r (some i)
        (.attachedToIncident i)))) ?_ fun _ => triple_addGeneratedIncidentEntry author _ rfl
      exact (triple_addGeneratedReportEntry r author _ rfl).conseq
        (fun w hw db hdb => (hw db hdb).linkedIf) (fun _ _ h => h) fun _ _ h => h

theorem triple_createReportTxn (s : Service) (r author : Int) (report : ReportJSON)
    (incident : Option Int) :
    Call.Triple imsDB env (World.At .txn (Linked (v.setLink e r incident)))
      (createReportTxn s e r author report incident)
      (fun _ w => w.At .pool (Linked (createdView v e r incident))) fun _ _ => True := by
  refine (triple_recordSummary r author _).bind fun _ => ?_
  refine (triple_recordLink r author incident).bind fun _ => ?_
  refine (triple_applyReportJournalEntries s r author _).bind fun mentioned => ?_
  exact (triple_commit_at fun _ _ => trivial).bind fun _ => Call.triple_pure fun _ h => h

theorem every_announceLink {A : ∀ β : Type, Op β → β → Prop}
    {W : Conn → ∀ β : Type, Write β → Prop} (e : Int) (incident : Option Int) :
    (announceLink e incident).Every A (writesIn W) (fun _ => True) fun _ => True := by
  cases incident with
  | none => exact Call.every_pure trivial
  | some i => exact every_notifyIncidentUpdates e 0 i

theorem triple_createReport (s : Service) (caller : Option IMSClaims) (req : CreateReportRequest) :
    Call.Triple imsDB env (World.At .pool (Linked v)) (createReport s caller req)
      (fun r w => w.At .pool (Created v req.eventId r
        ((reportWriteToJSON req.report).incident.bind targetIncident))) fun _ _ => True := by
  obtain ⟨e, write⟩ := req
  refine (triple_authenticated caller).bind fun claims => ?_
  refine Call.triple_reads_bind (fun db _ => every_reportWriteContext (fun _ => trivial) e claims)
    (fun db ctx _ hctx => ?_) fun _ _ => trivial
  obtain ⟨ev, perms⟩ := ctx
  obtain ⟨hid, _⟩ := hctx
  change ev.id = e at hid
  subst hid
  refine Call.Triple.bind_fact (Call.triple_noWrite (E := fun _ => True) (Q := fun _ => True)
    (every_select trivial (fun _ => trivial) fun _ _ => trivial) fun _ _ => trivial) fun r _ => ?_
  refine Call.Triple.bind_fact (Call.triple_noWrite (E := fun _ => True) (Q := fun _ => True)
    (every_now trivial fun _ => trivial) fun _ _ => trivial) fun created _ => ?_
  generalize hinc : (reportWriteToJSON write).incident.bind targetIncident = incident
  refine Call.Triple.bind (triple_exec_at (L := fun _ db => Linked (v.setLink ev.id r incident) db ∧
    v.link ev.id r = none) ?_ fun _ _ => trivial) fun _ => ?_
  · intro id db b db' hl h
    obtain ⟨hl', hnew⟩ := hl.createReport h
    refine ⟨hl', ?_⟩
    rw [← hl.2]
    show (db.report.find? (ev.id, r)).bind _ = none
    rw [Table.contains_eq_false_iff.mp hnew]
    rfl
  refine Call.Triple.of_fact (p := v.link ev.id r = none) (fun w hw => (hw w.db rfl).2)
    fun hnone => ?_
  refine Call.Triple.bind (J := fun _ w => w.At .txn (Linked (v.setLink ev.id r incident))) ?_
    fun _ => ?_
  · exact (triple_begin_at fun _ _ => trivial).conseq (fun w hw db hdb => (hw db hdb).1)
      (fun _ _ h => h) fun _ _ h => h
  refine Call.triple_deferRollback ?_
  refine (triple_createReportTxn s r claims.personID _ incident).bind fun mentioned => ?_
  refine (triple_told (every_emit _)).bind fun _ => ?_
  refine (triple_told (every_announceLink ev.id incident)).bind fun _ => ?_
  refine (triple_told (every_notifyReportUpdate ev.id r)).bind fun _ => ?_
  exact Call.triple_pure fun w hw db hdb => ⟨hnone, hw db hdb⟩

/-! ## UpdateReport -/

/-- No write of the modelled methods deletes a report. -/
theorem contains_report_of_apply {β : Type} {q : Write β} {id : Int} {b : β} {db db' : DB} {r : Int}
    (hr : db.report.contains (e, r) = true) (h : q.apply id db = .ok (b, db')) :
    db'.report.contains (e, r) = true := by
  cases Write.effect_of_apply h with
  | createReport => exact Table.contains_insert_of_contains _ hr
  | attachReport =>
      rw [Table.contains_modify]
      exact hr
  | updateReport =>
      rw [Table.contains_modify]
      exact hr
  | _ => exact hr

/-- The picture is `v` and the report is stored. -/
def LinkedAt (e r : Int) (v : LinkView) (db : DB) : Prop :=
  Linked v db ∧ db.report.contains (e, r) = true

/-- A stored report stays stored. -/
theorem triple_linkedAt {ε α : Type} {x : Go ε α} {v' : LinkView} {r : Int} {Q : α → Prop}
    (h : Call.Triple imsDB env (World.At c (Linked v)) x (fun _ w => w.At c (Linked v'))
      fun _ _ => True)
    (hx : x.Every anyAnswer (writesIn anyWrite) (fun _ => True) Q) :
    Call.Triple imsDB env (World.At c (LinkedAt e r v)) x (fun _ w => w.At c (LinkedAt e r v'))
      fun _ _ => True :=
  (h.and (Call.triple_at_writesIn (R := fun db => db.report.contains (e, r) = true)
    (fun _ _ _ _ _ _ _ hr h => contains_report_of_apply hr h) hx fun _ _ => trivial)).conseq
    (fun _ hw => ⟨fun db hdb => (hw db hdb).1, fun db hdb => (hw db hdb).2⟩)
    (fun _ _ hw db hdb => ⟨hw.1 db hdb, hw.2.1 db hdb⟩) fun _ _ _ => trivial

theorem triple_recordLinkChange (r author : Int) (previous target : Option Int) :
    Call.Triple imsDB env (World.At .pool (LinkedIf e r (v.setLink e r target)))
      (recordLinkChange e r author previous target)
      (fun _ w => w.At .pool (Linked (v.change e r previous target))) fun _ _ => True := by
  cases target with
  | some i =>
      exact (triple_addGeneratedReportEntry r author _ rfl).bind fun _ =>
        triple_addGeneratedIncidentEntry author _ rfl
  | none =>
      refine (triple_addGeneratedReportEntry r author _ rfl).bind fun _ => ?_
      cases previous with
      | none => exact Call.triple_pure fun _ h => h
      | some j => exact triple_addGeneratedIncidentEntry author _ rfl

/-- The picture after the link is reconciled: changed where a value differs from the stored link. -/
def reconciledView (v : LinkView) (e r : Int) (previous desired : Option Int) : LinkView :=
  match desired with
  | none => v
  | some value =>
    if targetIncident value = previous then v else v.change e r previous (targetIncident value)

theorem triple_reconcileReportLink_at (r author : Int) (stored : Report) (desired : Option Int) :
    Call.Triple imsDB env (World.At .pool (Linked v))
      (reconcileReportLink e r author stored desired)
      (fun _ w => w.At .pool (Linked (reconciledView v e r stored.incidentNumber desired)))
      fun _ _ => True := by
  cases desired with
  | none => exact Call.triple_pure fun _ h => h
  | some value =>
      unfold reconcileReportLink reconciledView
      dsimp only
      split
      · exact Call.triple_pure fun _ h => h
      · refine (triple_setLink r _).bind fun _ => ?_
        refine (triple_recordLinkChange r author _ _).bind fun _ => ?_
        refine (triple_told (every_notifyReportUpdate e r)).bind fun _ => ?_
        exact triple_told (every_notifyIncidentUpdates e _ _)

theorem every_reconcileReportLink {W : Conn → ∀ β : Type, Write β → Prop}
    (hW : ∀ c β (q : Write β), W c β q) (r author : Int) (stored : Report)
    (desired : Option Int) :
    (reconcileReportLink e r author stored desired).Every anyAnswer (writesIn W) (fun _ => True)
      fun _ => True := by
  have hentries : PermitsEntries W .pool :=
    ⟨fun _ => hW _ _ _, fun _ _ => hW _ _ _, fun _ => hW _ _ _⟩
  cases desired with
  | none => exact Call.every_pure trivial
  | some value =>
      refine Call.every_ite (fun _ => Call.every_pure trivial) fun _ => ?_
      refine Call.every_bind (Q := fun _ => True)
        (every_exec (hW _ _ _) (fun _ => trivial) fun _ _ => trivial) fun _ _ => ?_
      refine Call.every_bind (every_recordLinkChange hentries (fun _ => hW _ _ _)
        (fun _ => trivial) author fun _ _ _ => hW _ _ _) fun _ _ => ?_
      exact Call.every_bind (every_notifyReportUpdate e r) fun _ _ =>
        every_notifyIncidentUpdates e _ _

theorem triple_updateReportTxn_at (s : Service) (r author : Int) (stored : Report)
    (report : ReportJSON) :
    Call.Triple imsDB env (World.At .txn (LinkedAt e r v))
      (updateReportTxn s e r author stored report)
      (fun _ w => w.At .pool (Linked (v.setLink e r stored.incidentNumber))) fun _ _ => True := by
  refine (triple_linkedAt (triple_recordSummary r author _) (every_recordSummary
    (permitsEntries_anyWrite .txn) (fun _ => trivial) (fun _ => trivial) author _)).bind fun _ => ?_
  refine Call.Triple.bind (triple_exec_at (L := fun _ => Linked
    (v.setLink e r stored.incidentNumber)) ?_ fun _ _ => trivial) fun _ => ?_
  · intro id db b db' hl h
    exact hl.1.updateReport hl.2 h
  refine (triple_applyReportJournalEntries s r author _).bind fun mentioned => ?_
  exact (triple_commit_at fun _ _ => trivial).bind fun _ => Call.triple_pure fun _ h => h

/-- The picture after the edits: the row write puts the link that was read back. -/
def editedView (v : LinkView) (e r : Int) (stored : Option Int) (edited : Bool) : LinkView :=
  if edited then v.setLink e r stored else v

theorem triple_editReport_at (s : Service) (ev : EventRow) (r : Int) (stored : Report)
    (report : ReportJSON) (perms : EventPermissionMask) (claims : IMSClaims) :
    Call.Triple imsDB env (World.At .pool (LinkedAt ev.id r v))
      (editReport s ev r stored report perms claims)
      (fun _ w => w.At .pool (Linked (editedView v ev.id r stored.incidentNumber (edits report))))
      fun _ _ => True := by
  have hedits : edits report = !(!report.summary.isSome && !addsEntry report) := by
    rw [edits, Bool.not_and, Bool.not_not, Bool.not_not]
  rw [hedits]
  refine Call.triple_ite (fun hnone => ?_) fun hedit => ?_
  · rw [hnone]
    exact Call.triple_pure fun w hw db hdb => (hw db hdb).1
  · rw [eq_false_of_ne_true hedit]
    refine (triple_told ?_).bind fun _ => ?_
    · refine Call.every_bind (Q := fun _ => True)
        (Call.every_ensure (fun _ => trivial) fun _ => trivial) fun _ _ => ?_
      exact Call.every_ensure (fun _ => trivial) fun _ => trivial
    refine (triple_begin_at fun _ _ => trivial).bind fun _ => ?_
    refine Call.triple_deferRollback ?_
    refine (triple_updateReportTxn_at s r claims.personID stored report).bind fun mentioned => ?_
    refine (triple_told (every_emit _)).bind fun _ => ?_
    exact triple_told (every_notifyReportUpdate ev.id r)

theorem triple_updateReport_at (s : Service) (caller : Option IMSClaims)
    (req : UpdateReportRequest) :
    Call.Triple imsDB env (World.At .pool (Linked v)) (updateReport s caller req)
      (fun _ w => w.At .pool (Linked (editedView (reconciledView v req.eventId req.reportNumber
        (v.link req.eventId req.reportNumber) req.incident) req.eventId req.reportNumber
          (v.link req.eventId req.reportNumber) req.carriesEdit))) fun _ _ => True := by
  rw [← edits_reportWriteToJSON]
  unfold UpdateReportRequest.incident
  rw [← incident_reportWriteToJSON]
  obtain ⟨e, r, write⟩ := req
  refine Call.Triple.of_pool fun db hl => ?_
  refine (triple_authenticated caller).bind fun claims => ?_
  refine Call.triple_reads_bind (fun db _ => every_reportWriteContext (fun _ => trivial) e claims)
    (fun db' ctx hdb hctx => ?_) fun _ _ => trivial
  subst hdb
  obtain ⟨ev, perms⟩ := ctx
  obtain ⟨hid, _, hperms, _⟩ := hctx
  change ev.id = e at hid
  change perms = _ at hperms
  subst hid hperms
  refine Call.triple_reads_bind (fun db _ => every_fetchStoredReport (fun _ => trivial) ev.id r)
    (fun db row hdb hrow => ?_) fun _ _ => trivial
  subst hdb
  have hprev : v.link ev.id r = row.report.incidentNumber := by
    rw [← hl.2]
    show (db.report.find? (ev.id, r)).bind _ = _
    rw [hrow]
    rfl
  rw [hprev]
  refine Call.triple_reads_bind (E := fun _ => True)
    (Q := fun _ _ => ownsForEdit db claims ev.id r row.report = true) (fun db' hdb => ?_)
    (fun _ _ _ _ => ?_) fun _ _ => trivial
  · rw [hdb]
    exact every_requireReportOwner (fun _ => trivial) ev.id r row.report claims
  refine Call.Triple.bind ((triple_linkedAt (triple_reconcileReportLink_at r claims.personID
    row.report _) (every_reconcileReportLink (fun _ _ _ => trivial) r claims.personID row.report
      _)).conseq (fun w hw db hdb => ?_) (fun _ _ h => h) fun _ _ h => h) fun _ =>
    triple_editReport_at s ev r row.report _ _ claims
  rw [hw db hdb]
  exact ⟨hl, Table.contains_iff.mpr ⟨_, hrow⟩⟩

end OcfIms
