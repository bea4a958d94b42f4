import OcfIms.Gates
import OcfIms.LibTriple

/-!
# What the helpers may do

One contract for each helper, in the form of `Call.Every`: the writes it issues and the errors it
ends with, whatever the database answers. The arguments that follow need no more about the helpers:
which connection a method writes on, which records its writes can reach, and how it turns a caller
away are all read off these contracts.
-/

namespace OcfIms

open TxnLib

/-- Any write, on any connection. -/
def anyWrite : Conn → ∀ β : Type, Write β → Prop := fun _ _ _ => True

section Statements

variable {A : ∀ β : Type, Op β → β → Prop} {P : ∀ β : Type, Op β → Prop} {ε α : Type}
  {E : ε → Prop} {Q : α → Prop} {c : Conn}

theorem every_select {q : Read α} {err : SqlErr → ε} (hP : P _ (.read c q))
    (hE : ∀ x, E (err x)) (hQ : ∀ a, A _ (.read c q) (.ok a) → Q a) :
    (select c q err).Every A P E Q :=
  Call.every_mapErr (Call.every_attempt hP (fun x _ => hE x) hQ)

theorem every_exec {q : Write α} {err : SqlErr → ε} (hP : P _ (.write c q))
    (hE : ∀ x, E (err x)) (hQ : ∀ a, A _ (.write c q) (.ok a) → Q a) :
    (exec c q err).Every A P E Q :=
  Call.every_mapErr (Call.every_attempt hP (fun x _ => hE x) hQ)

theorem every_now {Q : Int → Prop} (hP : P _ (.ask .now)) (hQ : ∀ t, Q t) :
    (now : Go ε Int).Every A P E Q :=
  Call.every_perform hP fun t _ => hQ t

end Statements

/-- A read on the pool, where reads are truthful. -/
theorem every_read {db : DB} {ε α : Type} {E : ε → Prop} {Q : α → Prop} {q : Read α}
    {err : SqlErr → ε} (hQ : ∀ a, q.eval db = .ok a → Q a)
    (hE : ∀ x, q.eval db = .error x ∨ (∃ n, x = .mysql n) → E (err x)) :
    (select .pool q err).Every (truthful imsDB db) readsPool E Q := by
  refine Call.every_mapErr (Call.every_attempt trivial (fun x hx => hE x ?_) fun a ha => hQ a ?_)
  · rcases hx with hx | ⟨n, hx⟩
    · exact Or.inl hx.symm
    · cases hx
      exact Or.inr ⟨n, rfl⟩
  · rcases ha with ha | ⟨n, ha⟩
    · exact ha.symm
    · cases ha

section Triples

variable {env : ImsEnv} {D D' T : DB → Prop} {ε α : Type} {K : ε → ImsWorld → Prop}

theorem triple_exec_pool {q : Write α} {err : SqlErr → ε}
    (hq : ∀ id db b db', D db → q.apply id db = .ok (b, db') → D' db')
    (hK : ∀ x w, w.Holds D T → K (err x) w) :
    Call.Triple imsDB env (World.Holds D T) (exec .pool q err) (fun _ w => w.Holds D' T) K :=
  Call.Triple.mapErr (Call.triple_write_pool hq hK)

theorem triple_exec_txn {U : DB → Prop} {q : Write α} {err : SqlErr → ε}
    (hq : ∀ id db b db', T db → q.apply id db = .ok (b, db') → U db')
    (hK : ∀ x w, w.Holds D T → K (err x) w) :
    Call.Triple imsDB env (World.Holds D T) (exec .txn q err) (fun _ w => w.Holds D U) K :=
  Call.Triple.mapErr (Call.triple_write_txn hq hK)

theorem triple_beginTx {err : SqlErr → ε} (hK : ∀ x w, w.Holds D T → K (err x) w) :
    Call.Triple imsDB env (World.Holds D T) (begin err) (fun _ w => w.Holds D D) K :=
  Call.Triple.mapErr (Call.triple_begin_holds hK)

theorem triple_commitTx {err : SqlErr → ε} (hK : ∀ x w, w.Holds D T → K (err x) w) :
    Call.Triple imsDB env (World.Holds D T) (commit err) (fun _ w => w.Holds T T) K :=
  Call.Triple.mapErr (Call.triple_commit_holds hK)

theorem triple_exec_at {c : Conn} {R : DB → Prop} {L : α → DB → Prop} {q : Write α}
    {err : SqlErr → ε} (hq : ∀ id db b db', R db → q.apply id db = .ok (b, db') → L b db')
    (hK : ∀ x w, K x w) :
    Call.Triple imsDB env (World.At c R) (exec c q err) (fun b w => w.At c (L b)) K :=
  Call.Triple.mapErr (Call.triple_write_at hq fun _ _ => hK _ _)

theorem triple_begin_at {R : DB → Prop} {err : SqlErr → ε} (hK : ∀ x w, K x w) :
    Call.Triple imsDB env (World.At .pool R) (begin err) (fun _ w => w.At .txn R) K :=
  Call.Triple.mapErr (Call.triple_begin_at fun _ _ => hK _ _)

theorem triple_commit_at {R : DB → Prop} {err : SqlErr → ε} (hK : ∀ x w, K x w) :
    Call.Triple imsDB env (World.At .txn R) (commit err) (fun _ w => w.At .pool R) K :=
  Call.Triple.mapErr (Call.triple_commit_at fun _ _ => hK _ _)

end Triples

/-- The two transaction loops are one. -/
theorem runInTx_eq {α : Type} (fn : Go HTTPError α) :
    runInTx fn = Call.runInTx asHTTPError retryableTxErr fn 3 := by
  have hattempt : ∀ again : HTTPError → Go HTTPError α,
      attemptTx fn again = Call.attemptTx asHTTPError retryableTxErr fn again := by
    intro again
    unfold attemptTx Call.attemptTx
    congr 1
    funext _
    congr 1
    funext r
    cases r with
    | error e => rfl
    | ok a =>
        show (_ >>= _) = (_ >>= _)
        congr 1
        funext r
        cases r <;> rfl
  have hloop : ∀ retries,
      runInTxRetrying fn retries = Call.runInTx asHTTPError retryableTxErr fn retries := by
    intro retries
    induction retries with
    | zero => exact hattempt _
    | succ retries ih =>
        rw [runInTxRetrying, ih]
        exact hattempt _
  exact hloop 3

/-! ## Journals -/

/-- The writes of an entry, its mentions and its notifications are permitted. -/
structure PermitsEntries (W : Conn → ∀ β : Type, Write β → Prop) (c : Conn) : Prop where
  entry : ∀ je, W c _ (.createJournalEntry je)
  mention : ∀ je p, W c _ (.createJournalEntryMention je p)
  notification : ∀ n, W c _ (.createNotification n)

theorem permitsEntries_anyWrite (c : Conn) : PermitsEntries anyWrite c :=
  ⟨fun _ => trivial, fun _ _ => trivial, fun _ => trivial⟩

section Journals

variable {A : ∀ β : Type, Op β → β → Prop} {T : Effect → Prop}
  {W : Conn → ∀ β : Type, Write β → Prop} {c : Conn}
  {E : HTTPError → Prop}

theorem every_addIncidentJournalEntry (hW : PermitsEntries W c) {e n : Int}
    (hn : ∀ je, W c _ (.attachJournalEntryToIncident e n je))
    (hE : ∀ msg x, E (.internalServerError msg x)) (author : Int) (text : List JournalLine)
    (generated : Bool) :
    (addIncidentJournalEntry c e n author text generated).Every A (operatesIn T W) E fun _ => True := by
  refine Call.every_bind (Q := fun _ => True) (every_now trivial fun _ => trivial) fun t _ => ?_
  refine Call.every_bind (Q := fun _ => True)
    (every_exec (hW.entry _) (hE _) fun _ _ => trivial) fun id _ => ?_
  exact Call.every_bind (Q := fun _ => True) (every_exec (hn id) (hE _) fun _ _ => trivial)
    fun _ _ => Call.every_pure trivial

theorem every_addJournalEntry (hW : PermitsEntries W c) {e n : Int}
    (hn : ∀ je, W c _ (.attachJournalEntryToReport e n je)) (hE : ∀ err, E err) (author : Int)
    (text : List JournalLine) (generated : Bool) (onBehalfOf : Option Int) :
    (addJournalEntry c e n author text generated onBehalfOf).Every A (operatesIn T W) E
      fun _ => True := by
  refine Call.every_bind (Q := fun _ => True) (every_now trivial fun _ => trivial) fun t _ => ?_
  refine Call.every_bind (Q := fun _ => True)
    (every_exec (hW.entry _) (fun _ => hE _) fun _ _ => trivial) fun id _ => ?_
  exact Call.every_bind (Q := fun _ => True)
    (every_exec (hn id) (fun _ => hE _) fun _ _ => trivial)
    fun _ _ => Call.every_pure trivial

theorem every_getAllUsers {ε : Type} {E : ε → Prop} {err : SqlErr → ε} (hE : ∀ x, E (err x)) :
    (getAllUsers err).Every A (operatesIn T W) E fun _ => True := by
  refine Call.every_bind (Q := fun _ => True) (Call.every_perform trivial fun _ _ => trivial)
    fun r _ => ?_
  cases r with
  | ok users => exact Call.every_pure trivial
  | error x => exact Call.every_throw (hE x)

theorem every_resolveTypedMentionIDs (s : Service) (text : String) :
    (resolveTypedMentionIDs s text).Every A (operatesIn T W) (fun _ => True) fun _ => True := by
  refine Call.every_ite (fun _ => Call.every_pure trivial) fun _ => ?_
  exact Call.every_bind (every_getAllUsers fun _ => trivial) fun _ _ => Call.every_pure trivial

theorem every_addJournalEntryMentions (hW : ∀ je p, W c _ (.createJournalEntryMention je p))
    (hE : ∀ msg x, E (.internalServerError msg x)) (s : Service) (id : Int) (text : String)
    (explicit : List Int) :
    (addJournalEntryMentions s c id text explicit).Every A (operatesIn T W) E fun _ => True := by
  have htyped : (Call.mapErr (.internalServerError "Failed to resolve typed mentions")
      (resolveTypedMentionIDs s text)).Every A (operatesIn T W) E fun _ => True :=
    Call.every_mapErr (Call.Every.mono (every_resolveTypedMentionIDs s text) (fun _ _ _ h => h)
      (fun _ _ h => h) (fun x _ => hE _ x) fun _ h => h)
  refine Call.every_bind htyped fun typed _ => ?_
  refine Call.every_forM fun p _ => ?_
  refine Call.every_ite (fun _ => Call.every_pure trivial) fun _ => ?_
  exact every_exec (hW id p) (hE _) fun _ _ => trivial

theorem every_createNotification (hW : ∀ n, W c _ (.createNotification n))
    (hE : ∀ msg x, E (.internalServerError msg x)) (recipient : Int) (type : NotificationType)
    (e : Int) (incidentNumber reportNumber journalEntry : Option Int) (actor : Int) :
    (createNotification c recipient type e incidentNumber reportNumber journalEntry actor).Every A
      (operatesIn T W) E fun _ => True := by
  refine Call.every_ite (fun _ => Call.every_pure trivial) fun _ => ?_
  refine Call.every_bind (Q := fun _ => True) (every_now trivial fun _ => trivial) fun t _ => ?_
  exact every_exec (hW _) (hE _) fun _ _ => trivial

theorem every_generateMentionNotificationsFor (hW : ∀ n, W c _ (.createNotification n))
    (hE : ∀ msg x, E (.internalServerError msg x)) (e : Int)
    (incidentNumber reportNumber : Option Int) (id actor : Int) :
    (generateMentionNotificationsFor c e incidentNumber reportNumber id actor).Every A (operatesIn T W)
      E fun _ => True := by
  refine Call.every_bind (Q := fun _ => True)
    (every_select trivial (hE _) fun _ _ => trivial) fun personIDs _ => ?_
  refine Call.every_bind (Q := fun _ => True) (Call.every_forM fun p _ => ?_) fun _ _ =>
    Call.every_pure trivial
  exact every_createNotification hW hE p _ e incidentNumber reportNumber _ actor

theorem every_addChangeEntry (hW : PermitsEntries W .txn) {e n : Int}
    (hn : ∀ je, W .txn _ (.attachJournalEntryToIncident e n je))
    (hE : ∀ msg x, E (.internalServerError msg x)) (author : Int) (logs : List JournalLine) :
    (addChangeEntry e n author logs).Every A (operatesIn T W) E fun _ => True := by
  refine Call.every_ite (fun _ => Call.every_pure trivial) fun _ => ?_
  exact Call.every_bind (every_addIncidentJournalEntry hW hn hE author logs true) fun _ _ =>
    Call.every_pure trivial

theorem every_addTypedEntry (hW : PermitsEntries W .txn) {e n : Int}
    (hn : ∀ je, W .txn _ (.attachJournalEntryToIncident e n je))
    (hE : ∀ msg x, E (.internalServerError msg x)) (s : Service) (author : Int)
    (entry : JournalEntryJSON) :
    (addTypedEntry s e n author entry).Every A (operatesIn T W) E fun _ => True := by
  refine Call.every_ite (fun _ => Call.every_pure trivial) fun _ => ?_
  refine Call.every_bind (every_addIncidentJournalEntry hW hn hE author _ false) fun id _ => ?_
  refine Call.every_bind (every_addJournalEntryMentions hW.mention hE s id _ _) fun _ _ => ?_
  exact every_generateMentionNotificationsFor hW.notification hE e (some n) none id author

end Journals

/-! ## Scalar edits -/

/-- The log holds plain text only. -/
def TextOnly (logs : List JournalLine) : Prop := ∀ line ∈ logs, ∃ s, line = .text s

theorem textOnly_nil : TextOnly [] := fun _ h => absurd h List.not_mem_nil

theorem TextOnly.append {l m : List JournalLine} (hl : TextOnly l) (hm : TextOnly m) :
    TextOnly (l ++ m) := by
  intro line hline
  rcases List.mem_append.mp hline with h | h
  · exact hl line h
  · exact hm line h

theorem textOnly_logUnless {α : Type} (changed : List α) (s : String) :
    TextOnly (logUnless changed (.text s)) := by
  unfold logUnless
  split
  · exact textOnly_nil
  · intro line hline
    exact ⟨s, List.mem_singleton.mp hline⟩

theorem Edit.textOnly_set {ed : Edit} (h : TextOnly ed.logs) (p : UpdateIncidentParams)
    (s : String) : TextOnly (ed.set p s).logs :=
  h.append fun _ hline => ⟨s, List.mem_singleton.mp hline⟩

section Scalars

variable {A : ∀ β : Type, Op β → β → Prop} {T : Effect → Prop}
  {W : Conn → ∀ β : Type, Write β → Prop}
  {E : HTTPError → Prop} {inc : IncidentJSON} {stored : Incident} {ed : Edit}

theorem textOnly_editPriority (h : TextOnly ed.logs) :
    TextOnly (editPriority inc stored ed).logs := by
  unfold editPriority
  split
  · exact Edit.textOnly_set h _ _
  · exact h

theorem textOnly_editStarted (s : Service) (h : TextOnly ed.logs) :
    TextOnly (editStarted inc stored s ed).logs := by
  unfold editStarted
  split
  · exact h
  · split
    · exact Edit.textOnly_set h _ _
    · exact h

theorem textOnly_editSummary (h : TextOnly ed.logs) :
    TextOnly (editSummary inc stored ed).logs := by
  unfold editSummary
  dsimp only
  split
  · exact Edit.textOnly_set h _ _
  · exact h

theorem textOnly_editDescription (h : TextOnly ed.logs) :
    TextOnly (editDescription inc stored ed).logs := by
  unfold editDescription
  dsimp only
  split
  · exact Edit.textOnly_set h _ _
  · exact h

theorem textOnly_editBooth (h : TextOnly ed.logs) : TextOnly (editBooth inc stored ed).logs := by
  unfold editBooth
  dsimp only
  split
  · exact Edit.textOnly_set h _ _
  · exact h

theorem every_editPrivacy (hE : ∀ err, E err) (author : Int) (admin : Bool)
    (h : TextOnly ed.logs) :
    (editPrivacy inc stored author admin ed).Every A (operatesIn T W) E fun ed => TextOnly ed.logs := by
  unfold editPrivacy
  split
  · exact Call.every_pure h
  · refine Call.every_ite (fun _ => Call.every_throw (hE _)) fun _ => ?_
    exact Call.every_ite (fun _ => Call.every_pure (Edit.textOnly_set h _ _))
      fun _ => Call.every_pure h

theorem every_editState (h : TextOnly ed.logs) :
    (editState inc stored ed).Every A (operatesIn T W) E fun ed => TextOnly ed.logs := by
  unfold editState
  split
  · exact Call.every_pure h
  · refine Call.every_ite (fun _ => Call.every_pure h) fun _ => ?_
    refine Call.every_ite (fun _ => ?_) fun _ => Call.every_pure (Edit.textOnly_set h _ _)
    exact Call.every_bind (Q := fun _ => True) (every_now trivial fun _ => trivial)
      fun _ _ => Call.every_pure (Edit.textOnly_set h _ _)

theorem every_editOutcome (hE : ∀ err, E err) (allOutcomes : List (Int × String))
    (h : TextOnly ed.logs) :
    (editOutcome inc stored allOutcomes ed).Every A (operatesIn T W) E fun ed => TextOnly ed.logs := by
  unfold editOutcome
  split
  · exact Call.every_pure h
  · refine Call.every_ite (fun _ => ?_) fun _ => ?_
    · exact Call.every_ite (fun _ => Call.every_pure (Edit.textOnly_set h _ _))
        fun _ => Call.every_pure h
    · refine Call.every_ite (fun _ => Call.every_pure h) fun _ => ?_
      split
      · exact Call.every_throw (hE _)
      · exact Call.every_pure (Edit.textOnly_set h _ _)

theorem every_editArea (hE : ∀ err, E err) (e : Int) (h : TextOnly ed.logs) :
    (editArea inc stored e ed).Every A (operatesIn T W) E fun ed => TextOnly ed.logs := by
  unfold editArea
  split
  · exact Call.every_pure h
  · refine Call.every_ite (fun _ => ?_) fun _ => ?_
    · exact Call.every_ite (fun _ => Call.every_pure (Edit.textOnly_set h _ _))
        fun _ => Call.every_pure h
    · refine Call.every_ite (fun _ => Call.every_pure h) fun _ => ?_
      exact Call.every_bind (Q := fun _ => True)
        (every_select trivial (fun _ => hE _) fun _ _ => trivial) fun _ _ =>
        Call.every_pure (Edit.textOnly_set h _ _)

/-- The scalar edits issue no write and log plain text. -/
theorem every_scalarEdits (hE : ∀ err, E err) (s : Service) (inc : IncidentJSON)
    (st : LoadedIncident) (author : Int) (admin : Bool) :
    (scalarEdits s inc st author admin).Every A (operatesIn T W) E fun ed => TextOnly ed.logs := by
  refine Call.every_bind (every_editPrivacy hE author admin textOnly_nil) fun ed hed => ?_
  refine Call.every_bind (every_editState (textOnly_editPriority hed)) fun ed hed => ?_
  refine Call.every_bind (every_editOutcome hE st.allOutcomes hed) fun ed hed => ?_
  exact every_editArea hE st.row.event (textOnly_editBooth (textOnly_editDescription
    (textOnly_editSummary (textOnly_editStarted s hed))))

end Scalars

/-! ## The transaction of an update -/

/-- The reports an update links to its incident. -/
def reportAdds (inc : IncidentJSON) (st : LoadedIncident) : List Int :=
  match inc.reports with
  | none => []
  | some desired => sliceSubtract desired st.row.reportNumbers

/-- The reports it unlinks. -/
def reportSubs (inc : IncidentJSON) (st : LoadedIncident) : List Int :=
  match inc.reports with
  | none => []
  | some desired => sliceSubtract st.row.reportNumbers desired

/-- The incidents linked to the stored one. -/
def LoadedIncident.links (st : LoadedIncident) : List (Int × Int) :=
  st.linkedIncidents.map fun cli => (cli.linkedEvent, cli.linkedIncident)

/-- The incidents an update links to its own. -/
def linkAdds (inc : IncidentJSON) (st : LoadedIncident) : List (Int × Int) :=
  match inc.linkedIncidents with
  | none => []
  | some desired => sliceSubtract (desired.map fun dli => (dli.eventID, dli.number)) st.links

/-- The incidents it unlinks. -/
def linkSubs (inc : IncidentJSON) (st : LoadedIncident) : List (Int × Int) :=
  match inc.linkedIncidents with
  | none => []
  | some desired => sliceSubtract st.links (desired.map fun dli => (dli.eventID, dli.number))

/-- The writes of an update's transaction that follow the one of the row are permitted. -/
structure PermitsUpdate (W : Conn → ∀ β : Type, Write β → Prop) (inc : IncidentJSON)
    (st : LoadedIncident) : Prop where
  entries : PermitsEntries W .txn
  journal : ∀ je, W .txn _ (.attachJournalEntryToIncident inc.eventID inc.number je)
  reportJournal : ∀ r ∈ reportAdds inc st ++ reportSubs inc st, ∀ je,
    W .txn _ (.attachJournalEntryToReport inc.eventID r je)
  attachType : ∀ t, W .txn _ (.attachIncidentTypeToIncident inc.eventID inc.number t)
  detachType : ∀ t, W .txn _ (.detachIncidentTypeFromIncident inc.eventID inc.number t)
  attachReport : ∀ r ∈ reportAdds inc st,
    W .txn _ (.attachReportToIncident inc.eventID r (some inc.number))
  detachReport : ∀ r ∈ reportSubs inc st, W .txn _ (.attachReportToIncident inc.eventID r none)
  visit : inc.visits.isSome = true → ∀ v target, W .txn _ (.attachVisitToIncident inc.eventID v target)
  link : ∀ o ∈ linkAdds inc st, W .txn _ (.linkIncidents inc.eventID inc.number o.1 o.2) ∧
    W .txn _ (.linkIncidents o.1 o.2 inc.eventID inc.number) ∧
    ∀ je, W .txn _ (.attachJournalEntryToIncident o.1 o.2 je)
  unlink : ∀ o ∈ linkSubs inc st, W .txn _ (.unlinkIncidents inc.eventID inc.number o.1 o.2) ∧
    W .txn _ (.unlinkIncidents o.1 o.2 inc.eventID inc.number) ∧
    ∀ je, W .txn _ (.attachJournalEntryToIncident o.1 o.2 je)

theorem permitsUpdate_anyWrite (inc : IncidentJSON) (st : LoadedIncident) :
    PermitsUpdate anyWrite inc st :=
  ⟨permitsEntries_anyWrite .txn, fun _ => trivial, fun _ _ _ => trivial, fun _ => trivial,
    fun _ => trivial, fun _ _ => trivial, fun _ _ => trivial, fun _ _ _ => trivial,
    fun _ _ => ⟨trivial, trivial, fun _ => trivial⟩,
    fun _ _ => ⟨trivial, trivial, fun _ => trivial⟩⟩

section Update

variable {A : ∀ β : Type, Op β → β → Prop} {T : Effect → Prop}
  {W : Conn → ∀ β : Type, Write β → Prop}
  {E : HTTPError → Prop} {inc : IncidentJSON} {st : LoadedIncident}

theorem every_reconcileTypes (hattach : ∀ t, W .txn _ (.attachIncidentTypeToIncident inc.eventID
      inc.number t))
    (hdetach : ∀ t, W .txn _ (.detachIncidentTypeFromIncident inc.eventID inc.number t))
    (hE : ∀ err, E err) :
    (reconcileTypes inc st).Every A (operatesIn T W) E TextOnly := by
  unfold reconcileTypes
  split
  · exact Call.every_pure textOnly_nil
  · refine Call.every_bind (Call.every_forM fun t _ => ?_) fun _ _ => ?_
    · exact every_exec (hattach t) (fun _ => hE _) fun _ _ => trivial
    refine Call.every_bind (Call.every_forM fun t _ => ?_) fun _ _ => ?_
    · exact every_exec (hdetach t) (fun _ => hE _) fun _ _ => trivial
    exact Call.every_pure ((textOnly_logUnless _ _).append (textOnly_logUnless _ _))

theorem every_reconcileVisits
    (hvisit : inc.visits.isSome = true → ∀ v target,
      W .txn _ (.attachVisitToIncident inc.eventID v target))
    (hE : ∀ err, E err) :
    (reconcileVisits inc st).Every A (operatesIn T W) E fun r => TextOnly r.1 := by
  unfold reconcileVisits
  split
  · exact Call.every_pure textOnly_nil
  · next desired hdesired =>
    have hvisit := hvisit (Option.isSome_of_mem hdesired)
    refine Call.every_bind (Call.every_forM fun v _ => ?_) fun _ _ => ?_
    · exact every_exec (hvisit v _) (fun _ => hE _) fun _ _ => trivial
    refine Call.every_bind (Call.every_forM fun v _ => ?_) fun _ _ => ?_
    · exact every_exec (hvisit v _) (fun _ => hE _) fun _ _ => trivial
    exact Call.every_pure ((textOnly_logUnless _ _).append (textOnly_logUnless _ _))

theorem every_reconcileReports (hW : PermitsUpdate W inc st) (hE : ∀ err, E err) (author : Int) :
    (reconcileReports inc st author).Every A (operatesIn T W) E fun _ => True := by
  have hadd := hW.attachReport
  have hsub := hW.detachReport
  have hjournal := hW.reportJournal
  unfold reportAdds at hadd hjournal
  unfold reportSubs at hsub hjournal
  unfold reconcileReports
  split
  · exact Call.every_pure trivial
  · next desired hdesired =>
      rw [hdesired] at hadd hsub hjournal
      refine Call.every_bind (Call.every_forM fun r hr => ?_) fun _ _ => ?_
      · refine Call.every_bind (Q := fun _ => True)
          (every_exec (hadd r hr) (fun _ => hE _) fun _ _ => trivial) fun _ _ => ?_
        exact Call.every_bind (every_addJournalEntry hW.entries
          (hjournal r (List.mem_append_left _ hr)) hE _ _ _ _) fun _ _ => Call.every_pure trivial
      refine Call.every_bind (Call.every_forM fun r hr => ?_) fun _ _ => Call.every_pure trivial
      refine Call.every_bind (Q := fun _ => True)
        (every_exec (hsub r hr) (fun _ => hE _) fun _ _ => trivial) fun _ _ => ?_
      exact Call.every_bind (every_addJournalEntry hW.entries
        (hjournal r (List.mem_append_right _ hr)) hE _ _ _ _) fun _ _ => Call.every_pure trivial

theorem every_reconcileLinkedIncidents (hW : PermitsUpdate W inc st) (hE : ∀ err, E err)
    (author : Int) :
    (reconcileLinkedIncidents inc st author).Every A (operatesIn T W) E fun r => TextOnly r.1 := by
  have hadd := hW.link
  have hsub := hW.unlink
  unfold linkAdds LoadedIncident.links at hadd
  unfold linkSubs LoadedIncident.links at hsub
  unfold reconcileLinkedIncidents
  split
  · exact Call.every_pure textOnly_nil
  · next desired hdesired =>
      rw [hdesired] at hadd hsub
      refine Call.every_bind (Call.every_forM fun o ho => ?_) fun _ _ => ?_
      · obtain ⟨hto, hfrom, hjournal⟩ := hadd o ho
        refine Call.every_bind (Q := fun _ => True)
          (every_exec hto (fun _ => hE _) fun _ _ => trivial) fun _ _ => ?_
        refine Call.every_bind (Q := fun _ => True)
          (every_exec hfrom (fun _ => hE _) fun _ _ => trivial) fun _ _ => ?_
        exact Call.every_bind (every_addIncidentJournalEntry hW.entries hjournal (fun _ _ => hE _)
          _ _ _) fun _ _ => Call.every_pure trivial
      refine Call.every_bind (Call.every_forM fun o ho => ?_) fun _ _ => ?_
      · obtain ⟨hto, hfrom, hjournal⟩ := hsub o ho
        refine Call.every_bind (Q := fun _ => True)
          (every_exec hto (fun _ => hE _) fun _ _ => trivial) fun _ _ => ?_
        refine Call.every_bind (Q := fun _ => True)
          (every_exec hfrom (fun _ => hE _) fun _ _ => trivial) fun _ _ => ?_
        exact Call.every_bind (every_addIncidentJournalEntry hW.entries hjournal (fun _ _ => hE _)
          _ _ _) fun _ _ => Call.every_pure trivial
      exact Call.every_pure ((textOnly_logUnless _ _).append (textOnly_logUnless _ _))

theorem every_reconcileAll (hW : PermitsUpdate W inc st) (hE : ∀ err, E err) (s : Service)
    (author : Int) (logs : List JournalLine) :
    (reconcileAll s inc st author logs).Every A (operatesIn T W) E fun _ => True := by
  refine Call.every_bind (every_reconcileTypes hW.attachType hW.detachType hE) fun _ _ => ?_
  refine Call.every_bind (every_reconcileReports hW hE author) fun _ _ => ?_
  refine Call.every_bind (every_reconcileVisits hW.visit hE) fun _ _ => ?_
  refine Call.every_bind (every_reconcileLinkedIncidents hW hE author) fun _ _ => ?_
  refine Call.every_bind (every_addChangeEntry hW.entries hW.journal (fun _ _ => hE _) author _)
    fun _ _ => ?_
  refine Call.every_bind (Call.every_concatMap fun entry _ =>
    every_addTypedEntry hW.entries hW.journal (fun _ _ => hE _) s author entry) fun _ _ => ?_
  exact Call.every_pure trivial

end Update

/-! ## Reports -/

section Reports

variable {A : ∀ β : Type, Op β → β → Prop} {T : Effect → Prop}
  {W : Conn → ∀ β : Type, Write β → Prop} {c : Conn}
  {E : ConnectError → Prop}

theorem every_addGeneratedReportEntry (hW : PermitsEntries W c) {e n : Int}
    (hn : ∀ je, W c _ (.attachJournalEntryToReport e n je)) (hE : ∀ err, E err) (author : Int)
    (line : JournalLine) :
    (addGeneratedReportEntry c e n author line).Every A (operatesIn T W) E fun _ => True :=
  Call.every_bind (Call.every_mapErr (every_addJournalEntry hW hn (fun _ => hE _) author _ _ _))
    fun _ _ => Call.every_pure trivial

theorem every_addGeneratedIncidentEntry (hW : PermitsEntries W c) (hE : ∀ err, E err) {e n : Int}
    (hn : ∀ je, W c _ (.attachJournalEntryToIncident e n je)) (author : Int) (line : JournalLine) :
    (addGeneratedIncidentEntry c e n author line).Every A (operatesIn T W) E fun _ => True :=
  Call.every_bind (Call.every_mapErr (every_addIncidentJournalEntry hW hn (fun _ _ => hE _) author
    _ _)) fun _ _ => Call.every_pure trivial

theorem every_applyReportJournalEntries (hW : PermitsEntries W .txn) {e n : Int}
    (hn : ∀ je, W .txn _ (.attachJournalEntryToReport e n je)) (hE : ∀ err, E err)
    (s : Service) (author : Int) (entries : List JournalEntryJSON) :
    (applyReportJournalEntries s e n author entries).Every A (operatesIn T W) E fun _ => True := by
  refine Call.every_concatMap fun entry _ => ?_
  refine Call.every_ite (fun _ => Call.every_pure trivial) fun _ => ?_
  refine Call.every_bind (Call.every_mapErr
    (every_addJournalEntry hW hn (fun _ => hE _) author _ _ _)) fun id _ => ?_
  refine Call.every_bind (Call.every_mapErr
    (every_addJournalEntryMentions hW.mention (fun _ _ => hE _) s id _ _)) fun _ _ => ?_
  exact Call.every_mapErr
    (every_generateMentionNotificationsFor hW.notification (fun _ _ => hE _) e none (some n) id author)

theorem every_recordSummary (hW : PermitsEntries W .txn) {e n : Int}
    (hn : ∀ je, W .txn _ (.attachJournalEntryToReport e n je)) (hE : ∀ err, E err) (author : Int)
    (summary : Option String) :
    (recordSummary e n author summary).Every A (operatesIn T W) E fun _ => True := by
  cases summary with
  | none => exact Call.every_pure trivial
  | some text => exact every_addGeneratedReportEntry hW hn hE author _

theorem every_recordLink (hW : PermitsEntries W .txn) {e n : Int}
    (hr : ∀ je, W .txn _ (.attachJournalEntryToReport e n je)) (hE : ∀ err, E err) (author : Int)
    {incident : Option Int}
    (hn : ∀ i je, incident = some i → W .txn _ (.attachJournalEntryToIncident e i je)) :
    (recordLink e n author incident).Every A (operatesIn T W) E fun _ => True := by
  cases incident with
  | none => exact Call.every_pure trivial
  | some i =>
      refine Call.every_bind (every_addGeneratedReportEntry hW hr hE author _) fun _ _ => ?_
      exact every_addGeneratedIncidentEntry hW hE (fun je => hn i je rfl) author _

/-- A change of link mirrors its line onto the new incident, or onto the old one where the report is
detached. -/
theorem every_recordLinkChange (hW : PermitsEntries W .pool) {e n : Int}
    (hr : ∀ je, W .pool _ (.attachJournalEntryToReport e n je)) (hE : ∀ err, E err) (author : Int)
    {previous target : Option Int}
    (hn : ∀ i je, target = some i ∨ target = none ∧ previous = some i →
      W .pool _ (.attachJournalEntryToIncident e i je)) :
    (recordLinkChange e n author previous target).Every A (operatesIn T W) E fun _ => True := by
  cases target with
  | some i =>
      refine Call.every_bind (every_addGeneratedReportEntry hW hr hE author _) fun _ _ => ?_
      exact every_addGeneratedIncidentEntry hW hE (fun je => hn i je (Or.inl rfl)) author _
  | none =>
      refine Call.every_bind (every_addGeneratedReportEntry hW hr hE author _) fun _ _ => ?_
      cases previous with
      | none => exact Call.every_pure trivial
      | some i =>
          exact every_addGeneratedIncidentEntry hW hE (fun je => hn i je (Or.inr ⟨rfl, rfl⟩)) author
            _

end Reports

/-! ## Messages to subscribers -/

section Notify

variable {A : ∀ β : Type, Op β → β → Prop} {T : Effect → Prop}
  {W : Conn → ∀ β : Type, Write β → Prop} {ε : Type} {E : ε → Prop}

theorem every_tell {o : Effect} (h : T o) :
    (emit o : Go ε Unit).Every A (operatesIn T W) E fun _ => True :=
  Call.every_perform h fun _ _ => trivial

/-- What `T` allows to be told about an incident and about a report. -/
structure AllowsPokes (T : Effect → Prop) (incident report : Int → Int → Prop) : Prop where
  sse : ∀ data, T (.sse data)
  incident : ∀ e n, n ≠ 0 → incident e n → T (.watch { eventID := e, incidentNumber := n })
  report : ∀ e r, r ≠ 0 → report e r → T (.watch { eventID := e, reportNumber := r })

section Pokes

variable {I R : Int → Int → Prop}

theorem every_tellReportUpdate (hT : AllowsPokes T I R) {e r : Int} (hr : r ≠ 0 → R e r) :
    (notifyReportUpdate e r : Go ε Unit).Every A (operatesIn T W) E fun _ => True := by
  refine Call.every_ite (fun _ => Call.every_pure trivial) fun hne => ?_
  exact Call.every_bind (every_tell (hT.sse _)) fun _ _ =>
    every_tell (hT.report e r hne (hr hne))

theorem every_tellVisitUpdate (hT : AllowsPokes T I R) (e v : Int) :
    (notifyVisitUpdate e v : Go ε Unit).Every A (operatesIn T W) E fun _ => True :=
  Call.every_ite (fun _ => Call.every_pure trivial) fun _ => every_tell (hT.sse _)

theorem every_incidentEventData (e n : Int) :
    (incidentEventData e n : Go ε IMSEventData).Every A (operatesIn T W) E fun _ => True := by
  refine Call.every_bind (Call.every_result (E := fun _ => True) (Q := fun _ => True)
    (every_select trivial (fun _ => trivial) fun _ _ => trivial)) fun row _ => ?_
  cases row with
  | ok r => exact Call.every_ite (fun _ => Call.every_pure trivial) fun _ => Call.every_pure trivial
  | error x => exact Call.every_pure trivial

/-- Telling the subscribers never fails: a lookup that fails only redacts the message. -/
theorem every_tellIncidentUpdate (hT : AllowsPokes T I R) {e n : Int} (hn : n ≠ 0 → I e n) :
    (notifyIncidentUpdate e n : Go ε Unit).Every A (operatesIn T W) E fun _ => True := by
  refine Call.every_ite (fun _ => Call.every_pure trivial) fun hne => ?_
  refine Call.every_bind (every_incidentEventData e n) fun data _ => ?_
  exact Call.every_bind (every_tell (hT.sse _)) fun _ _ =>
    every_tell (hT.incident e n hne (hn hne))

theorem every_tellIncidentUpdates (hT : AllowsPokes T I R) {e n m : Int} (hn : n ≠ 0 → I e n)
    (hm : m ≠ 0 → I e m) :
    (notifyIncidentUpdates e n m : Go ε Unit).Every A (operatesIn T W) E fun _ => True := by
  refine Call.every_bind (every_tellIncidentUpdate hT hn) fun _ _ => ?_
  exact Call.every_ite (fun _ => Call.every_pure trivial) fun _ => every_tellIncidentUpdate hT hm

theorem every_tellUpdate {E : HTTPError → Prop} (hT : AllowsPokes T I R) {inc : IncidentJSON}
    {t : Touched} (hmention : ∀ event n people actor, T (.notifyMentionedInIncident event n people actor))
    (hn : inc.number ≠ 0 → I inc.eventID inc.number)
    (hreports : ∀ r ∈ t.updatedReports, r ≠ 0 → R inc.eventID r)
    (hlinks : ∀ o ∈ t.updatedLinkedIncidents, o.2 ≠ 0 → I o.1 o.2) (st : LoadedIncident)
    (author : Int) :
    (announceUpdate inc st author t).Every A (operatesIn T W) E fun _ => True := by
  refine Call.every_bind (every_tellIncidentUpdate hT hn) fun _ _ => ?_
  refine Call.every_bind (every_tell (hmention _ _ _ _)) fun _ _ => ?_
  refine Call.every_bind (Call.every_forM fun r hr => every_tellReportUpdate hT (hreports r hr))
    fun _ _ => ?_
  refine Call.every_bind (Call.every_forM fun o ho => every_tellIncidentUpdate hT (hlinks o ho))
    fun _ _ => ?_
  exact Call.every_forM fun v _ => every_tellVisitUpdate hT _ v

end Pokes

theorem allowsPokes_all : AllowsPokes (fun _ => True) (fun _ _ => True) fun _ _ => True :=
  ⟨fun _ => trivial, fun _ _ _ _ => trivial, fun _ _ _ _ => trivial⟩

theorem every_emit (o : Effect) : (emit o : Go ε Unit).Every A (writesIn W) E fun _ => True :=
  every_tell trivial

theorem every_notifyReportUpdate (e n : Int) :
    (notifyReportUpdate e n : Go ε Unit).Every A (writesIn W) E fun _ => True :=
  every_tellReportUpdate allowsPokes_all fun _ => trivial

theorem every_notifyIncidentUpdate (e n : Int) :
    (notifyIncidentUpdate e n : Go ε Unit).Every A (writesIn W) E fun _ => True :=
  every_tellIncidentUpdate allowsPokes_all fun _ => trivial

theorem every_notifyIncidentUpdates (e n m : Int) :
    (notifyIncidentUpdates e n m : Go ε Unit).Every A (writesIn W) E fun _ => True :=
  every_tellIncidentUpdates allowsPokes_all (fun _ => trivial) fun _ => trivial

theorem every_announceUpdate {E : HTTPError → Prop} (inc : IncidentJSON) (st : LoadedIncident)
    (author : Int) (t : Touched) :
    (announceUpdate inc st author t).Every A (writesIn W) E fun _ => True :=
  every_tellUpdate allowsPokes_all (fun _ _ _ _ => trivial) (fun _ => trivial)
    (fun _ _ _ => trivial) (fun _ _ _ => trivial) st author

end Notify

/-! ## Gates -/

section Gates

variable {db : DB}

theorem every_authenticated {E : ConnectError → Prop} (hE : ∀ err, E err)
    (caller : Option IMSClaims) :
    (authenticated caller).Every (truthful imsDB db) readsPool E (fun claims => caller = some claims) := by
  cases caller with
  | none => exact Call.every_throw (hE _)
  | some claims => exact Call.every_pure rfl

theorem every_fetchEvent {E : ConnectError → Prop} (hE : ∀ err, E err) (e : Int) :
    (fetchEvent e).Every (truthful imsDB db) readsPool E
      (fun ev => ev.id = e ∧ db.event.find? e = some ev.event) := by
  refine every_read (fun ev hev => ?_) fun _ _ => hE _
  rw [Read.eval] at hev
  cases hfind : db.event.find? e with
  | none =>
      rw [hfind] at hev
      cases hev
  | some event =>
      rw [hfind] at hev
      cases hev
      exact ⟨rfl, rfl⟩

theorem every_participationAt (e : Int) (claims : IMSClaims) :
    (participationAt e claims).Every (truthful imsDB db) readsPool (fun _ => True)
      (· = participationIn db e claims.personID) := by
  have hrow : (select .pool (.personEvent claims.personID e) id).Every (truthful imsDB db) readsPool
      (fun x => x = .noRows → db.personEvent.find? (claims.personID, e) = none)
      (fun pe => db.personEvent.find? (claims.personID, e) = some pe) := by
    refine every_read (fun pe hpe => ?_) fun x hx hnone => ?_
    · rw [Read.eval] at hpe
      cases hfind : db.personEvent.find? (claims.personID, e) with
      | none =>
          rw [hfind] at hpe
          cases hpe
      | some pe' =>
          rw [hfind] at hpe
          cases hpe
          rfl
    · rcases hx with hx | ⟨n, rfl⟩
      · rw [Read.eval] at hx
        cases hfind : db.personEvent.find? (claims.personID, e) with
        | none => rfl
        | some pe' =>
            rw [hfind] at hx
            cases hx
      · cases hnone
  refine Call.every_bind (Call.every_result hrow) fun r hr => ?_
  rw [participationIn]
  rcases r with x | pe
  · have hx : x = .noRows → db.personEvent.find? (claims.personID, e) = none := hr
    cases x with
    | noRows =>
        rw [hx rfl]
        exact Call.every_pure rfl
    | _ => exact Call.every_throw trivial
  · have hpe : db.personEvent.find? (claims.personID, e) = some pe := hr
    rw [hpe]
    exact Call.every_pure rfl

theorem every_eventPermissions (e : Int) (claims : IMSClaims) :
    (eventPermissions (some e) claims).Every (truthful imsDB db) readsPool (fun _ => True)
      fun perms => perms.1.get e = eventMaskIn db e claims ∧
        perms.2 = globalPermissions claims.handle claims.admin := by
  refine Call.every_bind (every_participationAt e claims) fun p hp => ?_
  refine Call.every_bind (Q := fun masks => masks.get e = eventMaskIn db e claims) ?_
    fun masks hmasks => Call.every_pure ⟨hmasks, rfl⟩
  subst hp
  unfold deriveCrewLeader eventMaskIn
  simp only [manyEventPermissions, List.map_cons, List.map_nil, eventMasks_get_singleton]
  cases claims.admin with
  | true => exact Call.every_pure (eventMasks_get_singleton e _)
  | false =>
      simp only [Bool.not_false, Bool.true_and, Bool.false_eq_true, if_false]
      by_cases hr : hasBit (participationToEventPerms (participationIn db e claims.personID))
        eventReadIncidents = true
      · simp only [hr, Bool.not_true, Bool.false_eq_true, if_false, Bool.false_and]
        exact Call.every_pure (eventMasks_get_singleton e _)
      · simp only [hr, Bool.not_false, if_true, Bool.true_and]
        refine Call.every_bind (Q := (· = db.crewsLedBy e claims.personID))
          (every_read (fun crews hcrews => (Except.ok.inj hcrews).symm) fun _ _ => trivial)
          fun crews hcrews => ?_
        subst hcrews
        cases (db.crewsLedBy e claims.personID).isEmpty with
        | true => exact Call.every_pure (eventMasks_get_singleton e _)
        | false => exact Call.every_pure (eventMasks_get_singleton e _)

theorem every_permissionsAt {E : ConnectError → Prop} (hE : ∀ err, E err) (e : Int)
    (claims : IMSClaims) :
    (permissionsAt e claims).Every (truthful imsDB db) readsPool E
      (· = eventMaskIn db e claims) := by
  refine Call.every_bind (Q := fun perms => perms.1.get e = eventMaskIn db e claims) ?_
    fun perms hperms => Call.every_pure hperms
  exact Call.every_mapErr (Call.Every.mono (every_eventPermissions e claims) (fun _ _ _ h => h)
    (fun _ _ h => h) (fun _ _ => hE _) fun _ h => h.1)

theorem every_checkGrant {E : ConnectError → Prop} (hE : ∀ err, E err) (e n person : Int) :
    (checkGrant e n person).Every (truthful imsDB db) readsPool E (· = db.hasGrant e n person) :=
  every_read (fun _ hg => (Except.ok.inj hg).symm) fun _ _ => hE _

theorem every_requireIncidentVisible {E : ConnectError → Prop} (hE : ∀ err, E err) (e n : Int)
    (claims : IMSClaims) :
    (requireIncidentVisible e n claims).Every (truthful imsDB db) readsPool E fun _ =>
      ∃ i, db.incident.find? (e, n) = some i ∧ incidentVisible db claims e n i = true := by
  refine Call.every_bind (Q := fun row => ∃ i, db.incident.find? (e, n) = some i ∧
      row.incident = i) (every_read (fun row hrow => ?_) fun _ _ => hE _) fun row hrow => ?_
  · rw [Read.eval, DB.one_eq_ok, Option.map_eq_some_iff] at hrow
    obtain ⟨i, hi, rfl⟩ := hrow
    exact ⟨i, hi, rfl⟩
  · obtain ⟨i, hi, rfl⟩ := hrow
    refine Call.every_ite (fun hp => ?_) fun hp => Call.every_pure ⟨_, hi, ?_⟩
    · refine Call.every_bind (every_checkGrant hE e n claims.personID) fun g hg => ?_
      subst hg
      refine Call.every_ensure (fun _ => hE _) fun hview => ⟨_, hi, ?_⟩
      unfold incidentVisible
      rw [hp]
      exact hview
    · unfold incidentVisible
      rw [eq_false_of_ne_true hp]
      rfl

theorem every_incidentWriteContext {E : ConnectError → Prop} (hE : ∀ err, E err) (e n : Int)
    (claims : IMSClaims) :
    (incidentWriteContext e n claims).Every (truthful imsDB db) readsPool E fun ev => ev.id = e ∧
      hasBit (eventMaskIn db e claims) eventWriteIncidents = true ∧
      ∃ i, db.incident.find? (e, n) = some i ∧ incidentVisible db claims e n i = true := by
  refine Call.every_bind (every_fetchEvent hE e) fun ev hev => ?_
  obtain ⟨rfl, _⟩ := hev
  refine Call.every_bind (every_permissionsAt hE ev.id claims) fun perms hperms => ?_
  subst hperms
  refine Call.every_bind (Call.every_ensure_true (hE _)) fun _ hwrite => ?_
  exact Call.every_bind (every_requireIncidentVisible hE ev.id n claims) fun _ hvisible =>
    Call.every_pure ⟨rfl, hwrite, hvisible⟩

theorem every_requireWriteOrGrant {E : ConnectError → Prop} (hE : ∀ err, E err) {e n : Int}
    (claims : IMSClaims) {inc : IncidentJSON} (he : inc.eventID = e) (hn : inc.number = n) :
    (requireWriteOrGrant (eventMaskIn db e claims) inc claims.personID).Every (truthful imsDB db)
      readsPool E fun _ => mayWriteIncident db claims e n inc = true := by
  subst he hn
  unfold requireWriteOrGrant mayWriteIncident
  cases hasBit (eventMaskIn db inc.eventID claims) eventWriteIncidents with
  | true => exact Call.every_pure rfl
  | false =>
      refine Call.every_bind (every_checkGrant hE inc.eventID inc.number claims.personID)
        fun g hg => ?_
      subst hg
      refine Call.every_bind (Call.every_ensure_true (hE _)) fun _ hgrant => ?_
      refine Call.every_ensure (fun _ => hE _) fun hjournal => ?_
      rw [hgrant, hjournal]
      rfl

theorem every_reportWriteContext {E : ConnectError → Prop} (hE : ∀ err, E err) (e : Int)
    (claims : IMSClaims) :
    (reportWriteContext e claims).Every (truthful imsDB db) readsPool E fun r => r.1.id = e ∧
      db.event.find? e = some r.1.event ∧ r.2 = eventMaskIn db e claims ∧
      hasBit (eventMaskIn db e claims) (eventWriteAllReports ||| eventWriteOwnReports) = true := by
  refine Call.every_bind (every_fetchEvent hE e) fun ev hev => ?_
  obtain ⟨rfl, hfind⟩ := hev
  refine Call.every_bind (every_permissionsAt hE ev.id claims) fun perms hperms => ?_
  subst hperms
  exact Call.every_bind (Call.every_ensure_true (hE _)) fun _ hwrite =>
    Call.every_pure ⟨rfl, hfind, rfl, hwrite⟩

theorem every_fetchStoredReport {E : ConnectError → Prop} (hE : ∀ err, E err) (e n : Int) :
    (fetchStoredReport e n).Every (truthful imsDB db) readsPool E fun row =>
      db.report.find? (e, n) = some row.report := by
  refine every_read (fun row hrow => ?_) fun _ _ => hE _
  rw [Read.eval, DB.one_eq_ok, Option.map_eq_some_iff] at hrow
  obtain ⟨r, hr, rfl⟩ := hrow
  exact hr

/-- The ownership floor of a report's edit: write-all, its creator, or the author of an entry. -/
def ownsForEdit (db : DB) (claims : IMSClaims) (e n : Int) (r : Report) : Bool :=
  hasBit (eventMaskIn db e claims) eventWriteAllReports || r.createdBy == some claims.personID ||
    ((db.reportEntriesOf e n).filterMap (db.journalEntryRow n)).any
      fun row => row.author.getD "" = claims.handle

theorem every_requireReportOwner {E : ConnectError → Prop} (hE : ∀ err, E err) (e n : Int)
    (r : Report) (claims : IMSClaims) :
    (requireReportOwner e n r (eventMaskIn db e claims) claims).Every (truthful imsDB db) readsPool
      E fun _ => ownsForEdit db claims e n r = true := by
  unfold requireReportOwner ownsForEdit
  refine Call.every_ite (fun h => Call.every_pure ?_) fun h => ?_
  · rw [h]
    rfl
  · rw [eq_false_of_ne_true h, Bool.false_or]
    refine Call.every_bind (Q := (· = ((db.reportEntriesOf e n).filterMap
      (db.journalEntryRow n)).any fun row => row.author.getD "" = claims.handle)) ?_ fun b hb => ?_
    · refine Call.every_bind (Q := (· = (db.reportEntriesOf e n).filterMap (db.journalEntryRow n)))
        (every_read (fun _ hrows => (Except.ok.inj hrows).symm) fun _ _ => hE _) fun rows hrows => ?_
      subst hrows
      exact Call.every_pure rfl
    · subst hb
      exact Call.every_ensure (fun _ => hE _) fun h => h

theorem every_requireEditRights {E : ConnectError → Prop} (hE : ∀ err, E err) (r : Report)
    (report : ReportJSON) (perms : EventPermissionMask) (claims : IMSClaims) :
    (requireEditRights r report perms claims).Every (truthful imsDB db) readsPool E
      fun _ => True := by
  refine Call.every_bind (Q := fun _ => True) (Call.every_ensure (fun _ => hE _) fun _ => trivial)
    fun _ _ => ?_
  exact Call.every_ensure (fun _ => hE _) fun _ => trivial

/-- The entry is on the report, and its author has the caller's handle now. -/
def authorsEntry (db : DB) (claims : IMSClaims) (e n id : Int) : Bool :=
  db.reportJournalEntry.contains (e, n, id) &&
    (db.journalEntryRow n id).any fun row => row.author.getD "" = claims.handle

theorem every_requireEntryAuthor {E : ConnectError → Prop} (hE : ∀ err, E err) (e n id : Int)
    (perms : EventPermissionMask) (claims : IMSClaims) :
    (requireEntryAuthor e n id perms claims).Every (truthful imsDB db) readsPool E fun _ =>
      hasBit perms eventWriteAllReports = false → authorsEntry db claims e n id = true := by
  refine Call.every_ite (fun hall => Call.every_pure fun hlimited => ?_) fun _ => ?_
  · rw [hlimited] at hall
    cases hall
  refine Call.every_bind (Q := fun author => db.reportJournalEntry.contains (e, n, id) = true ∧
    ∃ row, db.journalEntryRow n id = some row ∧ row.author = author)
    (every_read (fun author hauthor => ?_) fun _ _ => hE _) fun author hauthor => ?_
  · rw [Read.eval, DB.one_eq_ok] at hauthor
    split at hauthor
    · exact ⟨‹_›, Option.map_eq_some_iff.mp hauthor⟩
    · cases hauthor
  · obtain ⟨hin, row, hrow, rfl⟩ := hauthor
    refine Call.every_ensure (fun _ => hE _) fun hhandle _ => ?_
    rw [authorsEntry, hin, hrow]
    exact hhandle

/-- What an update reads before its transaction. -/
theorem every_loadIncident {E : HTTPError → Prop} (hE : ∀ err, E err) (inc : IncidentJSON) :
    (loadIncident inc).Every (truthful imsDB db) readsPool E fun st =>
      ∃ i, db.incident.find? (inc.eventID, inc.number) = some i ∧
        st.row = db.incidentRow inc.eventID inc.number i ∧
        st.linkedIncidents = (db.linksOf inc.eventID inc.number).filterMap fun l =>
          db.linkedIncidentRow l.1 l.2 := by
  refine Call.every_bind (Q := fun row => ∃ i,
      db.incident.find? (inc.eventID, inc.number) = some i ∧
        row = db.incidentRow inc.eventID inc.number i)
    (every_read (fun row hrow => ?_) fun _ _ => hE _) fun row hrow => ?_
  · rw [Read.eval, DB.one_eq_ok, Option.map_eq_some_iff] at hrow
    obtain ⟨i, hi, rfl⟩ := hrow
    exact ⟨i, hi, rfl⟩
  · obtain ⟨i, hi, rfl⟩ := hrow
    refine Call.every_bind (Q := fun _ => True) (every_read (fun _ _ => trivial) fun _ _ => hE _)
      fun events _ => ?_
    refine Call.every_bind (Q := fun _ => True) ?_ fun types _ => ?_
    · exact Call.every_ite (fun _ => every_read (fun _ _ => trivial) fun _ _ => hE _)
        fun _ => Call.every_pure trivial
    refine Call.every_bind (Q := fun _ => True) ?_ fun outcomes _ => ?_
    · exact Call.every_ite (fun _ => every_read (fun _ _ => trivial) fun _ _ => hE _)
        fun _ => Call.every_pure trivial
    refine Call.every_bind (Q := fun linked => linked =
        (db.linksOf inc.eventID inc.number).filterMap fun l => db.linkedIncidentRow l.1 l.2)
      (every_read (fun _ hl => (Except.ok.inj hl).symm) fun _ _ => hE _) fun linked hlinked => ?_
    exact Call.every_pure ⟨i, hi, rfl, hlinked⟩

end Gates

end OcfIms
