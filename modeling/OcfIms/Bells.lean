import OcfIms.Fanout
import OcfIms.Pokes

/-!
# The bell and the push

The same triggers ring the bell and push: a row of `NOTIFICATION` is written inside the transaction,
and once it has committed the pusher is told. The two are kept apart by hand in each method, so that
they can come to name different people, or different records. `BellsMatch` says that they do not: it
compares the rows that a call added with the pushes it told.
-/

namespace OcfIms

open TxnLib Call

/-! ## Matching -/

/-- The people an effect is pushed to. -/
def pushed (o : Effect) : List Int := dedupeRecipients (pushAudience o).1 (pushAudience o).2

/-- The push and the entry of the bell come from the same trigger and are about the same record. -/
def SameNews (name : String) (e : Int) (o : Effect) (x : Notification) : Prop :=
  ∃ (t : Trigger) (n : Int), t.IsPush name n o ∧ t.IsBell e n x

/-- The rows that were added belong to the pushes that were told: to each row a push to its recipient,
and to each recipient of a push a row. The pushes come when the rows are there. -/
def BellsMatch (name : String) (e : Int) (before after : DB) (told : Told) : Prop :=
  ∃ new, after.notification.rows = before.notification.rows ++ new ∧
    (∀ r ∈ new, ∃ o, (o, after) ∈ told ∧ r.2.recipientPersonID ∈ pushed o ∧ SameNews name e o r.2) ∧
    ∀ o db, (o, db) ∈ told → ∀ p ∈ pushed o,
      db = after ∧ ∃ r ∈ new, r.2.recipientPersonID = p ∧ SameNews name e o r.2

/-- Nobody is pushed to. -/
def unheard (o : Effect) : Prop := pushed o = []

variable {name : String} {e n : Int} {before mid after : DB} {told more : Told}

theorem BellsMatch.of_unheard (h : after.notification.rows = before.notification.rows)
    (hsilent : ∀ m ∈ told, unheard m.1) : BellsMatch name e before after told := by
  refine ⟨[], by rw [h, List.append_nil], fun r hr => (nomatch hr), fun o db hmem p hp => ?_⟩
  rw [hsilent (o, db) hmem] at hp
  cases hp

/-- What comes before and tells nobody. -/
theorem BellsMatch.prepend (h : BellsMatch name e mid after told)
    (hrows : mid.notification.rows = before.notification.rows)
    (hsilent : ∀ m ∈ more, unheard m.1) : BellsMatch name e before after (more ++ told) := by
  obtain ⟨new, hnew, hpushed, hrung⟩ := h
  refine ⟨new, hnew.trans (by rw [hrows]), fun r hr => ?_, fun o db hmem p hp => ?_⟩
  · obtain ⟨o, hmem, ho⟩ := hpushed r hr
    exact ⟨o, List.mem_append_right _ hmem, ho⟩
  · rcases List.mem_append.mp hmem with hmem | hmem
    · rw [hsilent (o, db) hmem] at hp
      cases hp
    · exact hrung o db hmem p hp

theorem BellsMatch.append (h : BellsMatch name e before after told)
    (hsilent : ∀ m ∈ more, unheard m.1) : BellsMatch name e before after (told ++ more) := by
  obtain ⟨new, hnew, hpushed, hrung⟩ := h
  refine ⟨new, hnew, fun r hr => ?_, fun o db hmem p hp => ?_⟩
  · obtain ⟨o, hmem, ho⟩ := hpushed r hr
    exact ⟨o, List.mem_append_left _ hmem, ho⟩
  · rcases List.mem_append.mp hmem with hmem | hmem
    · exact hrung o db hmem p hp
    · rw [hsilent (o, db) hmem] at hp
      cases hp

/-! ## Ringing the bell -/

/-- These people's bells have rung since `db₀`, and nobody else's: the rows added satisfy `P`. -/
def Rung (db₀ : DB) (P : Notification → Prop) (actor : Int) (people : List Int) (db : DB) : Prop :=
  ∃ new, db.notification.rows = db₀.notification.rows ++ new ∧ (∀ r ∈ new, P r.2) ∧
    ∀ p, (∃ r ∈ new, r.2.recipientPersonID = p) ↔ p ∈ people ∧ 0 < p ∧ p ≠ actor

/-- Every write but the one that rings a bell. -/
def unrung : Conn → ∀ β : Type, Write β → Prop
  | _, _, .createNotification _ => False
  | _, _, _ => True

section Rung

variable {db₀ db db' : DB} {P : Notification → Prop} {actor : Int} {people : List Int}

theorem rung_nil (h : db.notification.rows = db₀.notification.rows) : Rung db₀ P actor [] db := by
  refine ⟨[], by rw [h, List.append_nil], fun r hr => (nomatch hr), fun p => ?_⟩
  simp

theorem Rung.of_rows (h : Rung db₀ P actor people db)
    (hrows : db'.notification.rows = db.notification.rows) : Rung db₀ P actor people db' := by
  obtain ⟨new, hnew, hP, hpeople⟩ := h
  exact ⟨new, hrows.trans hnew, hP, hpeople⟩

theorem rows_of_unrung {c : Conn} {β : Type} {q : Write β} {id : Int} {b : β}
    (hq : unrung c β q) (h : q.apply id db = .ok (b, db')) :
    db'.notification.rows = db.notification.rows := by
  cases Write.effect_of_apply h with
  | createNotification => exact hq.elim
  | _ => rfl

/-- Nobody's bell rings for themselves, or for nobody. -/
theorem Rung.skip (h : Rung db₀ P actor people db) {p : Int} (hp : p ≤ 0 ∨ p = actor) :
    Rung db₀ P actor (people ++ [p]) db := by
  obtain ⟨new, hnew, hP, hpeople⟩ := h
  refine ⟨new, hnew, hP, fun q => (hpeople q).trans ?_⟩
  rw [List.mem_append, List.mem_singleton]
  constructor
  · exact fun hq => ⟨Or.inl hq.1, hq.2⟩
  · rintro ⟨hq | rfl, hpos, hne⟩
    · exact ⟨hq, hpos, hne⟩
    · rcases hp with hp | hp
      · omega
      · exact absurd hp hne

theorem Rung.ring (h : Rung db₀ P actor people db) {x : Notification} {id : Int}
    (hrows : db'.notification.rows = db.notification.rows ++ [(id, x)]) (hx : P x)
    (hpos : 0 < x.recipientPersonID) (hne : x.recipientPersonID ≠ actor) :
    Rung db₀ P actor (people ++ [x.recipientPersonID]) db' := by
  obtain ⟨new, hnew, hP, hpeople⟩ := h
  refine ⟨new ++ [(id, x)], ?_, fun r hr => ?_, fun q => ?_⟩
  · rw [hrows, hnew, List.append_assoc]
  · rcases List.mem_append.mp hr with hr | hr
    · exact hP r hr
    · obtain rfl := List.mem_singleton.mp hr
      exact hx
  · rw [List.mem_append, List.mem_singleton]
    constructor
    · rintro ⟨r, hr, rfl⟩
      rcases List.mem_append.mp hr with hr | hr
      · obtain ⟨hq, hq'⟩ := (hpeople _).mp ⟨r, hr, rfl⟩
        exact ⟨Or.inl hq, hq'⟩
      · obtain rfl := List.mem_singleton.mp hr
        exact ⟨Or.inr rfl, hpos, hne⟩
    · rintro ⟨hq | rfl, hq'⟩
      · obtain ⟨r, hr, heq⟩ := (hpeople q).mpr ⟨hq, hq'⟩
        exact ⟨r, List.mem_append_left _ hr, heq⟩
      · exact ⟨(id, x), List.mem_append_right _ (List.mem_singleton_self _), rfl⟩

/-- A row is added under a key that no row has. -/
theorem rows_of_createNotification {x : Notification} {id : Int}
    (h : (Write.createNotification x).apply id db = .ok ((), db')) :
    db'.notification.rows = db.notification.rows ++ [(id, x)] := by
  simp only [Write.apply, DB.unique_eq_ok, DB.references_eq_ok, Except.ok.injEq, Prod.mk.injEq,
    true_and] at h
  obtain ⟨hnew, -, -, -, -, -, -, rfl⟩ := h
  exact Table.rows_insert hnew x

end Rung

/-! ## The parts that ring no bell -/

section Unrung

variable {A : ∀ β : Type, Op β → β → Prop} {T : Effect → Prop} {c : Conn} {author r : Int}
  {text : List JournalLine} {generated : Bool} {line : JournalLine}

theorem unrung_addIncidentJournalEntry :
    (addIncidentJournalEntry c e n author text generated).Every A (operatesIn T unrung)
      (fun _ => True) fun _ => True := by
  refine every_bind (Q := fun _ => True) (every_now trivial fun _ => trivial) fun t _ => ?_
  refine every_bind (Q := fun _ => True) (every_exec trivial (fun _ => trivial) fun _ _ => trivial)
    fun id _ => ?_
  exact every_bind (Q := fun _ => True) (every_exec trivial (fun _ => trivial) fun _ _ => trivial)
    fun _ _ => every_pure trivial

theorem unrung_addJournalEntry {onBehalfOf : Option Int} :
    (addJournalEntry c e r author text generated onBehalfOf).Every A (operatesIn T unrung)
      (fun _ => True) fun _ => True := by
  refine every_bind (Q := fun _ => True) (every_now trivial fun _ => trivial) fun t _ => ?_
  refine every_bind (Q := fun _ => True) (every_exec trivial (fun _ => trivial) fun _ _ => trivial)
    fun id _ => ?_
  exact every_bind (Q := fun _ => True) (every_exec trivial (fun _ => trivial) fun _ _ => trivial)
    fun _ _ => every_pure trivial

theorem unrung_addGeneratedReportEntry :
    (addGeneratedReportEntry c e r author line).Every A (operatesIn T unrung) (fun _ => True)
      fun _ => True :=
  every_bind (every_mapErr unrung_addJournalEntry) fun _ _ => every_pure trivial

theorem unrung_addGeneratedIncidentEntry :
    (addGeneratedIncidentEntry c e n author line).Every A (operatesIn T unrung) (fun _ => True)
      fun _ => True :=
  every_bind (every_mapErr unrung_addIncidentJournalEntry) fun _ _ => every_pure trivial

theorem unrung_recordSummary {summary : Option String} :
    (recordSummary e r author summary).Every A (operatesIn T unrung) (fun _ => True)
      fun _ => True := by
  cases summary with
  | none => exact every_pure trivial
  | some text => exact unrung_addGeneratedReportEntry

theorem unrung_recordLink {incident : Option Int} :
    (recordLink e r author incident).Every A (operatesIn T unrung) (fun _ => True)
      fun _ => True := by
  cases incident with
  | none => exact every_pure trivial
  | some i =>
      exact every_bind unrung_addGeneratedReportEntry fun _ _ => unrung_addGeneratedIncidentEntry

theorem unrung_recordLinkChange {previous target : Option Int} :
    (recordLinkChange e r author previous target).Every A (operatesIn T unrung) (fun _ => True)
      fun _ => True := by
  cases target with
  | some i =>
      exact every_bind unrung_addGeneratedReportEntry fun _ _ => unrung_addGeneratedIncidentEntry
  | none =>
      refine every_bind unrung_addGeneratedReportEntry fun _ _ => ?_
      cases previous with
      | none => exact every_pure trivial
      | some i => exact unrung_addGeneratedIncidentEntry

theorem unrung_addChangeEntry {logs : List JournalLine} :
    (addChangeEntry e n author logs).Every A (operatesIn T unrung) (fun _ => True) fun _ => True :=
  every_ite (fun _ => every_pure trivial) fun _ =>
    every_bind unrung_addIncidentJournalEntry fun _ _ => every_pure trivial

variable {inc : IncidentJSON} {st : LoadedIncident}

theorem unrung_reconcileReports :
    (reconcileReports inc st author).Every A (operatesIn T unrung) (fun _ => True)
      fun _ => True := by
  unfold reconcileReports
  split
  · exact every_pure trivial
  · refine every_bind (every_forM fun r _ => ?_) fun _ _ => every_bind (every_forM fun r _ => ?_)
      fun _ _ => every_pure trivial
    all_goals
      refine every_bind (Q := fun _ => True)
        (every_exec trivial (fun _ => trivial) fun _ _ => trivial) fun _ _ => ?_
      exact every_bind unrung_addJournalEntry fun _ _ => every_pure trivial

theorem unrung_reconcileLinkedIncidents :
    (reconcileLinkedIncidents inc st author).Every A (operatesIn T unrung) (fun _ => True)
      fun _ => True := by
  unfold reconcileLinkedIncidents
  split
  · exact every_pure trivial
  · refine every_bind (every_forM fun o _ => ?_) fun _ _ => every_bind (every_forM fun o _ => ?_)
      fun _ _ => every_pure trivial
    all_goals
      refine every_bind (Q := fun _ => True)
        (every_exec trivial (fun _ => trivial) fun _ _ => trivial) fun _ _ => ?_
      refine every_bind (Q := fun _ => True)
        (every_exec trivial (fun _ => trivial) fun _ _ => trivial) fun _ _ => ?_
      exact every_bind unrung_addIncidentJournalEntry fun _ _ => every_pure trivial

end Unrung

/-! ## The parts that do -/

section Ringing

variable {env : ImsEnv} {db₀ : DB} {P : Notification → Prop} {actor : Int} {people : List Int}
  {c : Conn} {s : Service}

/-- A part that rings no bell. -/
theorem triple_unrung {ε α : Type} {x : Go ε α} {Q : α → Prop}
    (hx : x.Every anyAnswer (operatesIn (fun _ => True) unrung) (fun _ => True) Q) :
    Triple imsDB env (World.At c (Rung db₀ P actor people)) x
      (fun _ => World.At c (Rung db₀ P actor people)) fun _ _ => True :=
  (triple_at_writesIn (fun _ _ _ _ _ _ hq hr h => hr.of_rows (rows_of_unrung hq h)) hx
    fun _ _ => trivial).conseq (fun _ h => h) (fun _ _ h => h.1) fun _ _ h => h

theorem rung_createNotification {p : Int} {type : NotificationType}
    {incidentNumber reportNumber journalEntry : Option Int}
    (hP : ∀ x : Notification, x.type = type → x.event = e → x.incidentNumber = incidentNumber →
      x.reportNumber = reportNumber → P x) :
    Triple imsDB env (World.At c (Rung db₀ P actor people))
      (createNotification c p type e incidentNumber reportNumber journalEntry actor)
      (fun _ => World.At c (Rung db₀ P actor (people ++ [p]))) fun _ _ => True := by
  refine triple_ite (fun hp => triple_pure fun w hw db hdb => (hw db hdb).skip hp) fun hp => ?_
  rw [not_or, not_le] at hp
  refine (triple_ask (J := fun _ => World.At c (Rung db₀ P actor people)) fun w b hw => ?_).bind
    fun created => ?_
  · rwa [World.At, World.tock_view]
  · refine triple_exec_at (L := fun _ => Rung db₀ P actor (people ++ [p])) (fun id db b db' hr h => ?_)
      fun _ _ => trivial
    exact hr.ring (rows_of_createNotification h) (hP _ rfl rfl rfl rfl) hp.1 hp.2

/-- The people mentioned are returned, and their bells have rung. -/
theorem rung_generateMentionNotificationsFor {incidentNumber reportNumber : Option Int}
    {entryID : Int} (hP : ∀ x : Notification, x.type = .mentioned → x.event = e →
      x.incidentNumber = incidentNumber → x.reportNumber = reportNumber → P x) :
    Triple imsDB env (World.At c (Rung db₀ P actor people))
      (generateMentionNotificationsFor c e incidentNumber reportNumber entryID actor)
      (fun ids => World.At c (Rung db₀ P actor (people ++ ids))) fun _ _ => True := by
  refine Triple.bind (triple_unrung (Q := fun _ => True) ?_) fun ids => ?_
  · exact every_select trivial (fun _ => trivial) fun _ _ => trivial
  refine (triple_forM_fold (g := fun v p => v ++ [p])
    (L := fun v => World.At c (Rung db₀ P actor v)) (fun v p => rung_createNotification hP) ids
    people).bind fun _ => triple_pure fun w hw => ?_
  have hfold : ∀ (l : List Int) (v : List Int), l.foldl (fun v p => v ++ [p]) v = v ++ l := by
    intro l
    induction l with
    | nil => intro v; rw [List.append_nil]; rfl
    | cons p l ih => intro v; rw [List.foldl_cons, ih, List.append_assoc]; rfl
  rwa [hfold] at hw

theorem rung_addTypedEntry {entry : JournalEntryJSON} :
    Triple imsDB env (World.At .txn (Rung db₀ (Trigger.mentionedInIncident.IsBell e n) actor people))
      (addTypedEntry s e n actor entry)
      (fun ids => World.At .txn (Rung db₀ (Trigger.mentionedInIncident.IsBell e n) actor
        (people ++ ids))) fun _ _ => True := by
  refine triple_ite (fun _ => triple_pure fun w hw => by rwa [List.append_nil]) fun _ => ?_
  refine (triple_unrung unrung_addIncidentJournalEntry).bind fun id => ?_
  refine (triple_unrung (every_addJournalEntryMentions (fun _ _ => trivial) (fun _ _ => trivial) s id
    _ _)).bind fun _ => ?_
  exact rung_generateMentionNotificationsFor fun x ht he hi hr => ⟨he, ht, hi, hr⟩

theorem rung_applyReportJournalEntry {entry : JournalEntryJSON} :
    Triple imsDB env (World.At .txn (Rung db₀ (Trigger.mentionedInReport.IsBell e n) actor people))
      (applyReportJournalEntry s e n actor entry)
      (fun ids => World.At .txn (Rung db₀ (Trigger.mentionedInReport.IsBell e n) actor
        (people ++ ids))) fun _ _ => True := by
  refine triple_ite (fun _ => triple_pure fun w hw => by rwa [List.append_nil]) fun _ => ?_
  refine (triple_unrung (every_mapErr unrung_addJournalEntry)).bind fun id => ?_
  refine (triple_unrung (every_mapErr (every_addJournalEntryMentions (fun _ _ => trivial)
    (fun _ _ => trivial) s id _ _))).bind fun _ => ?_
  exact Triple.mapErr
    (rung_generateMentionNotificationsFor fun x ht he hi hr => ⟨he, ht, hi, hr⟩)

end Ringing

/-! ## The end of a call -/

section Tell

variable {env : ImsEnv} {ε α : Type} {x : Go ε α} {w w' : ImsWorld} {a : α} {t : Told}
  {P : Notification → Prop} {actor : Int} {people : List Int}

/-- One push, and pokes. -/
def pushesOnly (push o : Effect) : Prop := o = push ∨ unheard o

theorem allowsPokes_unheard {T : Effect → Prop} (h : ∀ o, unheard o → T o) :
    AllowsPokes T (fun _ _ => True) fun _ _ => True :=
  ⟨fun _ => h _ rfl, fun _ _ _ _ => h _ rfl, fun _ _ _ _ => h _ rfl⟩

/-- After the transaction the push goes to the people whose bells have rung. -/
theorem bellsMatch_of_tell (push : Effect) (h : Runs imsDB env x w a w' t)
    (hrung : Rung before P actor people w.db) (hP : ∀ r, P r → SameNews name e push r)
    (haudience : pushAudience push = (people, actor))
    (hx : x.Every anyAnswer (operatesIn (pushesOnly push) txnWrites) (fun _ => True) fun _ => True)
    (hpublishes : Publishes imsDB env x push) : BellsMatch name e before w'.db t := by
  obtain ⟨hafter, htold⟩ := h.told_one hx
  obtain ⟨new, hnew, hrows, hpeople⟩ := hrung
  have hmem : ∀ p, p ∈ pushed push ↔ ∃ r ∈ new, r.2.recipientPersonID = p := by
    intro p
    rw [pushed, haudience, mem_dedupeRecipients_iff, hpeople]
  refine ⟨new, by rw [hafter, hnew], fun r hr => ?_, fun o db ho p hp => ?_⟩
  · obtain ⟨db, hdb⟩ := hpublishes w a w' t h
    refine ⟨push, ?_, (hmem _).mpr ⟨r, hr, rfl⟩, hP r.2 (hrows r hr)⟩
    rwa [hafter, ← (htold push db hdb).2]
  · obtain ⟨rfl | hsilent, rfl⟩ := htold o db ho
    · obtain ⟨r, hr, heq⟩ := (hmem p).mp hp
      exact ⟨hafter.symm, r, hr, heq, hP r.2 (hrows r hr)⟩
    · rw [hsilent] at hp
      cases hp

/-- No bell has rung, and nobody is pushed to. -/
theorem bellsMatch_of_hush (h : Runs imsDB env x w a w' t) (hrung : Rung before P actor [] w.db)
    (hx : x.Every anyAnswer (operatesIn unheard txnWrites) (fun _ => True) fun _ => True) :
    BellsMatch name e before w'.db t := by
  obtain ⟨hafter, htold⟩ := h.told_one hx
  obtain ⟨new, hnew, -, hpeople⟩ := hrung
  have hnone : new = [] := by
    refine List.eq_nil_iff_forall_not_mem.mpr fun r hr => ?_
    exact (nomatch ((hpeople _).mp ⟨r, hr, rfl⟩).1)
  refine .of_unheard ?_ fun m hm => (htold m.1 m.2 hm).1
  rw [hafter, hnew, hnone, List.append_nil]

/-- A transaction is begun on the store as it is. -/
theorem rung_begin {err : SqlErr → ε} {u : Unit} (h : (begin err).run imsDB env w = (.ok u, w'))
    (hrows : w.db.notification.rows = before.notification.rows) :
    w'.At .txn (Rung before P actor []) := by
  refine (triple_begin_at (R := Rung before P actor []) (K := fun _ _ => True)
    fun _ _ => trivial).of_run_ok (fun db hdb => ?_) h
  rw [← Option.some.inj hdb]
  exact rung_nil hrows

end Tell

/-! ## UpdateIncident and CreateIncident -/

section Incidents

variable {env : ImsEnv} {s : Service} {caller : Option IMSClaims} {inc : IncidentJSON}
  {st : LoadedIncident} {author : Int} {admin : Bool} {w w' : ImsWorld} {t : Told} {db₀ : DB}

theorem rung_updateIncidentTxn :
    Triple imsDB env (World.At .txn
        (Rung db₀ (Trigger.mentionedInIncident.IsBell inc.eventID inc.number) author []))
      (updateIncidentTxn s inc st author admin)
      (fun touched => World.At .pool
        (Rung db₀ (Trigger.mentionedInIncident.IsBell inc.eventID inc.number) author
          touched.mentionedPersonIDs)) fun _ _ => True := by
  refine (triple_unrung (every_scalarEdits (fun _ => trivial) s inc st author admin)).bind
    fun ed => ?_
  refine Triple.bind (triple_unrung (Q := fun _ => True) ?_) fun _ => ?_
  · exact every_exec trivial (fun _ => trivial) fun _ _ => trivial
  refine Triple.bind (J := fun touched => World.At .txn
    (Rung db₀ (Trigger.mentionedInIncident.IsBell inc.eventID inc.number) author
      touched.mentionedPersonIDs)) ?_ fun touched =>
    (triple_commit_at fun _ _ => trivial).bind fun _ => triple_pure fun _ h => h
  refine Triple.bind (triple_unrung (Q := TextOnly) ?_) fun _ => ?_
  · exact every_reconcileTypes (fun _ => trivial) (fun _ => trivial) fun _ => trivial
  refine (triple_unrung unrung_reconcileReports).bind fun _ => ?_
  refine Triple.bind (triple_unrung (Q := fun r => TextOnly r.1) ?_) fun _ => ?_
  · exact every_reconcileVisits (fun _ _ _ => trivial) fun _ => trivial
  refine (triple_unrung unrung_reconcileLinkedIncidents).bind fun _ => ?_
  refine (triple_unrung unrung_addChangeEntry).bind fun _ => ?_
  exact (triple_concatMap_collect (L := fun people => World.At .txn (Rung db₀ _ author people))
    (fun _ _ => rung_addTypedEntry) inc.journalEntries []).bind fun _ => triple_pure fun _ h => h

/-- The name that a push of an update carries is the event's. -/
theorem every_loadIncident_name {db : DB} {ev : Event} (hev : db.event.find? inc.eventID = some ev) :
    (loadIncident inc).Every (truthful imsDB db) readsPool (fun _ => True)
      fun st => st.eventNameById inc.eventID = ev.name := by
  refine every_bind (Q := fun _ => True) (every_read (fun _ _ => trivial) fun _ _ => trivial)
    fun row _ => ?_
  refine every_bind (Q := fun events => events = db.event.rows.map fun r => ⟨r.1, r.2⟩)
    (every_read (fun _ h => (Except.ok.inj h).symm) fun _ _ => trivial) fun events hevents => ?_
  refine every_bind (Q := fun _ => True) ?_ fun types _ => ?_
  · exact every_ite (fun _ => every_read (fun _ _ => trivial) fun _ _ => trivial)
      fun _ => every_pure trivial
  refine every_bind (Q := fun _ => True) ?_ fun outcomes _ => ?_
  · exact every_ite (fun _ => every_read (fun _ _ => trivial) fun _ _ => trivial)
      fun _ => every_pure trivial
  refine every_bind (Q := fun _ => True) (every_read (fun _ _ => trivial) fun _ _ => trivial)
    fun linked _ => every_pure ?_
  rw [LoadedIncident.eventNameById, hevents, List.find?_map]
  rw [Table.find?, Option.map_eq_some_iff] at hev
  obtain ⟨r, hr, rfl⟩ := hev
  rw [Function.comp_def, hr]
  rfl

theorem bellsMatch_updateIncident {ev : Event} (hev : w.db.event.find? inc.eventID = some ev)
    (h : Runs imsDB env (updateIncident s inc author admin) w () w' t) :
    BellsMatch ev.name inc.eventID w.db w'.db t := by
  obtain ⟨st, w₁, hname, hdb, hrest⟩ := h.bind_reads (every_loadIncident_name hev) rfl
  obtain ⟨u, w₂, hbegin, hrest⟩ := hrest.bind_quiet every_begin_quiet
  obtain ⟨w₃, hrest, hw'⟩ := hrest.deferRollback_inv
  obtain ⟨touched, w₄, htxn, htell⟩ := hrest.bind_quiet every_updateIncidentTxn_quiet
  have hrung := rung_updateIncidentTxn.of_run_ok (rung_begin hbegin (congrArg (·.notification.rows) hdb))
    htxn _ rfl
  rw [hw']
  refine bellsMatch_of_tell (.notifyMentionedInIncident (st.eventNameById inc.eventID) inc.number
    touched.mentionedPersonIDs author) htell hrung
    (fun r hr => ⟨.mentionedInIncident, inc.number, ?_, hr⟩) rfl ?_ ?_
  · exact ⟨rfl, hname, rfl⟩
  · have hpokes := allowsPokes_unheard (T := pushesOnly (.notifyMentionedInIncident
      (st.eventNameById inc.eventID) inc.number touched.mentionedPersonIDs author)) fun _ => Or.inr
    refine every_bind (every_tellIncidentUpdate hpokes fun _ => trivial) fun _ _ => ?_
    refine every_bind (every_tell (Or.inl rfl)) fun _ _ => ?_
    refine every_bind (every_forM fun r _ => every_tellReportUpdate hpokes fun _ => trivial)
      fun _ _ => ?_
    refine every_bind (every_forM fun o _ => every_tellIncidentUpdate hpokes fun _ => trivial)
      fun _ _ => ?_
    exact every_forM fun v _ => every_tellVisitUpdate hpokes _ v
  · exact Publishes.bind_right fun _ => publishes_emit.bind_left

/-- **UpdateIncident.** -/
theorem bellsMatch_updateIncidentRPC {req : UpdateIncidentRequest}
    (h : Runs imsDB env (updateIncidentRPC s caller req) w () w' t) :
    ∃ ev, w.db.event.find? req.eventId = some ev ∧
      BellsMatch ev.name req.eventId w.db w'.db t := by
  obtain ⟨e, n, u⟩ := req
  obtain ⟨claims, w₁, -, hdb₁, h⟩ :=
    h.bind_reads (every_authenticated (E := fun _ => True) (fun _ => trivial) caller) rfl
  obtain ⟨ev, w₂, ⟨rfl, hev⟩, hdb₂, h⟩ :=
    h.bind_reads (every_fetchEvent (E := fun _ => True) (fun _ => trivial) e) hdb₁
  obtain ⟨perms, w₃, rfl, hdb₃, h⟩ :=
    h.bind_reads (every_permissionsAt (E := fun _ => True) (fun _ => trivial) ev.id claims) hdb₂
  obtain ⟨u₁, w₄, -, hdb₄, h⟩ := h.bind_reads (every_requireWriteOrGrant (E := fun _ => True)
    (fun _ => trivial) claims rfl rfl) hdb₃
  obtain ⟨u₂, w₅, -, hdb₅, h⟩ := h.bind_reads (every_requireIncidentVisible (E := fun _ => True)
    (fun _ => trivial) ev.id n claims) hdb₄
  obtain ⟨u₃, w₆, t₁, t₂, hupdate, hemit, rfl⟩ := h.bind_inv
  rw [← hdb₅] at hev ⊢
  have hmatch := bellsMatch_updateIncident hev hupdate.mapErr_inv
  obtain ⟨hafter, htold⟩ := hemit.told_one (T := unheard) (every_tell (E := fun _ => True) rfl)
  rw [hafter]
  exact ⟨ev.event, hev, hmatch.append fun m hm => (htold m.1 m.2 hm).1⟩

/-- **CreateIncident.** -/
theorem bellsMatch_createIncident {req : CreateIncidentRequest}
    (h : Runs imsDB env (createIncident s caller req) w n w' t) :
    ∃ ev, w.db.event.find? req.eventId = some ev ∧
      BellsMatch ev.name req.eventId w.db w'.db t := by
  obtain ⟨e, u⟩ := req
  obtain ⟨claims, w₁, -, hdb₁, h⟩ :=
    h.bind_reads (every_authenticated (E := fun _ => True) (fun _ => trivial) caller) rfl
  obtain ⟨ev, w₂, ⟨rfl, hev⟩, hdb₂, h⟩ :=
    h.bind_reads (every_fetchEvent (E := fun _ => True) (fun _ => trivial) e) hdb₁
  obtain ⟨perms, w₃, -, hdb₃, h⟩ :=
    h.bind_reads (every_permissionsAt (E := fun _ => True) (fun _ => trivial) ev.id claims) hdb₂
  obtain ⟨u₁, w₄, -, hdb₄, h⟩ := h.bind_reads (E := fun _ => True) (Q := fun _ => True)
    (every_ensure (fun _ => trivial) fun _ => trivial) hdb₃
  obtain ⟨n', w₅, -, hdb₅, h⟩ := h.bind_reads (E := fun _ => True) (Q := fun _ => True)
    (every_read (fun _ _ => trivial) fun _ _ => trivial) hdb₄
  obtain ⟨created, w₆, -, hdb₆, h⟩ := h.bind_reads (E := fun _ => True) (Q := fun _ => True)
    (every_now trivial fun _ => trivial) hdb₅
  obtain ⟨u₂, w₇, hinsert, h⟩ := h.bind_quiet (E := fun _ => True) (Q := fun _ => True)
    (every_exec trivial (fun _ => trivial) fun _ _ => trivial)
  have happ := apply_of_exec hinsert
  rw [hdb₆] at happ
  have hrows : w₇.db.notification.rows = w.db.notification.rows :=
    rows_of_unrung (c := .pool) (by trivial) happ
  obtain ⟨u₃, w₈, t₁, t₂, hupdate, hrest, rfl⟩ := h.bind_inv
  obtain ⟨u₄, w₉, t₃, t₄, hemit, hpure, rfl⟩ := hrest.bind_inv
  obtain ⟨hret, rfl⟩ := hpure
  cases hret
  have hev₇ : w₇.db.event.find? ev.id = some ev.event := by
    simp only [Write.apply, DB.unique_eq_ok, DB.references_eq_ok, Except.ok.injEq,
      Prod.mk.injEq, true_and] at happ
    obtain ⟨-, -, -, hdb⟩ := happ
    rw [← hdb]
    exact hev
  have hmatch := bellsMatch_updateIncident hev₇ hupdate.mapErr_inv
  obtain ⟨hafter, htold⟩ := hemit.told_one (T := unheard) (every_tell (E := fun _ => True) rfl)
  rw [hafter, ← List.append_assoc]
  refine ⟨ev.event, hev, ?_⟩
  have hall : BellsMatch ev.event.name ev.id w.db w₈.db ([] ++ (t₁ ++ t₃)) :=
    (hmatch.append fun m hm => (htold m.1 m.2 hm).1).prepend hrows fun _ hm => absurd hm List.not_mem_nil
  change BellsMatch ev.event.name ev.id w.db w₈.db (t₁ ++ t₃ ++ [])
  rw [List.append_nil]
  exact hall

end Incidents

/-! ## CreateReport and UpdateReport -/

section Reports

variable {env : ImsEnv} {s : Service} {caller : Option IMSClaims} {report : ReportJSON}
  {author : Int} {incident : Option Int} {stored : Report} {w w' : ImsWorld} {t : Told} {db₀ : DB}

theorem rung_applyReportJournalEntries {entries : List JournalEntryJSON} :
    Triple imsDB env (World.At .txn
        (Rung db₀ (Trigger.mentionedInReport.IsBell e n) author []))
      (applyReportJournalEntries s e n author entries)
      (fun ids => World.At .txn (Rung db₀ (Trigger.mentionedInReport.IsBell e n) author ids))
      fun _ _ => True :=
  triple_concatMap_collect (L := fun people => World.At .txn (Rung db₀ _ author people))
    (fun _ _ => rung_applyReportJournalEntry) entries []

theorem rung_createReportTxn :
    Triple imsDB env (World.At .txn
        (Rung db₀ (Trigger.mentionedInReport.IsBell e n) author []))
      (createReportTxn s e n author report incident)
      (fun ids => World.At .pool (Rung db₀ (Trigger.mentionedInReport.IsBell e n) author ids))
      fun _ _ => True := by
  refine (triple_unrung unrung_recordSummary).bind fun _ => ?_
  refine (triple_unrung unrung_recordLink).bind fun _ => ?_
  refine rung_applyReportJournalEntries.bind fun ids => ?_
  exact (triple_commit_at fun _ _ => trivial).bind fun _ => triple_pure fun _ h => h

theorem rung_updateReportTxn :
    Triple imsDB env (World.At .txn
        (Rung db₀ (Trigger.mentionedInReport.IsBell e n) author []))
      (updateReportTxn s e n author stored report)
      (fun ids => World.At .pool (Rung db₀ (Trigger.mentionedInReport.IsBell e n) author ids))
      fun _ _ => True := by
  refine (triple_unrung unrung_recordSummary).bind fun _ => ?_
  refine Triple.bind (triple_unrung (Q := fun _ => True) ?_) fun _ => ?_
  · exact every_exec trivial (fun _ => trivial) fun _ _ => trivial
  refine rung_applyReportJournalEntries.bind fun ids => ?_
  exact (triple_commit_at fun _ _ => trivial).bind fun _ => triple_pure fun _ h => h

/-- **CreateReport.** -/
theorem bellsMatch_createReport {req : CreateReportRequest}
    (h : Runs imsDB env (createReport s caller req) w n w' t) :
    ∃ ev, w.db.event.find? req.eventId = some ev ∧
      BellsMatch ev.name req.eventId w.db w'.db t := by
  obtain ⟨e, write⟩ := req
  obtain ⟨claims, w₁, -, hdb₁, h⟩ :=
    h.bind_reads (every_authenticated (E := fun _ => True) (fun _ => trivial) caller) rfl
  obtain ⟨⟨ev, perms⟩, w₂, ⟨hid, hev, -⟩, hdb₂, h⟩ :=
    h.bind_reads (every_reportWriteContext (E := fun _ => True) (fun _ => trivial) e claims) hdb₁
  change ev.id = e at hid
  subst hid
  obtain ⟨r, w₃, -, hdb₃, h⟩ := h.bind_reads (E := fun _ => True) (Q := fun _ => True)
    (every_read (fun _ _ => trivial) fun _ _ => trivial) hdb₂
  obtain ⟨created, w₄, -, hdb₄, h⟩ := h.bind_reads (E := fun _ => True) (Q := fun _ => True)
    (every_now trivial fun _ => trivial) hdb₃
  obtain ⟨u₁, w₅, hinsert, h⟩ := h.bind_quiet (E := fun _ => True) (Q := fun _ => True)
    (every_exec trivial (fun _ => trivial) fun _ _ => trivial)
  have happ := apply_of_exec hinsert
  rw [hdb₄] at happ
  have hrows : w₅.db.notification.rows = w.db.notification.rows :=
    rows_of_unrung (c := .pool) (by trivial) happ
  obtain ⟨u₂, w₆, hbegin, h⟩ := h.bind_quiet every_begin_quiet
  obtain ⟨w₇, h, hw'⟩ := h.deferRollback_inv
  obtain ⟨mentioned, w₈, htxn, htell⟩ := h.bind_quiet every_createReportTxn_quiet
  have hrung := rung_createReportTxn.of_run_ok (rung_begin hbegin hrows) htxn _ rfl
  rw [hw']
  refine ⟨ev.event, hev, ?_⟩
  refine bellsMatch_of_tell (.notifyMentionedInReport ev.event.name r mentioned claims.personID) htell
    hrung (fun x hx => ⟨.mentionedInReport, r, ?_, hx⟩) rfl ?_ ?_
  · exact ⟨rfl, rfl, rfl⟩
  · have hpokes := allowsPokes_unheard (T := pushesOnly
      (.notifyMentionedInReport ev.event.name r mentioned claims.personID)) fun _ => Or.inr
    refine every_bind (every_tell (Or.inl rfl)) fun _ _ => ?_
    refine every_bind (Q := fun _ => True) ?_ fun _ _ => every_bind
      (every_tellReportUpdate hpokes fun _ => trivial) fun _ _ => every_pure trivial
    cases (reportWriteToJSON write).incident.bind targetIncident with
    | none => exact every_pure trivial
    | some i => exact every_tellIncidentUpdates hpokes (fun _ => trivial) fun _ => trivial
  · exact publishes_emit.bind_left

/-- A part that rings no bell and pushes to nobody. -/
theorem hushed_of_runs {ε α : Type} {x : Go ε α} {a : α} {Q : α → Prop}
    (h : Runs imsDB env x w a w' t)
    (hx : x.Every anyAnswer (operatesIn unheard unrung) (fun _ => True) Q) :
    w'.db.notification.rows = w.db.notification.rows ∧ ∀ m ∈ t, unheard m.1 := by
  refine ⟨?_, h.told_only hx⟩
  have hx' : x.Every anyAnswer (writesIn unrung) (fun _ => True) Q := by
    refine hx.mono (fun _ _ _ h => h) (fun β o ho => ?_) (fun _ h => h) fun _ h => h
    cases o with
    | emit o => trivial
    | _ => exact ho
  have hkept := (triple_at_writesIn (c := .pool)
    (R := fun db => db.notification.rows = w.db.notification.rows)
    (fun _ _ _ _ _ _ hq hr h => (rows_of_unrung hq h).trans hr) hx' (K := fun _ _ => True)
    fun _ _ => trivial).of_run_ok (fun db hdb => by rw [Option.some.inj hdb]) h.run
  exact hkept.1 _ rfl

theorem hushed_reconcileReportLink {desired : Option Int} :
    (reconcileReportLink e n author stored desired).Every anyAnswer (operatesIn unheard unrung)
      (fun _ => True) fun _ => True := by
  have hpokes := allowsPokes_unheard (T := unheard) fun _ h => h
  cases desired with
  | none => exact every_pure trivial
  | some value =>
      refine every_ite (fun _ => every_pure trivial) fun _ => ?_
      refine every_bind (Q := fun _ => True)
        (every_exec trivial (fun _ => trivial) fun _ _ => trivial) fun _ _ => ?_
      refine every_bind unrung_recordLinkChange fun _ _ => ?_
      refine every_bind (every_tellReportUpdate hpokes fun _ => trivial) fun _ _ => ?_
      exact every_tellIncidentUpdates hpokes (fun _ => trivial) fun _ => trivial

variable {ev : EventRow} {perms : EventPermissionMask} {claims : IMSClaims}

theorem bellsMatch_editReport
    (h : Runs imsDB env (editReport s ev n stored report perms claims) w () w' t) :
    BellsMatch ev.event.name ev.id w.db w'.db t := by
  unfold editReport at h
  split at h
  · obtain ⟨hret, rfl⟩ := h
    cases hret
    exact .of_unheard rfl fun _ hm => (nomatch hm)
  · obtain ⟨u₁, w₁, -, hdb₁, h⟩ := h.bind_reads
      (every_requireEditRights (E := fun _ => True) (fun _ => trivial) stored report perms claims) rfl
    obtain ⟨u₂, w₂, hbegin, h⟩ := h.bind_quiet every_begin_quiet
    obtain ⟨w₃, h, hw'⟩ := h.deferRollback_inv
    obtain ⟨mentioned, w₄, htxn, htell⟩ := h.bind_quiet every_updateReportTxn_quiet
    have hrung := rung_updateReportTxn.of_run_ok
      (rung_begin hbegin (congrArg (·.notification.rows) hdb₁)) htxn _ rfl
    rw [hw']
    refine bellsMatch_of_tell (.notifyMentionedInReport ev.event.name n mentioned claims.personID)
      htell hrung (fun x hx => ⟨.mentionedInReport, n, ?_, hx⟩) rfl ?_ ?_
    · exact ⟨rfl, rfl, rfl⟩
    · exact every_bind (every_tell (Or.inl rfl)) fun _ _ =>
        every_tellReportUpdate (allowsPokes_unheard fun _ => Or.inr) fun _ => trivial
    · exact publishes_emit.bind_left

/-- **UpdateReport.** -/
theorem bellsMatch_updateReport {req : UpdateReportRequest}
    (h : Runs imsDB env (updateReport s caller req) w () w' t) :
    ∃ ev, w.db.event.find? req.eventId = some ev ∧
      BellsMatch ev.name req.eventId w.db w'.db t := by
  obtain ⟨e, r, write⟩ := req
  obtain ⟨claims, w₁, -, hdb₁, h⟩ :=
    h.bind_reads (every_authenticated (E := fun _ => True) (fun _ => trivial) caller) rfl
  obtain ⟨⟨ev, perms⟩, w₂, ⟨hid, hev, hperms, -⟩, hdb₂, h⟩ :=
    h.bind_reads (every_reportWriteContext (E := fun _ => True) (fun _ => trivial) e claims) hdb₁
  change ev.id = e at hid
  change perms = _ at hperms
  subst hid hperms
  obtain ⟨row, w₃, -, hdb₃, h⟩ :=
    h.bind_reads (every_fetchStoredReport (E := fun _ => True) (fun _ => trivial) ev.id r) hdb₂
  obtain ⟨u₁, w₄, -, hdb₄, h⟩ := h.bind_reads (every_requireReportOwner (E := fun _ => True)
    (fun _ => trivial) ev.id r row.report claims) hdb₃
  obtain ⟨u₂, w₅, t₁, t₂, hlink, hedit, rfl⟩ := h.bind_inv
  obtain ⟨hrows, hsilent⟩ := hushed_of_runs hlink hushed_reconcileReportLink
  rw [hdb₄] at hrows
  exact ⟨ev.event, hev, (bellsMatch_editReport hedit).prepend hrows hsilent⟩

end Reports

/-! ## The people of an incident -/

section People

variable {env : ImsEnv} {caller : Option IMSClaims} {person : PersonRow} {actor : Int}
  {w w' : ImsWorld} {t : Told} {db₀ : DB}

theorem every_incidentWriteContext_event {db : DB} (claims : IMSClaims) :
    (incidentWriteContext e n claims).Every (truthful imsDB db) readsPool (fun _ => True)
      fun ev => ev.id = e ∧ db.event.find? e = some ev.event := by
  refine every_bind (every_fetchEvent (fun _ => trivial) e) fun ev hev => ?_
  refine every_bind (every_permissionsAt (fun _ => trivial) ev.id claims) fun perms _ => ?_
  refine every_bind (every_ensure_true trivial) fun _ _ => ?_
  exact every_bind (every_requireIncidentVisible (fun _ => trivial) ev.id n claims) fun _ _ =>
    every_pure hev

/-- A new person is returned as new, and only their bell has rung. -/
theorem rung_attachPersonTxn {involvement : Option SqlText} {granted : Bool} :
    Triple imsDB env (World.At .txn (Rung db₀ (Trigger.addedToIncident.IsBell e n) actor []))
      (attachPersonTxn e n person involvement granted actor)
      (fun isNew => World.At .txn (Rung db₀ (Trigger.addedToIncident.IsBell e n) actor
        (if isNew then [person.id] else []))) fun _ _ => True := by
  refine Triple.bind (triple_unrung (Q := fun _ => True) ?_) fun existing => ?_
  · exact every_select trivial (fun _ => trivial) fun _ _ => trivial
  refine Triple.bind (triple_unrung (Q := fun _ => True) ?_) fun _ => ?_
  · exact every_exec trivial (fun _ => trivial) fun _ _ => trivial
  refine Triple.bind (triple_unrung (Q := fun _ => True) ?_) fun _ => ?_
  · exact every_exec trivial (fun _ => trivial) fun _ _ => trivial
  refine (triple_unrung unrung_addChangeEntry).bind fun _ => ?_
  refine Triple.bind (J := fun _ => World.At .txn (Rung db₀ (Trigger.addedToIncident.IsBell e n) actor
    (if ((existing.find? (·.incidentPerson.personID = person.id)).map (·.incidentPerson)).isNone
      then [person.id] else []))) ?_ fun _ => triple_pure fun _ h => h
  unfold notifyIfNew
  split
  · exact rung_createNotification fun x ht he hi hr => ⟨he, ht, hi, hr⟩
  · exact triple_pure fun _ h => h

theorem rung_requestReportTxn {requestedAt : Int} :
    Triple imsDB env (World.At .txn (Rung db₀ (Trigger.reportRequested.IsBell e n) actor []))
      (requestReportTxn e n person requestedAt actor)
      (fun _ => World.At .txn (Rung db₀ (Trigger.reportRequested.IsBell e n) actor [person.id]))
      fun _ _ => True := by
  refine Triple.bind (triple_unrung (Q := fun _ => True) ?_) fun existing => ?_
  · exact every_select trivial (fun _ => trivial) fun _ _ => trivial
  refine Triple.bind (triple_unrung (Q := fun _ => True) ?_) fun _ => ?_
  · refine every_ite (fun _ => ?_) fun _ => ?_
    · exact every_exec trivial (fun _ => trivial) fun _ _ => trivial
    · exact every_exec trivial (fun _ => trivial) fun _ _ => trivial
  refine (triple_unrung unrung_addIncidentJournalEntry).bind fun _ => ?_
  exact rung_createNotification fun x ht he hi hr => ⟨he, ht, hi, hr⟩

theorem rung_detachPersonTxn :
    Triple imsDB env (World.At .txn (Rung db₀ (fun _ => True) actor []))
      (detachPersonTxn e n person actor)
      (fun _ => World.At .txn (Rung db₀ (fun _ => True) actor [])) fun _ _ => True := by
  refine Triple.bind (triple_unrung (Q := fun _ => True) ?_) fun _ => ?_
  · exact every_exec trivial (fun _ => trivial) fun _ _ => trivial
  exact (triple_unrung unrung_addIncidentJournalEntry).bind fun _ => triple_pure fun _ h => h

theorem permitsPeople_txnWrites : PermitsPeople txnWrites e n :=
  ⟨⟨fun _ => trivial, fun _ _ => trivial, fun _ => trivial⟩, fun _ => trivial,
    fun _ _ _ _ => trivial, fun _ _ => trivial, fun _ => trivial⟩

/-- A transaction on the people of an incident, then its poke, then what its result comes to. -/
theorem bellsMatch_people {α : Type} {x : Go HTTPError α} {f : α → Go ConnectError Unit}
    {P : Notification → Prop} {people : α → List Int} {name : String} (hdb : w.db = db₀)
    (hx : ∀ {T : Effect → Prop} {W : Conn → ∀ β : Type, Write β → Prop}, PermitsPeople W e n →
      x.Every anyAnswer (operatesIn T W) (fun _ => True) fun _ => True)
    (hrung : Triple imsDB env (World.At .txn (Rung db₀ P actor [])) x
      (fun a => World.At .txn (Rung db₀ P actor (people a))) fun _ _ => True)
    (hf : ∀ a w w' t, Rung db₀ P actor (people a) w.db →
      Runs imsDB env (notifyIncidentUpdate e n >>= fun _ => f a) w () w' t →
        BellsMatch name e db₀ w'.db t)
    (h : Runs imsDB env (mapErr herrToConnect (runInTx x) >>= fun a =>
      notifyIncidentUpdate e n >>= fun _ => f a) w () w' t) : BellsMatch name e db₀ w'.db t := by
  obtain ⟨a, w₁, htxn, h⟩ := h.bind_quiet (every_runInTx_quiet (hx permitsPeople_anyWrite))
  refine hf a w₁ w' t ?_ h
  have htriple : Triple imsDB env (fun w => Rung db₀ P actor [] w.db)
      (mapErr herrToConnect (Call.runInTx asHTTPError retryableTxErr x 3))
      (fun a w => Rung db₀ P actor (people a) w.db) fun _ _ => True :=
    Triple.mapErr ((triple_runInTx_from (hx permitsPeople_txnWrites) hrung 3).conseq
      (fun _ h => h) (fun _ _ h => h) fun _ _ _ => trivial)
  rw [← runInTx_eq] at htriple
  exact htriple.of_run_ok (rung_nil (by rw [hdb])) htxn

/-- **AttachPersonToIncident.** -/
theorem bellsMatch_attachPerson {req : AttachPersonRequest}
    (h : Runs imsDB env (attachPersonToIncident caller req) w () w' t) :
    ∃ ev, w.db.event.find? req.eventId = some ev ∧
      BellsMatch ev.name req.eventId w.db w'.db t := by
  obtain ⟨e, n, p, involvement, granted⟩ := req
  obtain ⟨claims, w₁, -, hdb₁, h⟩ :=
    h.bind_reads (every_authenticated (E := fun _ => True) (fun _ => trivial) caller) rfl
  obtain ⟨ev, w₂, ⟨rfl, hev⟩, hdb₂, h⟩ :=
    h.bind_reads (every_incidentWriteContext_event claims) hdb₁
  obtain ⟨person, w₃, -, hdb₃, h⟩ := h.bind_reads (every_personByID_reads _) hdb₂
  refine ⟨ev.event, hev, bellsMatch_people hdb₃ (fun hW => every_attachPersonTxn hW _ _)
    rung_attachPersonTxn (fun isNew w w' t hrung h => ?_) h⟩
  cases isNew with
  | false =>
      refine bellsMatch_of_hush h hrung (every_bind (every_tellIncidentUpdate
        (allowsPokes_unheard fun _ h => h) fun _ => trivial) fun _ _ => every_pure trivial)
  | true =>
      refine bellsMatch_of_tell (.notifyAddedToIncident ev.event.name n person.id claims.personID) h
        hrung (fun x hx => ⟨.addedToIncident, n, ?_, hx⟩) rfl ?_ ?_
      · exact ⟨rfl, rfl, rfl⟩
      · exact every_bind (every_tellIncidentUpdate (allowsPokes_unheard fun _ => Or.inr)
          fun _ => trivial) fun _ _ => every_tell (Or.inl rfl)
      · exact Publishes.bind_right fun _ => publishes_emit

/-- **RequestReport.** -/
theorem bellsMatch_requestReport {req : PersonOnIncidentRequest}
    (h : Runs imsDB env (requestReport caller req) w () w' t) :
    ∃ ev, w.db.event.find? req.eventId = some ev ∧
      BellsMatch ev.name req.eventId w.db w'.db t := by
  obtain ⟨e, n, p⟩ := req
  obtain ⟨claims, w₁, -, hdb₁, h⟩ :=
    h.bind_reads (every_authenticated (E := fun _ => True) (fun _ => trivial) caller) rfl
  obtain ⟨ev, w₂, ⟨rfl, hev⟩, hdb₂, h⟩ :=
    h.bind_reads (every_incidentWriteContext_event claims) hdb₁
  obtain ⟨person, w₃, -, hdb₃, h⟩ := h.bind_reads (every_personByID_reads _) hdb₂
  obtain ⟨requestedAt, w₄, -, hdb₄, h⟩ := h.bind_reads (E := fun _ => True) (Q := fun _ => True)
    (every_now trivial fun _ => trivial) hdb₃
  refine ⟨ev.event, hev, bellsMatch_people hdb₄ (fun hW => every_requestReportTxn hW _)
    rung_requestReportTxn (fun _ w w' t hrung h => ?_) h⟩
  refine bellsMatch_of_tell
    (.notifyReportRequested ev.event.name n person.id claims.personID claims.handle) h hrung
    (fun x hx => ⟨.reportRequested, n, ?_, hx⟩) rfl ?_ ?_
  · exact ⟨rfl, rfl, rfl⟩
  · exact every_bind (every_tellIncidentUpdate (allowsPokes_unheard fun _ => Or.inr)
      fun _ => trivial) fun _ _ => every_tell (Or.inl rfl)
  · exact Publishes.bind_right fun _ => publishes_emit

/-- **DetachPersonFromIncident.** -/
theorem bellsMatch_detachPerson {req : PersonOnIncidentRequest}
    (h : Runs imsDB env (detachPersonFromIncident caller req) w () w' t) :
    ∃ ev, w.db.event.find? req.eventId = some ev ∧
      BellsMatch ev.name req.eventId w.db w'.db t := by
  obtain ⟨e, n, p⟩ := req
  obtain ⟨claims, w₁, -, hdb₁, h⟩ :=
    h.bind_reads (every_authenticated (E := fun _ => True) (fun _ => trivial) caller) rfl
  obtain ⟨ev, w₂, ⟨rfl, hev⟩, hdb₂, h⟩ :=
    h.bind_reads (every_incidentWriteContext_event claims) hdb₁
  obtain ⟨person, w₃, -, hdb₃, h⟩ := h.bind_reads (every_personByID_reads _) hdb₂
  rw [← bind_pure (notifyIncidentUpdate _ _)] at h
  refine ⟨ev.event, hev, bellsMatch_people (f := fun _ => pure ()) hdb₃
    every_detachPersonTxn rung_detachPersonTxn (fun _ w w' t hrung h => ?_) h⟩
  exact bellsMatch_of_hush h hrung (every_bind (every_tellIncidentUpdate
    (allowsPokes_unheard fun _ h => h) fun _ => trivial) fun _ _ => every_pure trivial)

end People

/-! ## Striking an entry -/

section Strikes

variable {env : ImsEnv} {caller : Option IMSClaims} {w w' : ImsWorld} {t : Told} {db₀ : DB}

theorem bellsMatch_strike {q : Write Unit} {entry tell : Go ConnectError Unit}
    {failBegin failStrike failCommit : SqlErr → ConnectError} (hdb : w.db = db₀)
    (hq : unrung .txn _ q)
    (hentry : ∀ {T : Effect → Prop}, entry.Every anyAnswer (operatesIn T unrung) (fun _ => True)
      fun _ => True)
    (htell : tell.Every anyAnswer (operatesIn unheard txnWrites) (fun _ => True) fun _ => True)
    (h : Runs imsDB env (begin failBegin >>= fun _ => Call.deferRollback
      ((exec .txn q failStrike >>= fun _ => entry >>= fun _ => commit failCommit) >>= fun _ => tell))
      w () w' t) : BellsMatch name e db₀ w'.db t := by
  obtain ⟨u₁, w₁, hbegin, h⟩ := h.bind_quiet every_begin_quiet
  obtain ⟨w₂, h, hw'⟩ := h.deferRollback_inv
  obtain ⟨u₂, w₃, htxn, htold⟩ := h.bind_quiet (E := fun _ => True) (Q := fun _ => True)
    (every_bind (every_exec trivial (fun _ => trivial) fun _ _ => trivial) fun _ _ =>
      every_bind (every_tellsNothing hentry) fun _ _ => every_commit_quiet)
  have htriple : Triple imsDB env (World.At .txn (Rung db₀ (fun _ => True) 0 []))
      (exec .txn q failStrike >>= fun _ => entry >>= fun _ => commit failCommit)
      (fun _ => World.At .pool (Rung db₀ (fun _ => True) 0 [])) fun _ _ => True := by
    refine Triple.bind (triple_unrung (Q := fun _ => True) ?_) fun _ => ?_
    · exact every_exec hq (fun _ => trivial) fun _ _ => trivial
    exact (triple_unrung hentry).bind fun _ => triple_commit_at fun _ _ => trivial
  rw [hw']
  exact bellsMatch_of_hush htold
    (htriple.of_run_ok (rung_begin hbegin (by rw [hdb])) htxn _ rfl) htell

/-- **UpdateIncidentJournalEntry.** -/
theorem bellsMatch_strikeIncidentEntry {req : UpdateJournalEntryRequest}
    (h : Runs imsDB env (updateIncidentJournalEntry caller req) w () w' t) :
    ∃ ev, w.db.event.find? req.eventId = some ev ∧
      BellsMatch ev.name req.eventId w.db w'.db t := by
  obtain ⟨e, n, je, stricken⟩ := req
  obtain ⟨claims, w₁, -, hdb₁, h⟩ :=
    h.bind_reads (every_authenticated (E := fun _ => True) (fun _ => trivial) caller) rfl
  obtain ⟨ev, w₂, ⟨rfl, hev⟩, hdb₂, h⟩ :=
    h.bind_reads (every_incidentWriteContext_event claims) hdb₁
  refine ⟨ev.event, hev, ?_⟩
  cases stricken with
  | none =>
      obtain ⟨hret, rfl⟩ := h
      cases hret
      exact .of_unheard (by rw [hdb₂]) fun _ hm => (nomatch hm)
  | some b =>
      exact bellsMatch_strike hdb₂ (by trivial) unrung_addGeneratedIncidentEntry
        (every_tellIncidentUpdate (allowsPokes_unheard fun _ h => h) fun _ => trivial) h

/-- **UpdateReportJournalEntry.** -/
theorem bellsMatch_strikeReportEntry {req : UpdateJournalEntryRequest}
    (h : Runs imsDB env (updateReportJournalEntry caller req) w () w' t) :
    ∃ ev, w.db.event.find? req.eventId = some ev ∧
      BellsMatch ev.name req.eventId w.db w'.db t := by
  obtain ⟨e, r, je, stricken⟩ := req
  obtain ⟨claims, w₁, -, hdb₁, h⟩ :=
    h.bind_reads (every_authenticated (E := fun _ => True) (fun _ => trivial) caller) rfl
  obtain ⟨⟨ev, perms⟩, w₂, ⟨hid, hev, -⟩, hdb₂, h⟩ :=
    h.bind_reads (every_reportWriteContext (E := fun _ => True) (fun _ => trivial) e claims) hdb₁
  change ev.id = e at hid
  subst hid
  obtain ⟨row, w₃, -, hdb₃, h⟩ := h.bind_reads (E := fun _ => True) (Q := fun _ => True)
    (every_read (fun _ _ => trivial) fun _ _ => trivial) hdb₂
  refine ⟨ev.event, hev, ?_⟩
  cases stricken with
  | none =>
      obtain ⟨hret, rfl⟩ := h
      cases hret
      exact .of_unheard (by rw [hdb₃]) fun _ hm => (nomatch hm)
  | some b =>
      obtain ⟨u, w₄, -, hdb₄, h⟩ := h.bind_reads (every_requireEntryAuthor (E := fun _ => True)
        (fun _ => trivial) ev.id r je perms claims) hdb₃
      exact bellsMatch_strike hdb₄ (by trivial) unrung_addGeneratedReportEntry
        (every_tellReportUpdate (allowsPokes_unheard fun _ h => h) fun _ => trivial) h

end Strikes

/-! ## All of them -/

section Requests

variable {env : ImsEnv} {s : Service} {caller : Option IMSClaims} {w w' : ImsWorld}

/-- The event of a request. -/
def PokingRequest.eventId : PokingRequest → Int
  | createIncident req => req.eventId
  | updateIncident req => req.eventId
  | attachPersonToIncident req => req.eventId
  | requestReport req => req.eventId
  | detachPersonFromIncident req => req.eventId
  | updateIncidentJournalEntry req => req.eventId
  | createReport req => req.eventId
  | updateReport req => req.eventId
  | updateReportJournalEntry req => req.eventId

/-- **The bell and the push tell the same people the same.** -/
theorem bells_match (req : PokingRequest)
    (h : (req.call s caller).run imsDB env w = (.ok (), w')) :
    ∃ ev, w.db.event.find? req.eventId = some ev ∧
      BellsMatch ev.name req.eventId w.db w'.db ((req.call s caller).told imsDB env w) := by
  have hrun := runs_of_run h
  cases req with
  | createIncident req =>
      obtain ⟨n, hrun⟩ := runs_of_bind_pure hrun
      exact bellsMatch_createIncident hrun
  | updateIncident req => exact bellsMatch_updateIncidentRPC hrun
  | attachPersonToIncident req => exact bellsMatch_attachPerson hrun
  | requestReport req => exact bellsMatch_requestReport hrun
  | detachPersonFromIncident req => exact bellsMatch_detachPerson hrun
  | updateIncidentJournalEntry req => exact bellsMatch_strikeIncidentEntry hrun
  | createReport req =>
      obtain ⟨n, hrun⟩ := runs_of_bind_pure hrun
      exact bellsMatch_createReport hrun
  | updateReport req => exact bellsMatch_updateReport hrun
  | updateReportJournalEntry req => exact bellsMatch_strikeReportEntry hrun

/-- Two entries that mention person 8, one of them the author too. -/
def mentionTwice : PokingRequest := .updateIncident ⟨1, 1, some
  { journalEntries := [⟨"hello", [8, 7]⟩, ⟨"again", [8]⟩] }⟩

/-- The database of a linked report, with a second person. -/
def pairDB : DB := { linkedReportDB with
  person := linkedReportDB.person.insert 8 { handle := some "rae" } }

theorem bells_match_mentionTwice :
    ∃ ev, pairDB.event.find? 1 = some ev ∧ BellsMatch ev.name 1 pairDB
      ((mentionTwice.call {} (some ⟨7, "hub", false⟩)).run imsDB stillEnv
        { db := pairDB, nextId := 1 }).2.db
      ((mentionTwice.call {} (some ⟨7, "hub", false⟩)).told imsDB stillEnv
        { db := pairDB, nextId := 1 }) :=
  bells_match mentionTwice (w := { db := pairDB, nextId := 1 })
    (Prod.ext (by decide) rfl)

/-- Two rows, and one push. -/
example : (((mentionTwice.call {} (some ⟨7, "hub", false⟩)).run imsDB stillEnv
      { db := pairDB, nextId := 1 }).2.db.notification.rows.map fun r => r.2.recipientPersonID) =
      [8, 8] ∧
    (((mentionTwice.call {} (some ⟨7, "hub", false⟩)).told imsDB stillEnv
      { db := pairDB, nextId := 1 }).flatMap fun m => pushed m.1) = [8] := by
  decide

end Requests

end OcfIms
