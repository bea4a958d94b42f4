import OcfIms.AreaHierarchy
import OcfIms.Event

/-!
# Event groups

An event that has a parent group is an ordinary event, and its parent is a group. An edit checks the
row it leaves and the parent it names. It does not look at the rows that name the edited event as
their parent: a group that becomes an ordinary event leaves its members with a parent that is no
group. Without such an edit every reachable event table is sound.
-/

namespace OcfIms

open TxnLib RunLib

/-- Every event that has a parent group is no group itself, and its parent is one. -/
def GroupsSound (db : DB) : Prop :=
  ∀ id ev parent, db.event.find? id = some ev → ev.parentGroup = some parent →
    ev.isGroup = false ∧ ∃ g, db.event.find? parent = some g ∧ g.isGroup = true

/-- The event has members. -/
def HasMembers (db : DB) (id : Int) : Prop :=
  ∃ member ev, db.event.find? member = some ev ∧ ev.parentGroup = some id

/-- The parent an edit of the event may name. -/
def MayBeGroup (db : DB) (id pg : Int) : Prop :=
  pg ≠ id ∧ (0 < pg → ∃ g, db.event.find? pg = some g ∧ g.isGroup = true)

/-- What is known of the row an edit writes. -/
structure EditedEvent (db : DB) (existing : EventRow) (ev : EventMsg) (p : UpdateEventParams) :
    Prop where
  id : p.id = existing.id
  isGroup : p.isGroup = ev.isGroup.getD existing.event.isGroup
  name : ∀ name, ev.name = some name → allowedEventName name = true
  named : ∀ pg, ev.parentGroup = some pg → MayBeGroup db existing.id pg
  parent : ∀ pg, p.parentGroup = some pg → existing.event.parentGroup = some pg ∨
    pg ≠ existing.id ∧ ∃ g, db.event.find? pg = some g ∧ g.isGroup = true
  apart : p.isGroup = true → p.parentGroup = none

/-! ## What the statements keep -/

section Statements

variable {sortKey : String → String} {id : Int} {db db' : DB}

theorem Write.event_of_apply {β : Type} {q : Write β} {b : β}
    (h : q.apply id db = .ok (b, db')) : db'.event = db.event := by
  cases Write.effect_of_apply h <;> rfl

theorem AreaWrite.event_of_apply {β : Type} {q : AreaWrite β} {b : β}
    (h : q.apply id db = .ok (b, db')) : db'.event = db.event := by
  cases q with
  | createArea p =>
      rw [AreaWrite.createArea_eq_ok] at h
      simp only [DB.insertArea, DB.column_eq_ok, DB.unique_eq_ok, DB.references_eq_ok] at h
      obtain ⟨_, _, _, _, _, _, ⟨⟩⟩ := h
      rfl
  | approveArea e slug =>
      cases h
      rfl
  | deleteArea e slug =>
      simp only [AreaWrite.apply] at h
      split at h
      · cases h
        rfl
      · simp only [DB.unreferenced_eq_ok] at h
        obtain ⟨_, _, ⟨⟩⟩ := h
        rfl
  | repointIncidentsArea toSlug e fromSlug =>
      simp only [AreaWrite.apply, DB.references_eq_ok] at h
      obtain ⟨_, ⟨⟩⟩ := h
      rfl
  | updateArea p =>
      simp only [AreaWrite.apply] at h
      split at h
      · cases h
        rfl
      · simp only [DB.column_eq_ok, DB.references_eq_ok] at h
        obtain ⟨_, _, ⟨⟩⟩ := h
        rfl

theorem GroupsSound.of_eq (h : GroupsSound db) (hevent : db'.event = db.event) :
    GroupsSound db' := by
  intro id ev parent
  rw [hevent]
  exact h id ev parent

/-- A new event is ordinary, and belongs to no group. -/
theorem GroupsSound.create {name : String} {b : Int} (h : GroupsSound db)
    (happly : (EventWrite.createEvent { name }).apply sortKey id db = .ok (b, db')) :
    GroupsSound db' ∧ ¬ HasMembers db' b := by
  simp only [EventWrite.apply, DB.column_eq_ok, DB.unique_eq_ok, DB.references_eq_ok] at happly
  obtain ⟨_, hnew, _, _, ⟨⟩⟩ := happly
  have hrows : ∀ k ev parent, (db.event.insert id ⟨name, false, none⟩).find? k = some ev →
      ev.parentGroup = some parent → db.event.find? k = some ev ∧ parent ≠ id := by
    intro k ev parent hk hparent
    rw [Table.find?_insert hnew] at hk
    split at hk
    · cases hk
      cases hparent
    · refine ⟨hk, fun hid => ?_⟩
      obtain ⟨_, g, hg, _⟩ := h k ev parent hk hparent
      rw [hid, Table.contains_eq_false_iff.mp hnew] at hg
      cases hg
  constructor
  · intro k ev parent hk hparent
    obtain ⟨hold, hne⟩ := hrows k ev parent hk hparent
    obtain ⟨hplain, g, hg, hgroup⟩ := h k ev parent hold hparent
    refine ⟨hplain, g, ?_, hgroup⟩
    rw [Table.find?_insert hnew, if_neg hne]
    exact hg
  · rintro ⟨member, ev, hmember, hparent⟩
    exact (hrows member ev id hmember hparent).2 rfl

/-- An edit whose checks passed keeps the groups sound, unless it leaves members without one. -/
theorem GroupsSound.update {stored : Event} {ev : EventMsg} {p : UpdateEventParams} {b : Unit}
    (h : GroupsSound db) (hstored : db.event.find? id = some stored)
    (hp : EditedEvent db ⟨id, stored⟩ ev p)
    (hkeep : ev.isGroup = some false → ¬ HasMembers db id) {next : Int}
    (happly : (EventWrite.updateEvent p).apply sortKey next db = .ok (b, db')) :
    GroupsSound db' := by
  obtain rfl : p.id = id := hp.id
  simp only [EventWrite.apply, hstored, DB.column_eq_ok, DB.unique_eq_ok, DB.references_eq_ok]
    at happly
  obtain ⟨_, _, _, ⟨⟩⟩ := happly
  have hmembers : HasMembers db p.id → p.isGroup = true := by
    rintro ⟨member, m, hmember, hparent⟩
    obtain ⟨_, g, hg, hgroup⟩ := h member m p.id hmember hparent
    rw [hstored] at hg
    cases hg
    rw [hp.isGroup]
    cases hmsg : ev.isGroup with
    | none => exact hgroup
    | some flag =>
        cases flag with
        | true => rfl
        | false => exact (hkeep hmsg ⟨member, m, hmember, hparent⟩).elim
  -- A parent that is a group and another event than the edited one stays as it is.
  have hstays : ∀ parent g, parent ≠ p.id → db.event.find? parent = some g → g.isGroup = true →
      ∃ g', (db.event.modify p.id fun _ => ⟨p.name, p.isGroup, p.parentGroup⟩).find? parent =
        some g' ∧ g'.isGroup = true := by
    intro parent g hne hg hgroup
    refine ⟨g, ?_, hgroup⟩
    rw [Table.find?_modify, if_neg hne]
    exact hg
  intro k row parent hk hparent
  rw [Table.find?_modify] at hk
  split at hk
  · rename_i hkey
    rw [hkey, hstored] at hk
    cases hk
    dsimp only at hparent ⊢
    have hplain : p.isGroup = false := by
      refine eq_false_of_ne_true fun hgroup => ?_
      rw [hp.apart hgroup] at hparent
      cases hparent
    refine ⟨hplain, ?_⟩
    rcases hp.parent parent hparent with hold | ⟨hne, g, hg, hgroup⟩
    · obtain ⟨hordinary, g, hg, hgroup⟩ := h p.id stored parent hstored hold
      refine hstays parent g (fun hself => ?_) hg hgroup
      rw [hself, hstored] at hg
      cases hg
      rw [hordinary] at hgroup
      cases hgroup
    · exact hstays parent g hne hg hgroup
  · obtain ⟨hplain, g, hg, hgroup⟩ := h k row parent hk hparent
    refine ⟨hplain, ?_⟩
    by_cases hself : parent = p.id
    · subst hself
      refine ⟨⟨p.name, p.isGroup, p.parentGroup⟩, ?_, hmembers ⟨k, row, hk, hparent⟩⟩
      rw [Table.find?_modify, if_pos rfl, hstored]
      rfl
    · exact hstays parent g hself hg hgroup

end Statements

/-! ## The calls -/

inductive EventCall
  | createEvent (ctx : Option IMSClaims) (req : CreateEventRequest)
  | updateEvent (ctx : Option IMSClaims) (req : UpdateEventRequest)

def EventCall.call : EventCall → EventGo ConnectError Unit
  | .createEvent ctx req => do
    let _ ← OcfIms.createEvent ctx req
    pure ()
  | .updateEvent ctx req => OcfIms.updateEvent ctx req

/-- Run a call to its end. -/
def eventStep (sortKey : String → String) (env : EventEnv) (w : EventWorld) (c : EventCall) :
    Option EventWorld :=
  some { (c.call.run (eventDB sortKey) env w).2 with txn := none }

/-- The caller administers events. -/
def AdministersEvents (ctx : Option IMSClaims) : Prop :=
  ∃ claims, ctx = some claims ∧
    hasBit (globalPermissions claims.handle claims.admin) globalAdministrateEvents = true

/-- The call makes no ordinary event of a group that has members. -/
def KeepsGroups (w : EventWorld) : EventCall → Prop
  | .createEvent _ _ => True
  | .updateEvent ctx req => AdministersEvents ctx →
      (∀ name, req.event.name = some name → allowedEventName name = true) →
      (∀ pg, req.event.parentGroup = some pg → MayBeGroup w.db req.eventID pg) →
        req.event.isGroup = some false → ¬ HasMembers w.db req.eventID

section Calls

variable {sortKey : String → String} {env : EventEnv} {db : DB} {α : Type}

/-- The world while a call reads: the database is as it was found, and no transaction is open. -/
abbrev FoundEvents (db : DB) : EventWorld → Prop := World.Holds (· = db) fun _ => False

theorem triple_foundEvents {ε : Type} {x : EventGo ε α} {Q : α → Prop} (hdb : GroupsSound db)
    (hx : x.Every (truthful (eventDB sortKey) db) readsPool (fun _ => True) Q) :
    Call.Triple (eventDB sortKey) env (FoundEvents db) x (fun a w => FoundEvents db w ∧ Q a)
      fun _ w => GroupsSound w.db :=
  Call.triple_reads hx fun _ w hw _ => by rw [hw.1]; exact hdb

theorem every_requireEventAdmin (ctx : Option IMSClaims) :
    (requireEventAdmin ctx).Every (truthful (eventDB sortKey) db) readsPool (fun _ => True)
      fun _ => AdministersEvents ctx := by
  refine Call.every_bind (Q := fun perms => ∃ claims, ctx = some claims ∧
    perms = globalPermissions claims.handle claims.admin) ?_ fun perms hperms => ?_
  · refine Call.every_widen_reads (Call.every_widen_reads ?_)
    refine Call.every_bind (every_authenticated (fun _ => trivial) ctx) fun claims hclaims => ?_
    refine Call.every_bind (Q := fun perms => perms.2 =
      globalPermissions claims.handle claims.admin) (Call.every_mapErr (Call.every_pure rfl))
        fun perms hperms => ?_
    exact Call.every_pure ⟨claims, hclaims, hperms⟩
  · obtain ⟨claims, hctx, rfl⟩ := hperms
    exact Call.every_ensure (fun _ => trivial) fun hbit => ⟨claims, hctx, hbit⟩

theorem every_eventSelect {ε : Type} {E : ε → Prop} {err : SqlErr → ε} (hE : ∀ e, E (err e))
    (id : Int) : (eventSelect (.event id) err).Every (truthful (eventDB sortKey) db) readsPool E
      fun row => row.id = id ∧ db.event.find? id = some row.event := by
  refine Call.every_widen_reads (Call.every_widen_reads ?_)
  refine every_read (fun row hrow => ?_) fun _ _ => hE _
  rw [Read.eval, DB.one_eq_ok, Option.map_eq_some_iff] at hrow
  obtain ⟨ev, hev, rfl⟩ := hrow
  exact ⟨rfl, hev⟩

theorem every_editedName (stored : String) (name : Option String) :
    (editedName stored name).Every (truthful (eventDB sortKey) db) readsPool (fun _ => True)
      fun _ => ∀ n, name = some n → allowedEventName n = true := by
  cases name with
  | none => exact Call.every_pure fun n h => nomatch h
  | some name =>
      refine Call.every_bind (Call.every_ensure_true trivial) fun _ hname => Call.every_pure ?_
      rintro n ⟨⟩
      exact hname

theorem every_editedParent (id : Int) (stored msg : Option Int) :
    (editedParent id stored msg).Every (truthful (eventDB sortKey) db) readsPool (fun _ => True)
      fun r => (∀ pg, msg = some pg → MayBeGroup db id pg) ∧ ∀ pg, r = some pg →
        stored = some pg ∨ pg ≠ id ∧ ∃ g, db.event.find? pg = some g ∧ g.isGroup = true := by
  cases msg with
  | none => exact Call.every_pure ⟨fun pg h => (nomatch h), fun pg h => Or.inl h⟩
  | some pg =>
      refine Call.every_bind (Call.every_ensure_true trivial) fun _ hne => ?_
      rw [bne_iff_ne] at hne
      refine Call.every_ite (fun hpos => ?_) fun hneg => ?_
      · refine Call.every_bind (every_eventSelect (fun _ => trivial) pg) fun target htarget => ?_
        refine Call.every_bind (Call.every_ensure_true trivial) fun _ hgroup => ?_
        have hfound : ∃ g, db.event.find? pg = some g ∧ g.isGroup = true :=
          ⟨target.event, htarget.2, hgroup⟩
        refine Call.every_pure ⟨?_, ?_⟩
        · rintro _ ⟨⟩
          exact ⟨hne, fun _ => hfound⟩
        · rintro _ ⟨⟩
          exact Or.inr ⟨hne, hfound⟩
      · refine Call.every_pure ⟨?_, fun _ h => nomatch h⟩
        rintro _ ⟨⟩
        exact ⟨hne, fun hpos => absurd hpos hneg⟩

theorem every_applyEventEdits (existing : EventRow) (ev : EventMsg) :
    (applyEventEdits existing ev).Every (truthful (eventDB sortKey) db) readsPool (fun _ => True)
      (EditedEvent db existing ev) := by
  refine Call.every_bind (every_editedName _ ev.name) fun name hname => ?_
  refine Call.every_bind (every_editedParent existing.id _ ev.parentGroup) fun parent hparent => ?_
  refine Call.every_bind (Call.every_ensure_true trivial) fun _ happart => ?_
  refine Call.every_pure ⟨rfl, rfl, hname, hparent.1, hparent.2, fun hgroup => ?_⟩
  dsimp only at hgroup
  rw [hgroup] at happart
  simpa using happart

/-- What the edit of a row keeps. -/
theorem triple_editEvent {id : Int} {ev : EventMsg} {err : SqlErr → ConnectError}
    (hdb : GroupsSound db)
    (hkeep : (∀ name, ev.name = some name → allowedEventName name = true) →
      (∀ pg, ev.parentGroup = some pg → MayBeGroup db id pg) →
        ev.isGroup = some false → ¬ HasMembers db id) :
    Call.Triple (eventDB sortKey) env (FoundEvents db) (editEvent id ev err)
      (fun _ w => w.Holds GroupsSound GroupsSound) fun _ w => GroupsSound w.db := by
  refine Call.Triple.bind_fact (triple_foundEvents hdb (every_eventSelect (fun _ => trivial) id))
    fun row hrow => ?_
  obtain ⟨rfl, hstored⟩ := hrow
  refine Call.Triple.bind_fact (triple_foundEvents hdb (every_applyEventEdits row ev))
    fun p hp => ?_
  have hwrite : Call.Triple (eventDB sortKey) env (FoundEvents db)
      (eventExec (.updateEvent p) (internalError "failed to update event"))
      (fun _ w => w.Holds GroupsSound fun _ => False) fun _ w => GroupsSound w.db := by
    refine Call.Triple.mapErr (Call.triple_write_pool (fun next s b s' hs happly => ?_)
      fun _ w hw => ?_)
    · subst hs
      have hrow : (EventWrite.updateEvent p).apply sortKey next s = .ok (b, s') := happly
      exact hdb.update hstored hp (hkeep hp.name hp.named) hrow
    · rw [hw.1]
      exact hdb
  refine hwrite.bind fun _ => Call.triple_pure fun w hw => ?_
  exact ⟨hw.1, fun s hs => (hw.2 s hs).elim⟩

/-- Programs of the other services keep the events as they are. -/
theorem triple_fromArea {ε : Type} (x : AreaGo ε α) :
    Call.Triple (eventDB sortKey) env (World.Holds GroupsSound GroupsSound) (fromArea x)
      (fun _ w => GroupsSound w.db) fun _ w => GroupsSound w.db := by
  have hany : x.Every anyAnswer anyOp (fun _ => True) fun _ => True := Call.every_any x
  have hx : (fromArea x).Every anyAnswer (onlyWrites fun _ _ q => q.isLeft = true)
      (fun _ => True) fun _ => True := by
    refine Call.every_widen (fun β o _ => ?_) (fun _ _ _ _ => trivial) hany
    cases o <;> trivial
  have hkept : ∀ (_c : Conn) (β : Type) (q : (Write β ⊕ AreaWrite β) ⊕ EventWrite β) id s b s',
      q.isLeft = true → GroupsSound s → (eventDB sortKey).apply q id s = .ok (b, s') →
        GroupsSound s' := by
    intro c β q id s b s' hleft hs happly
    rcases q with (q | q) | q
    · exact hs.of_eq (Write.event_of_apply happly)
    · exact hs.of_eq (AreaWrite.event_of_apply happly)
    · cases hleft
  have hsteps : Call.Triple (eventDB sortKey) env (World.Holds GroupsSound GroupsSound)
      (fromArea x) (fun _ w => w.Holds GroupsSound GroupsSound ∧ True)
      fun _ w => w.Holds GroupsSound GroupsSound ∧ True :=
    Call.triple_every (fun β o w hw ho => ⟨(step_onlyWrites hkept o hw ho).1, trivial⟩) hx
  exact hsteps.conseq (fun _ h => h) (fun _ _ h => h.1.1) fun _ _ h => h.1.1

theorem triple_createEvent (ctx : Option IMSClaims) (req : CreateEventRequest)
    (hdb : GroupsSound db) :
    Call.Triple (eventDB sortKey) env (FoundEvents db) (createEvent ctx req)
      (fun _ w => GroupsSound w.db) fun _ w => GroupsSound w.db := by
  refine Call.Triple.bind_fact (triple_foundEvents hdb (every_requireEventAdmin ctx))
    fun _ _ => ?_
  refine Call.Triple.bind (J := fun _ => FoundEvents db) ?_ fun _ => ?_
  · exact Call.triple_ensure (fun _ h _ => h) fun w h _ => by rw [h.1]; exact hdb
  -- From here on the database is the one with the new row.
  have hinsert : Call.Triple (eventDB sortKey) env (FoundEvents db)
      (eventExec (.createEvent { name := req.event.name.getD "" })
        (internalError "failed to create event"))
      (fun id w => (GroupsSound w.db ∧ ¬ HasMembers w.db id) ∧ w.txn = none)
      fun _ w => GroupsSound w.db := by
    refine Call.Triple.mapErr (Call.triple_write (fun w s b s' hw hs happly => ?_) fun w _ hw => ?_)
    · rw [World.view_pool, Option.some.injEq] at hs
      rw [← hs, hw.1] at happly
      have hrow : (EventWrite.createEvent { name := req.event.name.getD "" }).apply sortKey w.nextId
          db = .ok (b, s') := happly
      refine ⟨hdb.create hrow, ?_⟩
      rw [World.store_pool_txn]
      cases htxn : w.txn with
      | none => rfl
      | some s => exact (hw.2 s htxn).elim
    · rw [World.tock_db, hw.1]
      exact hdb
  refine hinsert.bind fun id => ?_
  intro w hw
  have hfound : FoundEvents w.db w := ⟨rfl, fun s hs => nomatch hw.2.symm.trans hs⟩
  refine Call.Triple.bind (triple_editEvent hw.1.1 fun _ _ _ => hw.1.2) (fun p => ?_) w hfound
  refine Call.Triple.bind (J := fun _ w => GroupsSound w.db) ?_ fun _ => Call.triple_pure fun _ h => h
  exact Call.triple_ite (fun _ => Call.triple_pure fun _ h => h.1) fun _ =>
    Call.Triple.mapErr (triple_fromArea _)

theorem triple_updateEvent (ctx : Option IMSClaims) (req : UpdateEventRequest)
    (hdb : GroupsSound db)
    (hkeep : AdministersEvents ctx →
      (∀ name, req.event.name = some name → allowedEventName name = true) →
      (∀ pg, req.event.parentGroup = some pg → MayBeGroup db req.eventID pg) →
        req.event.isGroup = some false → ¬ HasMembers db req.eventID) :
    Call.Triple (eventDB sortKey) env (FoundEvents db) (updateEvent ctx req)
      (fun _ w => GroupsSound w.db) fun _ w => GroupsSound w.db := by
  refine Call.Triple.bind_fact (triple_foundEvents hdb (every_requireEventAdmin ctx))
    fun _ hctx => ?_
  refine (triple_editEvent hdb (hkeep hctx)).bind fun _ => ?_
  exact Call.triple_pure fun _ h => h.1

end Calls

/-! ## Runs -/

section Runs

variable {sortKey : String → String} {env : EventEnv} {w w' : EventWorld}

theorem groupsSound_of_step {c : EventCall} (htxn : w.txn = none) (h : GroupsSound w.db)
    (hc : KeepsGroups w c) : GroupsSound (c.call.run (eventDB sortKey) env w).2.db := by
  have hfound : FoundEvents w.db w := ⟨rfl, fun db hdb => nomatch htxn.symm.trans hdb⟩
  have hend : ∀ {x : EventGo ConnectError Unit}, Call.Triple (eventDB sortKey) env
      (FoundEvents w.db) x (fun _ w => GroupsSound w.db) (fun _ w => GroupsSound w.db) →
        GroupsSound (x.run (eventDB sortKey) env w).2.db := by
    intro x hx
    have hpost := hx w hfound
    rcases hrun : x.run (eventDB sortKey) env w with ⟨_ | _, w₁⟩ <;>
      rw [hrun] at hpost <;> exact hpost
  cases c with
  | createEvent ctx req =>
      exact hend ((triple_createEvent ctx req h).bind fun _ => Call.triple_pure fun _ h => h)
  | updateEvent ctx req => exact hend (triple_updateEvent ctx req h hc)

/-- In every run from an empty event table in which no group with members is made an ordinary event,
every parent is a group and no group has a parent. -/
theorem groupsSound_of_run (sortKey : String → String) (env : EventEnv) (w w' : EventWorld)
    (cs : List EventCall) (htxn : w.txn = none) (hempty : w.db.event = .empty)
    (hr : RunMeeting (eventStep sortKey env) KeepsGroups w cs w') : GroupsSound w'.db := by
  have hstart : GroupsSound w.db := by
    intro id ev parent hid
    rw [hempty] at hid
    cases hid
  refine (hr.invariant (I := fun _ w => w.txn = none ∧ GroupsSound w.db) ⟨htxn, hstart⟩ ?_).2
  rintro _ w c w' ⟨htxn, h⟩ hc hs
  cases hs
  exact ⟨rfl, groupsSound_of_step htxn h hc⟩

end Runs

/-! ## A group that becomes an ordinary event -/

def eventAdmin : Option IMSClaims := some { personID := 1, handle := "Hawk", admin := true }

def noEvents : EventWorld where
  db := {}
  nextId := 1

/-- Two groups, the second of which is made an ordinary event in the first; then the first is made
an ordinary event. -/
def ungroup : List EventCall :=
  [.createEvent eventAdmin ⟨{ name := some "fairs", isGroup := some true }⟩,
   .createEvent eventAdmin ⟨{ name := some "fair-2026", isGroup := some true }⟩,
   .updateEvent eventAdmin ⟨3, { isGroup := some false, parentGroup := some 1 }⟩,
   .updateEvent eventAdmin ⟨1, { isGroup := some false }⟩]

theorem not_groupsSound_ungroup :
    ∃ w, Run (eventStep id stillEventEnv) noEvents ungroup w ∧ noEvents.db.event = .empty ∧
      ¬ GroupsSound w.db := by
  have hrun : (RunLib.exec (eventStep id stillEventEnv) noEvents ungroup).map
      (fun w => ((w.db.event.find? 1).map (·.isGroup), (w.db.event.find? 3).map (·.parentGroup))) =
        some (some false, some (some 1)) := by
    decide
  obtain ⟨w, hw, hstate⟩ := Option.map_eq_some_iff.mp hrun
  rw [Prod.mk.injEq] at hstate
  obtain ⟨hgroup, hmember⟩ := hstate
  refine ⟨w, run_of_exec hw, rfl, fun hsound => ?_⟩
  obtain ⟨ev, hev, hparent⟩ := Option.map_eq_some_iff.mp hmember
  obtain ⟨_, g, hg, hisGroup⟩ := hsound 3 ev 1 hev hparent
  rw [hg, Option.map_some, hisGroup] at hgroup
  cases hgroup

/-- The same, up to the member. -/
def joinGroup : List EventCall :=
  [.createEvent eventAdmin ⟨{ name := some "fairs", isGroup := some true }⟩,
   .createEvent eventAdmin ⟨{ name := some "fair-2026", isGroup := some true }⟩,
   .updateEvent eventAdmin ⟨3, { isGroup := some false, parentGroup := some 1 }⟩]

instance (db : DB) (id : Int) : Decidable (HasMembers db id) :=
  decidable_of_iff (db.event.rows.any (·.2.parentGroup == some id) = true) <| by
    rw [List.any_eq_true]
    constructor
    · rintro ⟨r, hr, hparent⟩
      exact ⟨r.1, r.2, Table.find?_eq_some_iff.mpr hr, eq_of_beq hparent⟩
    · rintro ⟨member, ev, hmember, hparent⟩
      exact ⟨(member, ev), Table.find?_eq_some_iff.mp hmember, beq_iff_eq.mpr hparent⟩

instance (db : DB) (id pg : Int) : Decidable (MayBeGroup db id pg) :=
  decidable_of_iff (pg ≠ id ∧ (0 < pg → (db.event.find? pg).any (·.isGroup) = true)) <|
    and_congr_right' (forall_congr' fun _ => by simp [Option.any_eq_true])

instance (ctx : Option IMSClaims) : Decidable (AdministersEvents ctx) :=
  match ctx with
  | none => isFalse (by rintro ⟨_, h, _⟩; cases h)
  | some claims => decidable_of_iff
      (hasBit (globalPermissions claims.handle claims.admin) globalAdministrateEvents = true)
      ⟨fun h => ⟨claims, rfl, h⟩, by rintro ⟨_, ⟨⟩, h⟩; exact h⟩

instance (w : EventWorld) (c : EventCall) : Decidable (KeepsGroups w c) :=
  match c with
  | .createEvent _ _ => isTrue trivial
  | .updateEvent ctx req => decidable_of_iff (AdministersEvents ctx →
      (∀ name ∈ req.event.name, allowedEventName name = true) →
      (∀ pg ∈ req.event.parentGroup, MayBeGroup w.db req.eventID pg) →
        req.event.isGroup = some false → ¬ HasMembers w.db req.eventID) Iff.rfl

/-- The second group has no members when it is made an ordinary event. -/
theorem groupsSound_of_run_joinGroup :
    ∃ w, RunMeeting (eventStep id stillEventEnv) KeepsGroups noEvents joinGroup w ∧
      GroupsSound w.db ∧ HasMembers w.db 1 := by
  have hrun : (RunLib.exec (fun w c => if KeepsGroups w c then eventStep id stillEventEnv w c
      else none) noEvents joinGroup).map (fun w => decide (HasMembers w.db 1)) = some true := by
    decide
  obtain ⟨w, hw, hstate⟩ := Option.map_eq_some_iff.mp hrun
  have hmeet := runMeeting_of_exec hw
  exact ⟨w, hmeet, groupsSound_of_run id stillEventEnv noEvents w joinGroup rfl rfl hmeet,
    of_decide_eq_true hstate⟩

end OcfIms
