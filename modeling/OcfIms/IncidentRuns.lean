import OcfIms.LibSched
import OcfIms.StoreEffects
import OcfIms.Contracts

/-!
# Runs of incident writes

Any number of creations and updates of incidents, in any order and overlapping in any way: between
what one of them reads and the transaction it opens, the others may have changed anything. Two facts
about the tables survive all of it. The links are written in pairs, each pair inside one
transaction, so the link relation stays symmetric, and no incident is ever linked to itself: the
second row of a self-link would be the first one again. And a row is written as a whole, with a state
and a closing time that were decided together.
-/

namespace OcfIms

open TxnLib RunLib

/-- A call that writes incidents. -/
inductive IncidentCall
  | create (caller : Option IMSClaims) (req : CreateIncidentRequest)
  | update (caller : Option IMSClaims) (req : UpdateIncidentRequest)
  deriving DecidableEq, Repr

def IncidentCall.call (s : Service) : IncidentCall → Go ConnectError Unit
  | .create caller req => do
    let _ ← createIncident s caller req
  | .update caller req => updateIncidentRPC s caller req

/-- A system of such calls that have not started yet. -/
def incidentSys {ι : Type} (s : Service) (calls : ι → IncidentCall) (w : ImsWorld) :
    Sys Read Write Ask SqlErr Effect DB (Except ConnectError Unit) ι :=
  ⟨fun i => ((calls i).call s).prog, w⟩

/-! ## The gates, whatever they are answered -/

section Gates

variable {A : ∀ β : Type, Op β → β → Prop} {W : Conn → ∀ β : Type, Write β → Prop}

/-- The writes of a program are permitted by `W`, whatever it returns or fails with. -/
def Within (A : ∀ β : Type, Op β → β → Prop) (W : Conn → ∀ β : Type, Write β → Prop) {ε α : Type}
    (x : Go ε α) : Prop :=
  x.Every A (writesIn W) (fun _ => True) fun _ => True

section Rules

variable {ε ε' α β : Type} {x : Go ε α} {f : α → Go ε β}

theorem Within.bind (hx : Within A W x) (hf : ∀ a, Within A W (f a)) : Within A W (x >>= f) :=
  Call.every_bind hx fun a _ => hf a

theorem Within.mapErr {m : ε → ε'} (hx : Within A W x) : Within A W (Call.mapErr m x) :=
  Call.every_mapErr hx

theorem within_pure (a : α) : Within A W (pure a : Go ε α) := Call.every_pure trivial

theorem within_throw (e : ε) : Within A W (throw e : Go ε α) := Call.every_throw trivial

theorem within_ensure (c : Bool) (e : ε) : Within A W (Call.ensure c e) :=
  Call.every_ensure (fun _ => trivial) fun _ => trivial

theorem within_select (c : Conn) (q : Read α) (err : SqlErr → ε) : Within A W (select c q err) :=
  every_select trivial (fun _ => trivial) fun _ _ => trivial

theorem within_now : Within A W (now : Go ε Int) := every_now trivial fun _ => trivial

theorem within_emit (o : Effect) : Within A W (emit o : Go ε Unit) := every_emit o

end Rules

theorem within_authenticated (caller : Option IMSClaims) : Within A W (authenticated caller) := by
  cases caller with
  | none => exact within_throw _
  | some claims => exact within_pure claims

theorem within_fetchEvent (e : Int) : Within A W (fetchEvent e) := within_select _ _ _

theorem within_checkGrant (e n person : Int) : Within A W (checkGrant e n person) :=
  within_select _ _ _

theorem within_eventPermissions (eventID : Option Int) (claims : IMSClaims) :
    Within A W (eventPermissions eventID claims) := by
  cases eventID with
  | none => exact within_pure _
  | some e =>
      have hrow : Within A W (participationAt e claims) := by
        refine Within.bind (Call.Every.mono (Call.every_result (within_select (A := A) (W := W) _ _ _))
          (fun _ _ _ h => h) (fun _ _ h => h) (fun _ h => h) fun _ _ => trivial) fun r => ?_
        split
        · exact within_pure _
        · exact within_pure _
        · exact within_throw _
      have hcrew : ∀ perms, Within A W (deriveCrewLeader e claims perms) := by
        intro perms
        refine Call.every_ite (fun _ => ?_) fun _ => within_pure perms
        refine Within.bind (within_select _ _ _) fun crews => ?_
        exact Call.every_ite (fun _ => within_pure _) fun _ => within_pure _
      refine Within.bind hrow fun p => ?_
      exact Within.bind (hcrew _) fun masks => within_pure _

theorem within_permissionsAt (e : Int) (claims : IMSClaims) :
    Within A W (permissionsAt e claims) :=
  Within.bind (within_eventPermissions _ _).mapErr fun _ => within_pure _

theorem within_requireWriteOrGrant (perms : EventPermissionMask) (inc : IncidentJSON)
    (person : Int) : Within A W (requireWriteOrGrant perms inc person) := by
  refine Call.every_ite (fun _ => within_pure ()) fun _ => ?_
  refine Within.bind (within_checkGrant _ _ _) fun g => ?_
  exact Within.bind (within_ensure _ _) fun _ => within_ensure _ _

theorem within_requireIncidentVisible (e n : Int) (claims : IMSClaims) :
    Within A W (requireIncidentVisible e n claims) := by
  refine Within.bind (within_select _ _ _) fun row => ?_
  refine Call.every_ite (fun _ => ?_) fun _ => within_pure ()
  exact Within.bind (within_checkGrant _ _ _) fun g => within_ensure _ _

theorem within_loadIncident (inc : IncidentJSON) : Within A W (loadIncident inc) := by
  refine Within.bind (within_select _ _ _) fun row => ?_
  refine Within.bind (within_select _ _ _) fun events => ?_
  refine Within.bind ?_ fun types => ?_
  · exact Call.every_ite (fun _ => within_select _ _ _) fun _ => within_pure _
  refine Within.bind ?_ fun outcomes => ?_
  · exact Call.every_ite (fun _ => within_select _ _ _) fun _ => within_pure _
  exact Within.bind (within_select _ _ _) fun linked => within_pure _

end Gates

/-! ## The shape of an update -/

/-- The transaction of an update, up to its commit. -/
def updateIncidentBody (s : Service) (inc : IncidentJSON) (st : LoadedIncident) (author : Int)
    (admin : Bool) : Go HTTPError Touched := do
  let ed ← scalarEdits s inc st author admin
  exec .txn (.updateIncident st.row.event st.row.number ed.update)
    (.internalServerError "Failed to update incident")
  reconcileAll s inc st author ed.logs

theorem updateIncidentTxn_bind {α : Type} (s : Service) (inc : IncidentJSON) (st : LoadedIncident)
    (author : Int) (admin : Bool) (f : Touched → Go HTTPError α) :
    (updateIncidentTxn s inc st author admin >>= f) =
      updateIncidentBody s inc st author admin >>= fun touched =>
        commit (.internalServerError "Failed to commit transaction") >>= fun _ => f touched := by
  simp only [updateIncidentTxn, updateIncidentBody, bind_assoc, pure_bind]

theorem permitsUpdate_sparesPool (inc : IncidentJSON) (st : LoadedIncident) :
    PermitsUpdate Call.sparesPool inc st :=
  ⟨⟨fun _ => trivial, fun _ _ => trivial, fun _ => trivial⟩, fun _ => trivial, fun _ _ _ => trivial,
    fun _ => trivial, fun _ => trivial, fun _ _ => trivial, fun _ _ => trivial,
    fun _ _ _ => trivial, fun _ _ => ⟨trivial, trivial, fun _ => trivial⟩,
    fun _ _ => ⟨trivial, trivial, fun _ => trivial⟩⟩

section Safe

variable {env : ImsEnv} {D : DB → Prop}

theorem Within.safe {ε α : Type} {x : Go ε α} (hx : Within anyAnswer Call.noWrite x) :
    x.Safe imsDB env D :=
  Call.safe_writesIn (fun _ _ _ _ _ _ hq _ _ => hq.elim) hx

/-- An update keeps `D` under interference if its transaction, alone, does. -/
theorem safe_updateIncident {s : Service} {inc : IncidentJSON} {author : Int} {admin : Bool}
    (hbody : ∀ st, Call.Triple imsDB env (World.Holds D D)
      (updateIncidentBody s inc st author admin) (fun _ w => w.Holds D D) fun _ _ => True) :
    (updateIncident s inc author admin).Safe imsDB env D := by
  refine (Within.safe (within_loadIncident inc)).bind fun st => ?_
  have hwrites : (updateIncidentBody s inc st author admin).Every anyAnswer
      (writesIn Call.sparesPool) (fun _ => True) fun _ => True := by
    have hpermits := permitsUpdate_sparesPool inc st
    refine Call.every_bind (every_scalarEdits (fun _ => trivial) s inc st author admin)
      fun ed _ => ?_
    refine Call.every_bind (Q := fun _ => True)
      (every_exec trivial (fun _ => trivial) fun _ _ => trivial) fun _ _ => ?_
    exact every_reconcileAll hpermits (fun _ => trivial) s author _
  have htxn := Call.safe_transaction (S := imsDB) (D := D) (g := fun touched =>
      announceUpdate inc st author touched) (fun _ _ => id) hwrites (hbody st)
    (fun touched => Within.safe (every_announceUpdate inc st author touched))
    (.internalServerError "Failed to start transaction")
    (.internalServerError "Failed to commit transaction")
  simp only [updateIncidentTxn_bind]
  exact htxn

/-- The insert of an open incident. -/
def opensIncident : Conn → ∀ β : Type, Write β → Prop
  | .pool, _, .createIncident _ _ _ _ _ state _ => state = .stateOpen
  | _, _, _ => False

/-- A creation or an update keeps what the insert of an open incident and every update's transaction
keep. -/
theorem IncidentCall.safe (s : Service)
    (hcreate : ∀ (β : Type) (q : Write β) id db b db', opensIncident .pool β q → D db →
      q.apply id db = .ok (b, db') → D db')
    (hbody : ∀ inc st author admin, Call.Triple imsDB env (World.Holds D D)
      (updateIncidentBody s inc st author admin) (fun _ w => w.Holds D D) fun _ _ => True) :
    ∀ c : IncidentCall, (c.call s).Safe imsDB env D
  | .create caller req => by
      refine Call.Safe.bind (y := createIncident s caller req) ?_ fun _ =>
        Within.safe (within_pure ())
      refine (Within.safe (within_authenticated caller)).bind fun claims => ?_
      refine (Within.safe (within_fetchEvent _)).bind fun ev => ?_
      refine (Within.safe (within_permissionsAt _ _)).bind fun perms => ?_
      refine (Within.safe (within_ensure _ _)).bind fun _ => ?_
      refine (Within.safe (within_select _ _ _)).bind fun n => ?_
      refine (Within.safe within_now).bind fun created => ?_
      have hinsert : (exec .pool (.createIncident ev.id n (timeToFloat created)
          (timeToFloat created) incidentPriorityNormal .stateOpen (some claims.personID))
          (internalError "failed to create incident")).Every
          anyAnswer (writesIn opensIncident) (fun _ => True) fun _ => True :=
        every_exec rfl (fun _ => trivial) fun _ _ => trivial
      refine (Call.safe_writesIn hcreate hinsert).bind fun _ => ?_
      refine (Call.Safe.mapErr (safe_updateIncident fun st => hbody _ st _ _)).bind fun _ => ?_
      refine (Within.safe (within_emit _)).bind fun _ => Within.safe (within_pure _)
  | .update caller req => by
      refine (Within.safe (within_authenticated caller)).bind fun claims => ?_
      refine (Within.safe (within_fetchEvent _)).bind fun ev => ?_
      refine (Within.safe (within_permissionsAt _ _)).bind fun perms => ?_
      refine (Within.safe (within_requireWriteOrGrant _ _ _)).bind fun _ => ?_
      refine (Within.safe (within_requireIncidentVisible _ _ _)).bind fun _ => ?_
      refine (Call.Safe.mapErr (safe_updateIncident fun st => hbody _ st _ _)).bind fun _ => ?_
      exact Within.safe (within_emit _)

end Safe

/-! ## Links -/

/-- A row links the first incident to the second. -/
def DB.IsLinked (db : DB) (a b : Int × Int) : Prop :=
  db.incidentLinkedIncident.contains (a, b) = true

structure LinksSound (db : DB) : Prop where
  symm : ∀ a b, db.IsLinked a b → db.IsLinked b a
  irrefl : ∀ a, ¬ db.IsLinked a a

/-- One row of the pair is there, over links that are sound. -/
def HalfLinked (a b : Int × Int) (db : DB) : Prop :=
  ∃ db₀, LinksSound db₀ ∧ ¬ db₀.IsLinked a b ∧
    ∀ x y, db.IsLinked x y ↔ (x = a ∧ y = b) ∨ db₀.IsLinked x y

/-- One row of the pair is gone, over links that are sound. -/
def HalfUnlinked (a b : Int × Int) (db : DB) : Prop :=
  ∃ db₀, LinksSound db₀ ∧ ∀ x y, db.IsLinked x y ↔ ¬ (x = a ∧ y = b) ∧ db₀.IsLinked x y

/-- No write of a link. -/
def sparesLinks : Conn → ∀ β : Type, Write β → Prop
  | _, _, .linkIncidents _ _ _ _ => False
  | _, _, .unlinkIncidents _ _ _ _ => False
  | _, _, _ => True

section Links

variable {env : ImsEnv} {db db' : DB} {id : Int}

theorem isLinked_linkIncidents {a b : Int × Int} {r : Unit}
    (h : (Write.linkIncidents a.1 a.2 b.1 b.2).apply id db = .ok (r, db')) :
    ¬ db.IsLinked a b ∧ ∀ x y, db'.IsLinked x y ↔ (x = a ∧ y = b) ∨ db.IsLinked x y := by
  simp only [Write.apply, DB.unique_eq_ok, DB.references_eq_ok] at h
  obtain ⟨hnew, _, _, ⟨⟩⟩ := h
  refine ⟨fun hl => ?_, fun x y => ?_⟩
  · rw [DB.IsLinked, hnew] at hl
    cases hl
  · unfold DB.IsLinked
    rw [Table.contains_insert hnew, Bool.or_eq_true, decide_eq_true_iff, Prod.mk.injEq]

theorem isLinked_unlinkIncidents {a b : Int × Int} {r : Unit}
    (h : (Write.unlinkIncidents a.1 a.2 b.1 b.2).apply id db = .ok (r, db')) (x y : Int × Int) :
    db'.IsLinked x y ↔ ¬ (x = a ∧ y = b) ∧ db.IsLinked x y := by
  cases h
  unfold DB.IsLinked
  rw [Table.contains, Table.find?_erase, ← Prod.mk.injEq]
  by_cases hxy : (x, y) = (a, b)
  · rw [if_pos hxy]
    exact ⟨fun h => absurd h Bool.false_ne_true, fun h => absurd hxy h.1⟩
  · rw [if_neg hxy]
    exact ⟨fun h => ⟨hxy, h⟩, fun h => h.2⟩

theorem halfLinked_of_link {a b : Int × Int} {r : Unit} (hs : LinksSound db)
    (h : (Write.linkIncidents a.1 a.2 b.1 b.2).apply id db = .ok (r, db')) :
    HalfLinked a b db' :=
  ⟨db, hs, isLinked_linkIncidents h⟩

/-- The second row completes the pair; for a self-link it is there already. -/
theorem linksSound_of_link {a b : Int × Int} {r : Unit} (hs : HalfLinked a b db)
    (h : (Write.linkIncidents b.1 b.2 a.1 a.2).apply id db = .ok (r, db')) : LinksSound db' := by
  obtain ⟨db₀, hsound, hfree, hhalf⟩ := hs
  obtain ⟨hnew, hboth⟩ := isLinked_linkIncidents h
  have hne : a ≠ b := by
    rintro rfl
    exact hnew ((hhalf a a).mpr (Or.inl ⟨rfl, rfl⟩))
  refine ⟨fun x y hxy => ?_, fun x hx => ?_⟩
  · rw [hboth, hhalf] at hxy ⊢
    rcases hxy with ⟨rfl, rfl⟩ | ⟨rfl, rfl⟩ | hxy
    · exact Or.inr (Or.inl ⟨rfl, rfl⟩)
    · exact Or.inl ⟨rfl, rfl⟩
    · exact Or.inr (Or.inr (hsound.symm x y hxy))
  · rw [hboth, hhalf] at hx
    rcases hx with ⟨hxb, hxa⟩ | ⟨hxa, hxb⟩ | hx
    · exact hne (hxa.symm.trans hxb)
    · exact hne (hxa.symm.trans hxb)
    · exact hsound.irrefl x hx

theorem halfUnlinked_of_unlink {a b : Int × Int} {r : Unit} (hs : LinksSound db)
    (h : (Write.unlinkIncidents a.1 a.2 b.1 b.2).apply id db = .ok (r, db')) :
    HalfUnlinked a b db' :=
  ⟨db, hs, isLinked_unlinkIncidents h⟩

theorem linksSound_of_unlink {a b : Int × Int} {r : Unit} (hs : HalfUnlinked a b db)
    (h : (Write.unlinkIncidents b.1 b.2 a.1 a.2).apply id db = .ok (r, db')) : LinksSound db' := by
  obtain ⟨db₀, hsound, hhalf⟩ := hs
  have hboth := isLinked_unlinkIncidents h
  refine ⟨fun x y hxy => ?_, fun x hx => ?_⟩
  · rw [hboth, hhalf] at hxy ⊢
    obtain ⟨hba, hab, hxy⟩ := hxy
    exact ⟨fun h => hab h.symm, fun h => hba h.symm, hsound.symm x y hxy⟩
  · rw [hboth, hhalf] at hx
    exact hsound.irrefl x hx.2.2

theorem links_of_sparesLinks {β : Type} {q : Write β} {c : Conn} {b : β}
    (hq : sparesLinks c β q) (h : q.apply id db = .ok (b, db')) :
    db'.incidentLinkedIncident = db.incidentLinkedIncident := by
  cases Write.effect_of_apply h with
  | linkIncidents => exact hq.elim
  | unlinkIncidents => exact hq.elim
  | _ => rfl

theorem LinksSound.of_eq (hs : LinksSound db)
    (h : db'.incidentLinkedIncident = db.incidentLinkedIncident) : LinksSound db' := by
  refine ⟨fun a b hl => ?_, fun a hl => ?_⟩
  · unfold DB.IsLinked at hl ⊢
    rw [h] at hl ⊢
    exact hs.symm a b hl
  · unfold DB.IsLinked at hl
    rw [h] at hl
    exact hs.irrefl a hl

/-- A program that spares the links keeps them sound. -/
theorem triple_sparesLinks {ε α : Type} {x : Go ε α} {Q : α → Prop}
    (hx : x.Every anyAnswer (writesIn sparesLinks) (fun _ => True) Q) :
    Call.Triple imsDB env (World.Holds LinksSound LinksSound) x
      (fun _ w => w.Holds LinksSound LinksSound) fun _ _ => True :=
  (Call.triple_writesIn (fun _ _ _ _ _ _ hq hs h => hs.of_eq (links_of_sparesLinks hq h))
    (fun _ _ _ _ _ _ hq hs h => hs.of_eq (links_of_sparesLinks hq h)) hx
    fun _ _ _ _ => trivial).conseq (fun _ h => h) (fun _ _ h => h.1) fun _ _ h => h

theorem triple_journal_links (e n author : Int) (text : List JournalLine) (generated : Bool) :
    Call.Triple imsDB env (World.Holds LinksSound LinksSound)
      (do let _ ← addIncidentJournalEntry .txn e n author text generated)
      (fun _ w => w.Holds LinksSound LinksSound) fun _ _ => True :=
  triple_sparesLinks (Call.every_bind (every_addIncidentJournalEntry (E := fun _ => True)
    ⟨fun _ => trivial, fun _ _ => trivial, fun _ => trivial⟩ (fun _ => trivial)
    (fun _ _ => trivial) author text generated) fun _ _ =>
      Call.every_pure (Q := fun _ => True) trivial)

theorem triple_linkIncident_sound (e n author : Int) (eventName : String) (other : Int × Int) :
    Call.Triple imsDB env (World.Holds LinksSound LinksSound)
      (linkIncident e n author eventName other) (fun _ w => w.Holds LinksSound LinksSound)
      fun _ _ => True := by
  refine (triple_exec_txn (U := HalfLinked (e, n) other)
    (fun _ _ _ _ hs h => halfLinked_of_link hs h) fun _ _ _ => trivial).bind fun _ => ?_
  refine (triple_exec_txn (U := LinksSound)
    (fun _ _ _ _ hs h => linksSound_of_link hs h) fun _ _ _ => trivial).bind fun _ => ?_
  exact triple_journal_links _ _ _ _ _

theorem triple_unlinkIncident_sound (e n author : Int) (eventName : String) (other : Int × Int) :
    Call.Triple imsDB env (World.Holds LinksSound LinksSound)
      (unlinkIncident e n author eventName other) (fun _ w => w.Holds LinksSound LinksSound)
      fun _ _ => True := by
  refine (triple_exec_txn (U := HalfUnlinked (e, n) other)
    (fun _ _ _ _ hs h => halfUnlinked_of_unlink hs h) fun _ _ _ => trivial).bind fun _ => ?_
  refine (triple_exec_txn (U := LinksSound)
    (fun _ _ _ _ hs h => linksSound_of_unlink hs h) fun _ _ _ => trivial).bind fun _ => ?_
  exact triple_journal_links _ _ _ _ _

theorem triple_reconcileLinkedIncidents_sound (inc : IncidentJSON) (st : LoadedIncident)
    (author : Int) :
    Call.Triple imsDB env (World.Holds LinksSound LinksSound)
      (reconcileLinkedIncidents inc st author) (fun _ w => w.Holds LinksSound LinksSound)
      fun _ _ => True := by
  unfold reconcileLinkedIncidents
  split
  · exact Call.triple_pure fun _ h => h
  · refine (Call.triple_forM (triple_linkIncident_sound _ _ _ _) _).bind fun _ => ?_
    refine (Call.triple_forM (triple_unlinkIncident_sound _ _ _ _) _).bind fun _ => ?_
    exact Call.triple_pure fun _ h => h

/-- An update without a list of linked incidents writes no link. -/
theorem permitsUpdate_sparesLinks (inc : IncidentJSON) (st : LoadedIncident) :
    PermitsUpdate sparesLinks { inc with linkedIncidents := none } st :=
  ⟨⟨fun _ => trivial, fun _ _ => trivial, fun _ => trivial⟩, fun _ => trivial, fun _ _ _ => trivial,
    fun _ => trivial, fun _ => trivial, fun _ _ => trivial, fun _ _ => trivial,
    fun _ _ _ => trivial, fun _ h => absurd h List.not_mem_nil,
    fun _ h => absurd h List.not_mem_nil⟩

theorem triple_updateIncidentBody_links (s : Service) (inc : IncidentJSON) (st : LoadedIncident)
    (author : Int) (admin : Bool) :
    Call.Triple imsDB env (World.Holds LinksSound LinksSound)
      (updateIncidentBody s inc st author admin) (fun _ w => w.Holds LinksSound LinksSound)
      fun _ _ => True := by
  have hpermits := permitsUpdate_sparesLinks inc st
  refine (triple_sparesLinks
    (every_scalarEdits (fun _ => trivial) s inc st author admin)).bind fun ed => ?_
  have hrow : (exec .txn (.updateIncident st.row.event st.row.number ed.update)
      (HTTPError.internalServerError "Failed to update incident")).Every anyAnswer
      (writesIn sparesLinks) (fun _ => True) fun _ => True :=
    every_exec trivial (fun _ => trivial) fun _ _ => trivial
  refine (triple_sparesLinks hrow).bind fun _ => ?_
  refine (triple_sparesLinks (every_reconcileTypes hpermits.attachType hpermits.detachType
    fun _ => trivial)).bind fun typeLogs => ?_
  refine (triple_sparesLinks
    (every_reconcileReports hpermits (fun _ => trivial) author)).bind fun reports => ?_
  refine (triple_sparesLinks
    (every_reconcileVisits hpermits.visit fun _ => trivial)).bind fun visits => ?_
  refine (triple_reconcileLinkedIncidents_sound inc st author).bind fun links => ?_
  refine (triple_sparesLinks (every_addChangeEntry
    hpermits.entries hpermits.journal (fun _ _ => trivial) author _)).bind fun _ => ?_
  refine (triple_sparesLinks (Call.every_concatMap fun entry _ =>
    every_addTypedEntry hpermits.entries hpermits.journal (fun _ _ => trivial) s author
      entry)).bind fun _ => ?_
  exact Call.triple_pure fun _ h => h

end Links

/-- **Links come in pairs.** After every run of creations and updates that started from sound links,
an incident is linked to another if and only if the other is linked to it, and none is linked to
itself. -/
theorem links_of_run {ι : Type} [DecidableEq ι] (s : Service) (env : ImsEnv)
    (calls : ι → IncidentCall) (w : ImsWorld) (htxn : w.txn = none) (hlinks : LinksSound w.db)
    {as : List ι} {sys : Sys Read Write Ask SqlErr Effect DB (Except ConnectError Unit) ι}
    (hr : Run (Sys.turn imsDB env) (incidentSys s calls w) as sys) :
    (∀ a b, sys.world.db.IsLinked a b ↔ sys.world.db.IsLinked b a) ∧
      ∀ a, ¬ sys.world.db.IsLinked a a := by
  have hcreate : ∀ (β : Type) (q : Write β) id db b db', opensIncident .pool β q →
      LinksSound db → q.apply id db = .ok (b, db') → LinksSound db' := by
    intro β q id db b db' hq hs happly
    cases Write.effect_of_apply happly with
    | createIncident => exact hs.of_eq rfl
    | _ => exact hq.elim
  have hsound : LinksSound sys.world.db := by
    refine safe_of_run (D := LinksSound) (fun i w hw hD => ?_) htxn hlinks hr
    refine Prog.Safe.mono (fun _ _ h => h.2) ((calls i).safe s hcreate ?_ w hw hD)
    exact fun inc st author admin => triple_updateIncidentBody_links s inc st author admin
  exact ⟨fun a b => ⟨hsound.symm a b, hsound.symm b a⟩, hsound.irrefl⟩

/-- Two open incidents of event 1. -/
def twoIncidentsDB : DB :=
  { event := Table.empty.insert 1 { name := "fair" }
    person := Table.empty.insert 7 { handle := some "hub" }
    incident := (Table.empty.insert (1, 1)
      { created := 5, priority := 3, state := .stateOpen, started := 5, createdBy := some 7 }).insert
      (1, 2) { created := 6, priority := 3, state := .stateOpen, started := 6, createdBy := some 7 } }

/-- Two editors link the same two incidents, one from either side. -/
def linkFromBothSides (first : Bool) : IncidentCall :=
  .update (some ⟨7, "hub", true⟩)
    { eventId := 1
      incidentNumber := if first then 1 else 2
      update := some
        { linkedIncidents := some [{ eventId := 1, incidentNumber := if first then 2 else 1 }] } }

/-- Both have read that there is no link when the first of them writes it. -/
theorem links_of_run_both : ∃ sys,
    Run (Sys.turn imsDB stillEnv)
      (incidentSys {} linkFromBothSides { db := twoIncidentsDB, nextId := 1 })
      (List.replicate 6 true ++ List.replicate 6 false ++ [true, false]) sys ∧
    sys.world.db.IsLinked (1, 1) (1, 2) ∧
    (∀ a b, sys.world.db.IsLinked a b ↔ sys.world.db.IsLinked b a) ∧
      ∀ a, ¬ sys.world.db.IsLinked a a := by
  have hrun : (RunLib.exec (Sys.turn imsDB stillEnv)
      (incidentSys {} linkFromBothSides { db := twoIncidentsDB, nextId := 1 })
      (List.replicate 6 true ++ List.replicate 6 false ++ [true, false])).map
      (fun sys => sys.world.db.incidentLinkedIncident.rows) =
        some [(((1, 1), 1, 2), ()), (((1, 2), 1, 1), ())] := by decide
  obtain ⟨sys, hsys, hrows⟩ := Option.map_eq_some_iff.mp hrun
  have hnone : LinksSound twoIncidentsDB :=
    ⟨fun _ _ h => absurd h Bool.false_ne_true, fun _ h => Bool.false_ne_true h⟩
  refine ⟨sys, run_of_exec hsys, ?_,
    links_of_run {} stillEnv linkFromBothSides _ rfl hnone (run_of_exec hsys)⟩
  refine Table.contains_iff.mpr ⟨(), Table.find?_eq_some_iff.mpr ?_⟩
  rw [hrows]
  exact List.mem_cons_self

end OcfIms
