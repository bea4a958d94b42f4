import OcfIms.AreaHierarchy
import OcfIms.Crew
import OcfIms.IncidentRuns
import OcfIms.ReferenceData

/-!
# Names that stay usable

Four services keep rows with a name: incident types, outcomes, areas and crews. Creating one trims the
name and turns a blank one away, and so does proposing one and updating an area or a crew. The update
of an incident type or of an outcome writes the name it is sent, which the contract bounds in length
only: so a blank name, or one with a space before it, is stored. Names stay usable as long as those
two updates bring usable ones.
-/

namespace OcfIms

open RunLib TxnLib

/-- Not empty, and with nothing to trim. -/
def Usable (name : String) : Prop := name ≠ "" ∧ trimSpace name = name

instance (name : String) : Decidable (Usable name) := inferInstanceAs (Decidable (_ ∧ _))

/-- What the checks of the services leave. -/
theorem usable_trimSpace {name : String} (h : (trimSpace name != "") = true) :
    Usable (trimSpace name) :=
  ⟨by simpa using h, trimSpace_trimSpace name⟩

/-- Every incident type, outcome, area and crew has a usable name. -/
structure NamesUsable (db : DB) : Prop where
  reference : ∀ kind id name, (db.referenceNames kind).find? id = some name → Usable name
  area : ∀ k a, db.area.find? k = some a → Usable a.name
  crew : ∀ k c, db.crew.find? k = some c → Usable c.name

/-! ## The writes -/

/-- A write of the reference-data services whose name is usable. -/
def referenceUsable : Conn → ∀ β : Type, Write β ⊕ ReferenceWrite β → Prop
  | _, _, .inr (.create _ p) => Usable p.name
  | _, _, .inr (.updateIncidentType p) => Usable p.name
  | _, _, .inr (.updateOutcome p) => Usable p.name
  | _, _, .inr (.approve _ _) => True
  | _, _, .inl _ => False

/-- A write of the area service whose name is usable. -/
def areaUsable : Conn → ∀ β : Type, Write β ⊕ AreaWrite β → Prop
  | _, _, .inr (.createArea p) => Usable p.area.name
  | _, _, .inr (.updateArea p) => Usable p.name
  | _, _, _ => False

/-- A write of the crew service whose name is usable. -/
def crewUsable : Conn → ∀ β : Type, (Write β ⊕ PersonWrite β) ⊕ CrewWrite β → Prop
  | _, _, .inr (.createCrew _ _ crew) => Usable crew.name
  | _, _, .inr (.updateCrew crew _ _) => Usable crew.name
  | _, _, _ => False

section Writes

variable {sortKey : String → String} {db db' : DB}

/-- A change of a table of names leaves the other names alone. -/
theorem NamesUsable.setReference (h : NamesUsable db) {kind : ReferenceKind}
    {names : Table Int String} (hnames : ∀ id name, names.find? id = some name → Usable name)
    (columns : Table Int ReferenceColumns) : NamesUsable (db.setReference kind names columns) where
  reference kind' id name hname := by
    rw [DB.referenceNames_setReference] at hname
    split at hname
    · exact hnames id name hname
    · exact h.reference kind' id name hname
  area k a ha := h.area k a (by rwa [DB.setReference_area] at ha)
  crew k c hc := h.crew k c (by rwa [DB.setReference_crew] at hc)

theorem NamesUsable.updateReference (h : NamesUsable db) {kind : ReferenceKind} {id : Int}
    {name : String} (hname : Usable name) {f : ReferenceColumns → ReferenceColumns} {b : Unit}
    (ha : db.updateReference sortKey kind id name f = .ok (b, db')) : NamesUsable db' := by
  rw [DB.updateReference, DB.column_eq_ok, DB.unique_eq_ok] at ha
  obtain ⟨-, -, ha⟩ := ha
  obtain ⟨-, rfl⟩ := Prod.mk.inj (Except.ok.inj ha)
  exact h.setReference (Table.forall_modify (h.reference kind) fun _ _ => hname) _

theorem namesUsable_reference (c : Conn) (β : Type) (q : Write β ⊕ ReferenceWrite β) (id : Int)
    (db : DB) (b : β) (db' : DB) (hq : referenceUsable c β q) (h : NamesUsable db)
    (ha : (referenceDB sortKey).apply q id db = .ok (b, db')) : NamesUsable db' := by
  rcases q with q | q
  · exact hq.elim
  change q.apply sortKey id db = .ok (b, db') at ha
  cases q with
  | create kind p =>
      rw [ReferenceWrite.apply, DB.column_eq_ok, DB.unique_eq_ok, DB.references_eq_ok] at ha
      obtain ⟨-, -, -, ha⟩ := ha
      obtain ⟨-, rfl⟩ := Prod.mk.inj (Except.ok.inj ha)
      exact h.setReference (Table.forall_insert (h.reference kind) hq) _
  | updateIncidentType p =>
      rw [ReferenceWrite.apply] at ha
      split at ha
      · obtain ⟨-, rfl⟩ := Prod.mk.inj (Except.ok.inj ha)
        exact h
      · obtain ⟨description, -, ha⟩ := DB.textColumn_eq_ok.mp ha
        exact h.updateReference hq ha
  | updateOutcome p =>
      rw [ReferenceWrite.apply] at ha
      split at ha
      · obtain ⟨-, rfl⟩ := Prod.mk.inj (Except.ok.inj ha)
        exact h
      · exact h.updateReference hq ha
  | approve kind rowId =>
      rw [ReferenceWrite.apply] at ha
      split at ha
      · obtain ⟨-, rfl⟩ := Prod.mk.inj (Except.ok.inj ha)
        exact h
      · obtain ⟨-, rfl⟩ := Prod.mk.inj (Except.ok.inj ha)
        exact h.setReference (h.reference kind) _

/-- A change of the areas leaves the other names alone. -/
theorem NamesUsable.setArea (h : NamesUsable db) {area : Table (Int × String) Area}
    (harea : ∀ k a, area.find? k = some a → Usable a.name) : NamesUsable { db with area } where
  reference kind := by cases kind; exacts [h.reference .incidentType, h.reference .outcome]
  area := harea
  crew := h.crew

/-- A change of the crews leaves the other names alone. -/
theorem NamesUsable.setCrew (h : NamesUsable db) {crew : Table (Int × String) Crew}
    (hcrew : ∀ k c, crew.find? k = some c → Usable c.name) : NamesUsable { db with crew } where
  reference kind := by cases kind; exacts [h.reference .incidentType, h.reference .outcome]
  area := h.area
  crew := hcrew

theorem namesUsable_area (c : Conn) (β : Type) (q : Write β ⊕ AreaWrite β) (id : Int)
    (db : DB) (b : β) (db' : DB) (hq : areaUsable c β q) (h : NamesUsable db)
    (ha : (areaDB sortKey).apply q id db = .ok (b, db')) : NamesUsable db' := by
  rcases q with q | q
  · exact hq.elim
  change q.apply id db = .ok (b, db') at ha
  cases q with
  | createArea p =>
      rw [AreaWrite.createArea_eq_ok, DB.insertArea] at ha
      simp only [DB.column_eq_ok, DB.unique_eq_ok, DB.references_eq_ok] at ha
      obtain ⟨-, -, -, -, -, -, ha⟩ := ha
      rw [← Except.ok.inj ha]
      exact h.setArea (Table.forall_insert (P := fun a : Area => Usable a.name) h.area hq)
  | updateArea p =>
      rw [AreaWrite.apply] at ha
      split at ha
      · obtain ⟨-, rfl⟩ := Prod.mk.inj (Except.ok.inj ha)
        exact h
      · simp only [DB.column_eq_ok, DB.references_eq_ok] at ha
        obtain ⟨-, -, ha⟩ := ha
        obtain ⟨-, rfl⟩ := Prod.mk.inj (Except.ok.inj ha)
        exact h.setArea (Table.forall_modify (P := fun a : Area => Usable a.name) h.area fun _ _ => hq)
  | _ => exact hq.elim

theorem namesUsable_crew (c : Conn) (β : Type) (q : (Write β ⊕ PersonWrite β) ⊕ CrewWrite β)
    (id : Int) (db : DB) (b : β) (db' : DB) (hq : crewUsable c β q) (h : NamesUsable db)
    (ha : (crewDB sortKey).apply q id db = .ok (b, db')) : NamesUsable db' := by
  rcases q with q | q
  · exact hq.elim
  change q.apply id db = .ok (b, db') at ha
  cases q with
  | createCrew e slug crew =>
      rw [CrewWrite.apply] at ha
      simp only [DB.column_eq_ok, DB.unique_eq_ok, DB.references_eq_ok] at ha
      obtain ⟨-, -, -, -, ha⟩ := ha
      obtain ⟨-, rfl⟩ := Prod.mk.inj (Except.ok.inj ha)
      exact h.setCrew (Table.forall_insert (P := fun c : Crew => Usable c.name) h.crew hq)
  | updateCrew crew e slug =>
      rw [CrewWrite.apply] at ha
      split at ha
      · obtain ⟨-, rfl⟩ := Prod.mk.inj (Except.ok.inj ha)
        exact h
      · obtain ⟨-, ha⟩ := DB.column_eq_ok.mp ha
        obtain ⟨-, rfl⟩ := Prod.mk.inj (Except.ok.inj ha)
        exact h.setCrew (Table.forall_modify (P := fun c : Crew => Usable c.name) h.crew fun _ _ => hq)
  | _ => exact hq.elim

end Writes

/-! ## The calls -/

/-- A call of one of the reference-data services. -/
inductive ReferenceCall
  | create (req : CreateReferenceRequest)
  | update (req : UpdateReferenceRequest)
  | approve (req : ApproveReferenceRequest)
  | setHidden (req : SetReferenceHiddenRequest)
  | propose (req : ProposeReferenceRequest)
  deriving DecidableEq, Repr

def ReferenceCall.call (ctx : Option IMSClaims) :
    ReferenceKind → ReferenceCall → ReferenceGo ConnectError Unit
  | .incidentType, .create req => do
    let _ ← createIncidentType ctx req
  | .incidentType, .update req => updateIncidentType ctx req
  | .incidentType, .approve req => approveIncidentType ctx req
  | .incidentType, .setHidden req => setIncidentTypeHidden ctx req
  | .incidentType, .propose req => do
    let _ ← proposeIncidentType ctx req
  | .outcome, .create req => do
    let _ ← createOutcome ctx req
  | .outcome, .update req => updateOutcome ctx req
  | .outcome, .approve req => approveOutcome ctx req
  | .outcome, .setHidden req => setOutcomeHidden ctx req
  | .outcome, .propose req => do
    let _ ← proposeOutcome ctx req

/-- A call of one of the four services, with what it meets outside the database. -/
inductive NamingCall : Type 1
  | reference (env : ReferenceEnv) (kind : ReferenceKind) (call : ReferenceCall)
  | createArea (env : AreaEnv) (s : AreaService) (req : CreateAreaRequest)
  | updateArea (env : AreaEnv) (req : UpdateAreaRequest)
  | createCrew (env : CrewEnv) (s : CrewService) (req : CreateCrewRequest)
  | updateCrew (env : CrewEnv) (req : UpdateCrewRequest)

structure NamingRequest : Type 1 where
  ctx : Option IMSClaims
  /-- The identifier of the row it inserts. -/
  nextId : Int
  call : NamingCall

/-- The database after a call that succeeded. -/
def afterSuccess {ε α σ Out : Type} (r : Except ε α × World σ Out) : Option σ :=
  match r.1 with
  | .ok _ => some r.2.db
  | .error _ => none

/-- A call that succeeds. -/
def namingStep (sortKey : String → String) (db : DB) (r : NamingRequest) : Option DB :=
  match r.call with
  | .reference env kind call =>
      afterSuccess ((call.call r.ctx kind).run (referenceDB sortKey) env { db, nextId := r.nextId })
  | .createArea env s req =>
      afterSuccess ((createArea s r.ctx req).run (areaDB sortKey) env { db, nextId := r.nextId })
  | .updateArea env req =>
      afterSuccess ((updateArea r.ctx req).run (areaDB sortKey) env { db, nextId := r.nextId })
  | .createCrew env s req =>
      afterSuccess ((createCrew s r.ctx req).run (crewDB sortKey) env { db, nextId := r.nextId })
  | .updateCrew env req =>
      afterSuccess ((updateCrew r.ctx req).run (crewDB sortKey) env { db, nextId := r.nextId })

/-- The request names nothing, or names it usably. -/
def UpdateReferenceRequest.usable (req : UpdateReferenceRequest) : Bool :=
  req.msg.name.all fun name => decide (Usable name)

/-- An update of an incident type or of an outcome that brings a name brings a usable one. -/
def BringsUsable (_ : DB) (r : NamingRequest) : Prop :=
  match r.call with
  | .reference _ _ (.update req) => req.usable = true
  | _ => True

instance (db : DB) (r : NamingRequest) : Decidable (BringsUsable db r) := by
  unfold BringsUsable
  split <;> infer_instance

section Contracts

variable {Rd Wr Ask : Type → Type} {Out : Type} {S : Store Rd Wr SqlErr DB} {env : Env Ask}
  {W : Conn → ∀ β : Type, Wr β → Prop} {ε α β : Type}

/-- A program whose writes are permitted, on a database whose names are usable. -/
structure KeepsNames (S : Store Rd Wr SqlErr DB) (env : Env Ask)
    (W : Conn → ∀ β : Type, Wr β → Prop) (x : Call (DbOp Rd Wr Ask SqlErr Out) ε α) : Prop where
  every : x.Every (answersFrom S env NamesUsable) (onlyWrites W) (fun _ => True) fun _ => True

theorem KeepsNames.bind {x : Call (DbOp Rd Wr Ask SqlErr Out) ε β}
    {f : β → Call (DbOp Rd Wr Ask SqlErr Out) ε α} (hx : KeepsNames S env W x)
    (hf : ∀ b, KeepsNames S env W (f b)) : KeepsNames S env W (x >>= f) :=
  ⟨Call.every_bind hx.every fun b _ => (hf b).every⟩

/-- What the first part returns may be assumed of it. -/
theorem keepsNames_bind_every {x : Call (DbOp Rd Wr Ask SqlErr Out) ε β} {Q : β → Prop}
    {f : β → Call (DbOp Rd Wr Ask SqlErr Out) ε α}
    (hx : x.Every (answersFrom S env NamesUsable) (onlyWrites W) (fun _ => True) Q)
    (hf : ∀ b, Q b → KeepsNames S env W (f b)) : KeepsNames S env W (x >>= f) :=
  ⟨Call.every_bind hx fun b hb => (hf b hb).every⟩

theorem keepsNames_pure (a : α) :
    KeepsNames S env W (pure a : Call (DbOp Rd Wr Ask SqlErr Out) ε α) := ⟨Call.every_pure trivial⟩

theorem keepsNames_throw (e : ε) :
    KeepsNames S env W (throw e : Call (DbOp Rd Wr Ask SqlErr Out) ε α) := ⟨Call.every_throw trivial⟩

theorem keepsNames_emit (o : Out) :
    KeepsNames S env W (Call.perform (.emit o) : Call (DbOp Rd Wr Ask SqlErr Out) ε Unit) :=
  ⟨Call.every_perform trivial fun _ _ => trivial⟩

/-- A statement of the service. -/
theorem keepsNames_write {c : Conn} {q : Wr α} {err : SqlErr → ε} (hq : W c α q) :
    KeepsNames S env W
      (Call.mapErr err (Call.attempt (.write c q)) : Call (DbOp Rd Wr Ask SqlErr Out) ε α) :=
  ⟨Call.every_mapErr (Call.every_attempt hq (fun _ _ => trivial) fun _ _ => trivial)⟩

theorem KeepsNames.result {ε' : Type} {x : Call (DbOp Rd Wr Ask SqlErr Out) ε α}
    (hx : KeepsNames S env W x) :
    KeepsNames S env W (Call.result x : Call (DbOp Rd Wr Ask SqlErr Out) ε' (Except ε α)) :=
  ⟨(Call.every_result hx.every).mono (fun _ _ _ h => h) (fun _ _ h => h) (fun _ h => h)
    fun _ _ => trivial⟩

/-- After a check, what is checked holds. -/
theorem keepsNames_ensure {c : Bool} {e : ε} {f : Unit → Call (DbOp Rd Wr Ask SqlErr Out) ε α}
    (hf : c = true → KeepsNames S env W (f ())) : KeepsNames S env W (Call.ensure c e >>= f) :=
  keepsNames_bind_every (Call.every_ensure_true trivial) fun _ hc => hf hc

/-- A read tells what some database with usable names holds. -/
theorem keepsNames_read {c : Conn} {q : Rd β} {err : SqlErr → ε} {Q : β → Prop}
    {f : β → Call (DbOp Rd Wr Ask SqlErr Out) ε α}
    (hQ : ∀ db b, NamesUsable db → S.eval q db = .ok b → Q b)
    (hf : ∀ b, Q b → KeepsNames S env W (f b)) :
    KeepsNames S env W (Call.mapErr err (Call.attempt (.read c q)) >>= f) := by
  refine keepsNames_bind_every (Q := Q)
    (Call.every_mapErr (Call.every_attempt trivial (fun _ _ => trivial) fun b hb => ?_)) hf
  obtain ⟨db, hdb, heval⟩ := hb b rfl
  exact hQ db b hdb heval

/-- The database a call leaves. -/
theorem KeepsNames.namesUsable {x : Call (DbOp Rd Wr Ask SqlErr Out) ε α} (hx : KeepsNames S env W x)
    (hW : ∀ c (β : Type) (q : Wr β) id db b db', W c β q → NamesUsable db →
      S.apply q id db = .ok (b, db') → NamesUsable db') {db db' : DB} {id : Int}
    (h : NamesUsable db) (hrun : afterSuccess (x.run S env { db, nextId := id }) = some db') :
    NamesUsable db' := by
  have hholds := (Call.holds_of_every hW hx.every (w := { db, nextId := id })
    ⟨h, fun _ htxn => nomatch htxn⟩).1
  rw [afterSuccess] at hrun
  split at hrun
  · exact Option.some.inj hrun ▸ hholds
  · cases hrun

end Contracts

/-! ## The services -/

section Reference

variable {sortKey : String → String} {env : ReferenceEnv}

/-- A row that is read has a usable name. -/
theorem usable_of_row {kind : ReferenceKind} {id : Int} {db : DB} {row : ReferenceRow}
    (h : NamesUsable db)
    (heval : (referenceDB sortKey).eval (.inr (.row kind id)) db = .ok row) : Usable row.name := by
  change (ReferenceRead.row kind id).eval sortKey db = .ok row at heval
  rw [ReferenceRead.eval, DB.one_eq_ok, DB.reference, Option.map_eq_some_iff] at heval
  obtain ⟨name, hname, rfl⟩ := heval
  exact h.reference kind id name hname

theorem keepsNames_referenceExec {ε α : Type} {c : Conn} {q : ReferenceWrite α} {err : SqlErr → ε}
    (hq : referenceUsable c α (.inr q)) :
    KeepsNames (referenceDB sortKey) env referenceUsable (referenceExec c q err) :=
  keepsNames_write hq

theorem keepsNames_requireReferenceAdmin (kind : ReferenceKind) (ctx : Option IMSClaims) :
    KeepsNames (referenceDB sortKey) env referenceUsable (requireReferenceAdmin kind ctx) := by
  refine keepsNames_bind_every (Call.onlyWrites_widen ?_) fun globals _ =>
    ⟨Call.every_ensure (fun _ => trivial) fun _ => trivial⟩
  exact (within_authenticated ctx).bind fun claims =>
    (within_eventPermissions _ _).mapErr.bind fun _ => within_pure _

theorem keepsNames_invalidateReference (kind : ReferenceKind) :
    KeepsNames (referenceDB sortKey) env referenceUsable (invalidateReference kind) :=
  ⟨Call.every_forM fun _ _ => Call.every_perform trivial fun _ _ => trivial⟩

/-- A write that keeps a usable name of the row that was read, or brings one. -/
theorem keepsNames_editReference {kind : ReferenceKind} {ctx : Option IMSClaims} {id : Int}
    {write : ReferenceRow → ReferenceWrite Unit} {failed : String}
    (hwrite : ∀ row, Usable row.name → referenceUsable .pool Unit (.inr (write row))) :
    KeepsNames (referenceDB sortKey) env referenceUsable
      (editReference kind ctx id write failed) :=
  (keepsNames_requireReferenceAdmin kind ctx).bind fun _ =>
    keepsNames_read (fun _ _ h heval => usable_of_row h heval) fun row hrow =>
      (keepsNames_referenceExec (hwrite row hrow)).bind fun _ => keepsNames_invalidateReference kind

theorem keepsNames_createReference (kind : ReferenceKind) (ctx : Option IMSClaims)
    (req : CreateReferenceRequest) (group : Option IncidentTypeGroup) :
    KeepsNames (referenceDB sortKey) env referenceUsable
      (createReference kind ctx req group) := by
  refine (keepsNames_requireReferenceAdmin kind ctx).bind fun _ => ?_
  refine keepsNames_ensure fun hname => ?_
  refine KeepsNames.bind (keepsNames_referenceExec ?_) fun id =>
    (keepsNames_invalidateReference kind).bind fun _ => keepsNames_pure id
  exact usable_trimSpace hname

theorem keepsNames_resolveProposed (kind : ReferenceKind) (name : String) (err : SqlErr) :
    KeepsNames (referenceDB sortKey) env referenceUsable (resolveProposed kind name err) := by
  rw [resolveProposed]
  split
  · refine KeepsNames.bind (KeepsNames.result
      ⟨Call.every_mapErr (Call.every_attempt trivial (fun _ _ => trivial) fun _ _ => trivial)⟩)
      fun r => ?_
    cases r with
    | ok existing => exact keepsNames_pure existing.id
    | error _ => exact keepsNames_throw _
  · exact keepsNames_throw _

theorem keepsNames_proposeReference (kind : ReferenceKind) (ctx : Option IMSClaims)
    (req : ProposeReferenceRequest) :
    KeepsNames (referenceDB sortKey) env referenceUsable (proposeReference kind ctx req) := by
  refine KeepsNames.bind ⟨Call.onlyWrites_widen (within_authenticated ctx)⟩ fun claims => ?_
  refine KeepsNames.bind ⟨Call.onlyWrites_widen (within_eventPermissions _ _).mapErr⟩ fun perms => ?_
  refine keepsNames_ensure fun _ => keepsNames_ensure fun hname => ?_
  refine KeepsNames.bind (KeepsNames.result (keepsNames_referenceExec ?_)) fun r => ?_
  · exact usable_trimSpace hname
  cases r with
  | ok id => exact (keepsNames_invalidateReference kind).bind fun _ => keepsNames_pure id
  | error err => exact keepsNames_resolveProposed kind _ err

/-- The name an update leaves, where the request brings none or a usable one. -/
theorem usable_getD {req : UpdateReferenceRequest} {row : ReferenceRow} (hreq : req.usable = true)
    (hrow : Usable row.name) : Usable (req.msg.name.getD row.name) := by
  rw [UpdateReferenceRequest.usable] at hreq
  cases hname : req.msg.name with
  | none => exact hrow
  | some name => simpa [hname] using hreq

theorem ReferenceCall.keepsNames (ctx : Option IMSClaims) (kind : ReferenceKind)
    (call : ReferenceCall) (hcall : ∀ req, call = .update req → req.usable = true) :
    KeepsNames (referenceDB sortKey) env referenceUsable (call.call ctx kind) := by
  cases call with
  | create req =>
      cases kind <;> exact (keepsNames_createReference _ ctx req _).bind fun _ => keepsNames_pure _
  | update req =>
      cases kind <;>
        exact keepsNames_editReference fun row hrow => usable_getD (hcall req rfl) hrow
  | approve req => cases kind <;> exact keepsNames_editReference fun row _ => trivial
  | setHidden req => cases kind <;> exact keepsNames_editReference fun row hrow => hrow
  | propose req =>
      cases kind <;> exact (keepsNames_proposeReference _ ctx req).bind fun _ => keepsNames_pure _

end Reference

section Areas

variable {sortKey : String → String} {env : AreaEnv}

/-- The areas that are read have usable names. -/
theorem usable_of_areas {e : Int} {db : DB} {rows : List AreaRow} (h : NamesUsable db)
    (heval : (areaDB sortKey).eval (.inr (.areas e)) db = .ok rows) :
    ∀ row ∈ rows, Usable row.area.name := by
  change Except.ok (db.areas sortKey e) = .ok rows at heval
  intro row hrow
  rw [← Except.ok.inj heval] at hrow
  exact h.area _ _ (DB.mem_areas.mp hrow)

theorem keepsNames_areaExec {ε α : Type} {c : Conn} {q : AreaWrite α} {err : SqlErr → ε}
    (hq : areaUsable c α (.inr q)) :
    KeepsNames (areaDB sortKey) env areaUsable (areaExec c q err) :=
  keepsNames_write hq

theorem keepsNames_orFail {α : Type} (r : Except ConnectError α) :
    KeepsNames (areaDB sortKey) env areaUsable (orFail r) := by
  cases r with
  | ok a => exact keepsNames_pure a
  | error e => exact keepsNames_throw e

theorem keepsNames_authorize (ctx : Option IMSClaims) (e : Int) :
    KeepsNames (areaDB sortKey) env areaUsable (authorize ctx e) :=
  ⟨Call.onlyWrites_widen ((within_authenticated ctx).bind fun _ =>
    (within_eventPermissions _ _).mapErr.bind fun _ => within_pure _)⟩

theorem keepsNames_invalidateAreaCaches (e : Int) :
    KeepsNames (areaDB sortKey) env areaUsable (invalidateAreaCaches e) := by
  refine (keepsNames_emit _).bind fun _ => ?_
  refine KeepsNames.bind (KeepsNames.result ⟨Call.onlyWrites_widen (within_select _ _ _)⟩)
    fun r => ?_
  cases r with
  | ok ev => exact keepsNames_emit _
  | error _ => exact keepsNames_pure _

theorem keepsNames_createArea (s : AreaService) (ctx : Option IMSClaims) (req : CreateAreaRequest) :
    KeepsNames (areaDB sortKey) env areaUsable (createArea s ctx req) := by
  refine (keepsNames_authorize ctx req.eventID).bind fun caller => ?_
  refine keepsNames_ensure fun _ => ?_
  refine KeepsNames.bind ?_ fun slug =>
    (keepsNames_invalidateAreaCaches req.eventID).bind fun _ => keepsNames_pure slug
  refine keepsNames_ensure fun hname => ?_
  refine keepsNames_read (Q := fun _ => True) (fun _ _ _ _ => trivial) fun existing _ => ?_
  refine (keepsNames_orFail _).bind fun parentSlug => ?_
  refine KeepsNames.bind (keepsNames_areaExec ?_) fun _ => keepsNames_pure _
  exact usable_trimSpace hname

/-- The name an update leaves is usable. -/
theorem usable_updatedName {stored : String} (hstored : Usable stored) (name : Option String) :
    (updatedName stored name).Every (answersFrom (areaDB sortKey) env NamesUsable)
      (onlyWrites areaUsable) (fun _ => True) Usable := by
  cases name with
  | none => exact Call.every_pure hstored
  | some name =>
      rw [updatedName]
      cases hname : trimSpace name != "" with
      | false => exact Call.every_throw trivial
      | true => exact Call.every_pure (usable_trimSpace hname)

theorem keepsNames_updateArea (ctx : Option IMSClaims) (req : UpdateAreaRequest) :
    KeepsNames (areaDB sortKey) env areaUsable (updateArea ctx req) := by
  refine KeepsNames.bind ((keepsNames_authorize ctx req.eventID).bind fun caller =>
    ⟨Call.every_ensure (fun _ => trivial) fun _ => trivial⟩) fun _ => ?_
  refine KeepsNames.bind ?_ fun _ => keepsNames_invalidateAreaCaches req.eventID
  refine keepsNames_read (fun _ _ h heval => usable_of_areas h heval) fun existing hexisting => ?_
  split
  · exact keepsNames_throw _
  · rename_i row hrow
    have hstored := hexisting row (List.mem_of_find?_eq_some hrow)
    refine keepsNames_bind_every (usable_updatedName hstored req.area.name) fun name hname => ?_
    refine KeepsNames.bind ?_ fun parentSlug => keepsNames_areaExec hname
    rw [updatedParent]
    split
    · exact keepsNames_orFail _
    · exact keepsNames_pure _

end Areas

section Crews

variable {sortKey : String → String} {env : CrewEnv}

theorem DB.mem_crews {db : DB} {e : Int} {row : CrewRow} :
    row ∈ db.crews sortKey e ↔ db.crew.find? (e, row.slug) = some row.crew := by
  obtain ⟨slug, crew⟩ := row
  rw [DB.crews, List.mem_insertionSort, List.mem_filterMap, Table.find?_eq_some_iff]
  constructor
  · rintro ⟨⟨⟨e', slug'⟩, crew'⟩, hmem, h⟩
    split at h
    · rename_i he
      obtain ⟨rfl, rfl⟩ := CrewRow.mk.inj (Option.some.inj h)
      exact he ▸ hmem
    · cases h
  · exact fun h => ⟨_, h, by simp⟩

/-- The crews that are read have usable names. -/
theorem usable_of_crews {e : Int} {db : DB} {rows : List CrewRow} (h : NamesUsable db)
    (heval : (crewDB sortKey).eval (.inr (.crews e)) db = .ok rows) :
    ∀ row ∈ rows, Usable row.crew.name := by
  change Except.ok (db.crews sortKey e) = .ok rows at heval
  intro row hrow
  rw [← Except.ok.inj heval] at hrow
  exact h.crew _ _ (DB.mem_crews.mp hrow)

theorem keepsNames_crewExec {ε α : Type} {c : Conn} {q : CrewWrite α} {err : SqlErr → ε}
    (hq : crewUsable c α (.inr q)) :
    KeepsNames (crewDB sortKey) env crewUsable (crewExec c q err) :=
  keepsNames_write hq

theorem keepsNames_fromIms {α : Type} {x : Go ConnectError α} (hx : Within anyAnswer Call.noWrite x) :
    KeepsNames (crewDB sortKey) env crewUsable (fromPerson (fromIms x)) :=
  ⟨Call.onlyWrites_widen (Call.noWrite_widen hx)⟩

theorem keepsNames_requireCrewAdmin (ctx : Option IMSClaims) (e : Int) :
    KeepsNames (crewDB sortKey) env crewUsable (requireCrewAdmin ctx e) := by
  refine (keepsNames_fromIms (within_authenticated ctx)).bind fun claims => ?_
  refine (keepsNames_fromIms (within_eventPermissions _ _).mapErr).bind fun perms => ?_
  exact ⟨Call.every_ensure (fun _ => trivial) fun _ => trivial⟩

theorem keepsNames_createCrew (s : CrewService) (ctx : Option IMSClaims) (req : CreateCrewRequest) :
    KeepsNames (crewDB sortKey) env crewUsable (createCrew s ctx req) := by
  refine (keepsNames_requireCrewAdmin ctx req.eventID).bind fun _ => ?_
  refine KeepsNames.bind ?_ fun slug => (keepsNames_emit _).bind fun _ => keepsNames_pure slug
  refine keepsNames_ensure fun hname => ?_
  refine keepsNames_read (Q := fun _ => True) (fun _ _ _ _ => trivial) fun existing _ => ?_
  refine KeepsNames.bind (keepsNames_crewExec ?_) fun _ => keepsNames_pure _
  exact usable_trimSpace hname

/-- The name an update leaves is usable. -/
theorem usable_updatedCrewName {stored : String} (hstored : Usable stored) (name : Option String) :
    (updatedCrewName stored name).Every (answersFrom (crewDB sortKey) env NamesUsable)
      (onlyWrites crewUsable) (fun _ => True) Usable := by
  cases name with
  | none => exact Call.every_pure hstored
  | some name =>
      rw [updatedCrewName]
      cases hname : trimSpace name != "" with
      | false => exact Call.every_throw trivial
      | true => exact Call.every_pure (usable_trimSpace hname)

theorem keepsNames_updateCrew (ctx : Option IMSClaims) (req : UpdateCrewRequest) :
    KeepsNames (crewDB sortKey) env crewUsable (updateCrew ctx req) := by
  refine (keepsNames_requireCrewAdmin ctx req.eventID).bind fun _ => ?_
  refine KeepsNames.bind ?_ fun _ => keepsNames_emit _
  refine keepsNames_bind_every (Q := fun row => Usable row.crew.name) ?_ fun row hrow => ?_
  · refine Call.every_bind (x := fetchCrews req.eventID)
      (Q := fun rows => ∀ row ∈ rows, Usable row.crew.name) ?_ fun rows hrows => ?_
    · refine Call.every_mapErr (Call.every_attempt trivial (fun _ _ => trivial) fun rows hr => ?_)
      obtain ⟨db, hdb, heval⟩ := hr rows rfl
      exact usable_of_crews hdb heval
    · split
      · exact Call.every_throw trivial
      · rename_i row hrow
        exact Call.every_pure (hrows row (List.mem_of_find?_eq_some hrow))
  · exact keepsNames_bind_every (usable_updatedCrewName hrow req.name) fun name hname =>
      keepsNames_crewExec hname

end Crews

/-! ## Runs -/

/-- A call that succeeds keeps the names usable, unless it brings an unusable one. -/
theorem namesUsable_step {sortKey : String → String} {db db' : DB} {r : NamingRequest}
    (h : NamesUsable db) (hr : BringsUsable db r) (hs : namingStep sortKey db r = some db') :
    NamesUsable db' := by
  obtain ⟨ctx, nextId, call⟩ := r
  cases call with
  | reference env kind call =>
      refine (ReferenceCall.keepsNames ctx kind call ?_).namesUsable namesUsable_reference h hs
      rintro req rfl
      exact hr
  | createArea env s req => exact (keepsNames_createArea s ctx req).namesUsable namesUsable_area h hs
  | updateArea env req => exact (keepsNames_updateArea ctx req).namesUsable namesUsable_area h hs
  | createCrew env s req => exact (keepsNames_createCrew s ctx req).namesUsable namesUsable_crew h hs
  | updateCrew env req => exact (keepsNames_updateCrew ctx req).namesUsable namesUsable_crew h hs

/-- **Names stay usable.** Whatever creations, proposals, updates, approvals and changes of what is
hidden succeed, every incident type, outcome, area and crew has a usable name, as long as the updates
of incident types and outcomes bring usable ones. -/
theorem names_stay_usable {sortKey : String → String} {db₀ db : DB} {rs : List NamingRequest}
    (h : NamesUsable db₀) (hr : RunMeeting (namingStep sortKey) BringsUsable db₀ rs db) :
    NamesUsable db :=
  hr.invariant (I := fun _ db => NamesUsable db) h fun _ _ _ _ h hC hs => namesUsable_step h hC hs

/-! ## The seeded data -/

/-- The incident types of the migrations. -/
def seededTypes : List String :=
  ["Medical", "Fire", "Traffic/Vehicle", "Child Welfare", "Missing Person", "Lost Child",
   "Environmental Hazard", "Personal Violation", "Harassment", "Threatening Behavior",
   "Intoxication", "Participant Conflict", "Volunteer Conflict", "Construction Issue",
   "Water Issue", "Electrical Issue", "Sound Complaint", "Booth Issue", "Camping Issue",
   "Site Damage", "Guideline Violation", "Permit Violation", "Amplified Sound Violation",
   "Unauthorized Vehicle", "Wristband/Credential Issue", "Weapon", "Other", "Theft",
   "Policy Violation", "Code Black", "Violence"]

/-- The outcomes of the migrations. -/
def seededOutcomes : List String :=
  ["Information Only", "Resolved On Scene", "Referred to Coordinator", "Referred to Management",
   "Referred to Community Support", "Referred to Mediation", "Follow-Up Required",
   "No Action Needed", "Taken to Big Bird", "Taken to Little Wing", "Asked to Leave", "Booted",
   "Arrested", "Transported in Ambulance", "Fire Suppressed - Fair Central",
   "Fire Suppressed - Lane Fire Authority", "Fire Suppressed - Neighbors"]

/-- A table of names under their numbers, from 1 on. -/
def numbered (names : List String) : Table Int String :=
  names.zipIdx.foldl (fun t r => t.insert (r.2 + 1) r.1) .empty

/-- The database of a fresh installation. -/
def seededDB : DB := { incidentType := numbered seededTypes, outcome := numbered seededOutcomes }

theorem usable_numbered {names : List String}
    (h : (names.all fun name => decide (Usable name)) = true) :
    ∀ id name, (numbered names).find? id = some name → Usable name := by
  have hfold : ∀ (l : List (String × Nat)) (t : Table Int String), (∀ r ∈ l, Usable r.1) →
      (∀ id name, t.find? id = some name → Usable name) → ∀ id name,
        (l.foldl (fun t r => t.insert (r.2 + 1) r.1) t).find? id = some name → Usable name := by
    intro l
    induction l with
    | nil => exact fun _ _ ht => ht
    | cons r l ih =>
        intro t hl ht
        exact ih _ (fun r' hr' => hl r' (List.mem_cons_of_mem _ hr'))
          (Table.forall_insert ht (hl r List.mem_cons_self))
  exact hfold names.zipIdx .empty
    (fun r hr => of_decide_eq_true (List.all_eq_true.mp h r.1 (List.fst_mem_of_mem_zipIdx hr)))
    fun _ _ hnone => nomatch hnone

set_option maxRecDepth 10000 in
theorem namesUsable_seeded : NamesUsable seededDB where
  reference kind := by
    have htypes : (seededTypes.all fun name => decide (Usable name)) = true := by decide +kernel
    have houtcomes : (seededOutcomes.all fun name => decide (Usable name)) = true := by
      decide +kernel
    cases kind with
    | incidentType => exact fun id name h => usable_numbered htypes id name h
    | outcome => exact fun id name h => usable_numbered houtcomes id name h
  area := fun _ _ h => nomatch h
  crew := fun _ _ h => nomatch h

/-- An administrator. -/
def namingAdmin : Option IMSClaims := some { personID := 1, handle := "Hawk", admin := true }

/-- An administrator renames the second incident type. -/
def renameFire (name : String) : NamingRequest where
  ctx := namingAdmin
  nextId := 1
  call := .reference stillReferenceEnv .incidentType (.update { id := 2, msg := { name := some name } })

/-- The administrator renames an incident type and creates an outcome, whose name is trimmed. -/
def usableRequests : List NamingRequest :=
  [renameFire "Fire and Smoke",
   { ctx := namingAdmin
     nextId := 32
     call := .reference stillReferenceEnv .outcome (.create { msg := { name := some " Left " } }) }]

theorem names_stay_usable_two :
    ∃ db, Run (namingStep id) seededDB usableRequests db ∧ NamesUsable db ∧
      db.outcome.find? 32 = some "Left" := by
  have hexec : (RunLib.exec (fun db r => if BringsUsable db r then namingStep id db r else none) seededDB
      usableRequests).isSome = true := by decide +kernel
  have hname : ((RunLib.exec (fun db r => if BringsUsable db r then namingStep id db r else none) seededDB
      usableRequests).bind fun db => db.outcome.find? 32) = some "Left" := by decide +kernel
  obtain ⟨db, hdb⟩ := Option.isSome_iff_exists.mp hexec
  rw [hdb] at hname
  have hr := runMeeting_of_exec hdb
  exact ⟨db, hr.run, names_stay_usable namesUsable_seeded hr, hname⟩

/-- An update leaves the second incident type without a name. -/
theorem names_stay_usable_unnamed :
    ¬ ∀ (rs : List NamingRequest) (db : DB), Run (namingStep id) seededDB rs db → NamesUsable db := by
  intro h
  have hblank : ((RunLib.exec (namingStep id) seededDB [renameFire ""]).bind fun db =>
      db.incidentType.find? 2) = some "" := by decide +kernel
  obtain ⟨db, hdb, hname⟩ := Option.bind_eq_some_iff.mp hblank
  exact ((h _ db (run_of_exec hdb)).reference .incidentType 2 "" hname).1 rfl

end OcfIms
