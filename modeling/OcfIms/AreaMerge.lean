import OcfIms.AreaHierarchy
import OcfIms.IncidentRuns
import OcfIms.LibTxnStep
import OcfIms.UniqueSlugs

/-!
# Merging an area into another

`markAreaDuplicate` checks on a list it has read that both areas exist and that the duplicate has no
sub-areas, and then re-points the incidents and deletes the duplicate in a transaction. What may have
changed in between is left to the foreign keys, and these look only at rows that something
references: where no incident references the duplicate, nothing in the transaction looks at the
canonical area. Two merges that cross, each into the other's duplicate, can then both succeed, and
both areas are gone.
-/

namespace OcfIms

open TxnLib RunLib

/-! ## What a merge does -/

/-- The two statements of a merge's transaction. -/
def mergeTx (e : Int) (dup canon : String) (db : DB) : Except SqlErr DB := do
  let repointed ← (AreaWrite.repointIncidentsArea canon e dup).apply 0 db
  let deleted ← (AreaWrite.deleteArea e dup).apply 0 repointed.2
  pure deleted.2

/-- An incident that referenced the duplicate references the canonical area. -/
def repointed (e : Int) (dup canon : String) (k : Int × Int) (r : Incident) : Incident :=
  if k.1 = e ∧ r.locationAreaSlug = some dup then { r with locationAreaSlug := some canon } else r

/-- The duplicate is merged into the canonical area, and nothing else has changed. -/
structure Merges (e : Int) (dup canon : String) (db db' : DB) : Prop where
  gone : db'.area.contains (e, dup) = false
  canonical : db'.area.contains (e, canon) = true
  unreferenced : db'.isIncidentArea e dup = false
  incidents : ∀ k, db'.incident.find? k = (db.incident.find? k).map (repointed e dup canon k)
  areas : ∀ k, k ≠ (e, dup) → db'.area.find? k = db.area.find? k
  frame : db' = { db with incident := db'.incident, area := db'.area }

/-- The database as a merge's transaction finds it: the canonical area is still there, or the
foreign keys refuse the transaction, because an incident would be left without its area or a
sub-area without its parent. -/
def MergeFinds (db : DB) (req : MarkAreaDuplicateRequest) : Prop :=
  db.area.contains (req.eventID, req.canonicalSlug) = true ∨
  db.isIncidentArea req.eventID req.areaSlug = true ∨
  db.area.contains (req.eventID, req.areaSlug) = true ∧
    db.isParentArea req.eventID req.areaSlug = true

instance (db : DB) (req : MarkAreaDuplicateRequest) : Decidable (MergeFinds db req) :=
  inferInstanceAs (Decidable (_ ∨ _ ∨ _ ∧ _))

/-! ## The calls -/

/-- A call on the event's areas or incidents. -/
inductive AreaRunCall
  | markAreaDuplicate (ctx : Option IMSClaims) (req : MarkAreaDuplicateRequest)
  | createArea (ctx : Option IMSClaims) (req : CreateAreaRequest)
  | updateArea (ctx : Option IMSClaims) (req : UpdateAreaRequest)
  | updateIncident (service : Service) (caller : Option IMSClaims) (req : UpdateIncidentRequest)

def AreaRunCall.call (s : AreaService) : AreaRunCall → AreaGo ConnectError Unit
  | .markAreaDuplicate ctx req => OcfIms.markAreaDuplicate s ctx req
  | .createArea ctx req => do
    let _ ← OcfIms.createArea s ctx req
  | .updateArea ctx req => OcfIms.updateArea ctx req
  | .updateIncident service caller req => Call.widen (updateIncidentRPC service caller req)

abbrev AreaSys (ι : Type) : Type 1 :=
  Sys (fun β => Read β ⊕ AreaRead β) (fun β => Write β ⊕ AreaWrite β) (fun β => Ask β ⊕ AreaAsk β)
    SqlErr (Effect ⊕ AreaEffect) DB (Except ConnectError Unit) ι

/-- A merge that is about to open its transaction finds what it needs. -/
def MergesFind {ι : Type} (calls : ι → AreaRunCall) (sys : AreaSys ι) (i : ι) : Prop :=
  match calls i with
  | .markAreaDuplicate _ req => (sys.procs i).opens = true → MergeFinds sys.world.db req
  | _ => True

instance {ι : Type} (calls : ι → AreaRunCall) (sys : AreaSys ι) (i : ι) :
    Decidable (MergesFind calls sys i) := by
  unfold MergesFind
  cases calls i <;> infer_instance

/-! ## The transaction -/

section Transaction

variable {e : Int} {dup canon : String} {db db' : DB}

/-- What the transaction leaves. -/
def merged (e : Int) (dup canon : String) (db : DB) : DB :=
  { db with incident := db.incident.mapVal (repointed e dup canon), area := db.area.erase (e, dup) }

theorem erase_of_absent {κ ρ : Type} [DecidableEq κ] {t : Table κ ρ} {k : κ}
    (h : t.find? k = none) : t.erase k = t := by
  refine Table.ext (List.filter_eq_self.mpr fun r hr => decide_eq_true fun hk => ?_)
  exact Table.find?_eq_none_iff.mp h r.2 (hk ▸ hr)

/-- No incident is left referencing the duplicate. -/
theorem isIncidentArea_repointed (hne : canon ≠ dup) :
    DB.isIncidentArea { db with incident := db.incident.mapVal (repointed e dup canon) } e dup =
      false := by
  refine List.any_eq_false.mpr fun r hr => ?_
  obtain ⟨r₀, -, rfl⟩ := List.mem_map.mp hr
  simp only [repointed, Bool.and_eq_true, beq_iff_eq, not_and]
  rintro rfl
  split
  · exact fun h => hne (Option.some.inj h)
  · rename_i hother
    exact fun h => hother ⟨rfl, h⟩

theorem apply_deleteArea (id : Int) : (AreaWrite.deleteArea e dup).apply id db =
    DB.unreferenced (db.area.contains (e, dup) && db.isParentArea e dup)
      (DB.unreferenced (db.area.contains (e, dup) && db.isIncidentArea e dup)
        (.ok ((), { db with area := db.area.erase (e, dup) }))) := by
  rw [AreaWrite.apply, Table.contains]
  cases hrow : db.area.find? (e, dup) with
  | none =>
      rw [erase_of_absent hrow]
      rfl
  | some row => rfl

/-- The foreign keys decide whether the transaction is carried out. -/
theorem mergeTx_eq (hne : canon ≠ dup) : mergeTx e dup canon db =
    DB.references (!db.isIncidentArea e dup || db.area.contains (e, canon))
      (DB.unreferenced (db.area.contains (e, dup) && db.isParentArea e dup)
        (.ok (merged e dup canon db))) := by
  let db₁ : DB := { db with incident := db.incident.mapVal (repointed e dup canon) }
  have hunref : db₁.isIncidentArea e dup = false := isIncidentArea_repointed hne
  have hrepoint : (AreaWrite.repointIncidentsArea canon e dup).apply 0 db =
      DB.references (!db.isIncidentArea e dup || db.area.contains (e, canon)) (.ok ((), db₁)) := rfl
  rw [mergeTx, hrepoint]
  cases !db.isIncidentArea e dup || db.area.contains (e, canon) with
  | false => rfl
  | true =>
      change ((AreaWrite.deleteArea e dup).apply 0 db₁ >>= fun deleted => pure deleted.2) = _
      have hchild : (db₁.area.contains (e, dup) && db₁.isParentArea e dup) =
          (db.area.contains (e, dup) && db.isParentArea e dup) := rfl
      rw [apply_deleteArea, hunref, Bool.and_false, hchild]
      cases db.area.contains (e, dup) && db.isParentArea e dup <;> rfl

theorem mergeTx_eq_ok (hne : canon ≠ dup) : mergeTx e dup canon db = .ok db' ↔
    (db.isIncidentArea e dup = true → db.area.contains (e, canon) = true) ∧
    (db.area.contains (e, dup) = true → db.isParentArea e dup = false) ∧
    merged e dup canon db = db' := by
  rw [mergeTx_eq hne, DB.references_eq_ok, DB.unreferenced_eq_ok, Except.ok.injEq]
  refine and_congr ?_ (and_congr ?_ Iff.rfl)
  · cases db.isIncidentArea e dup <;> simp
  · cases db.area.contains (e, dup) <;> simp

/-- What refuses the transaction is a foreign key. -/
theorem mergeTx_error (hne : canon ≠ dup) {err : SqlErr} (h : mergeTx e dup canon db = .error err) :
    err = .mysql 1452 ∨ err = .mysql 1451 := by
  rw [mergeTx_eq hne, DB.references, DB.unreferenced] at h
  split at h
  · split at h
    · cases h
      exact Or.inr rfl
    · cases h
  · cases h
    exact Or.inl rfl

/-- A transaction that is carried out on what it needs has its canonical area. -/
theorem canonical_of_mergeTx {req : MarkAreaDuplicateRequest}
    (hne : req.canonicalSlug ≠ req.areaSlug) (hfinds : MergeFinds db req)
    (h : mergeTx req.eventID req.areaSlug req.canonicalSlug db = .ok db') :
    db.area.contains (req.eventID, req.canonicalSlug) = true := by
  obtain ⟨hincident, hchild, -⟩ := (mergeTx_eq_ok hne).mp h
  rcases hfinds with hcanon | href | ⟨hthere, hparent⟩
  · exact hcanon
  · exact hincident href
  · exact absurd hparent (by rw [hchild hthere]; exact Bool.false_ne_true)

/-- Such a transaction merges the areas. -/
theorem merges_of_mergeTx {req : MarkAreaDuplicateRequest}
    (hne : req.canonicalSlug ≠ req.areaSlug) (hfinds : MergeFinds db req)
    (h : mergeTx req.eventID req.areaSlug req.canonicalSlug db = .ok db') :
    Merges req.eventID req.areaSlug req.canonicalSlug db db' := by
  have hcanon := canonical_of_mergeTx hne hfinds h
  obtain ⟨-, -, rfl⟩ := (mergeTx_eq_ok hne).mp h
  refine ⟨?_, ?_, isIncidentArea_repointed hne, fun k => Table.find?_mapVal _ _ k, fun k hk => ?_, rfl⟩
  · refine Table.contains_eq_false_iff.mpr ?_
    exact (Table.find?_erase _ _ _).trans (if_pos rfl)
  · obtain ⟨row, hrow⟩ := Table.contains_iff.mp hcanon
    refine Table.contains_iff.mpr ⟨row, ?_⟩
    refine (Table.find?_erase _ _ _).trans ?_
    rw [if_neg fun hk => hne (congrArg Prod.snd hk), hrow]
  · exact (Table.find?_erase _ _ _).trans (if_neg hk)

end Transaction

/-! ## The steps of a merge -/

section Steps

-- Strings are not to be evaluated while programs are compared.
attribute [local irreducible] trimSpace

variable {sortKey : String → String} {env : AreaEnv} {s : AreaService} {w : AreaWorld} {db : DB}

/-- A statement inside the transaction. -/
theorem run_areaExec_txn (sortKey : String → String) (env : AreaEnv) {ε α : Type}
    (q : AreaWrite α) (err : SqlErr → ε) (hw : w.txn = some db) : ∃ r w₁, (areaExec .txn q err).run (areaDB sortKey) env w = (r, w₁) ∧
      ((∃ b db', q.apply w.nextId db = .ok (b, db') ∧ r = .ok b ∧ w₁.txn = some db') ∨
      ∃ cause, r = .error (err cause) ∧
        ((∃ n f, env.fault n = some f) ∨ q.apply w.nextId db = .error cause)) := by
  rw [areaExec, Call.run_mapErr, Call.run_attempt]
  cases hf : env.fault w.tick with
  | some f =>
      simp only [step, hf]
      exact ⟨_, _, rfl, Or.inr ⟨_, rfl, Or.inl ⟨_, f, hf⟩⟩⟩
  | none =>
      simp only [step, hf, World.view_txn, hw]
      cases happly : q.apply w.nextId db with
      | error cause =>
          have happly' : (areaDB sortKey).apply (.inr q) w.nextId db = .error cause := happly
          rw [happly']
          exact ⟨_, _, rfl, Or.inr ⟨cause, rfl, Or.inr rfl⟩⟩
      | ok r =>
          have happly' : (areaDB sortKey).apply (.inr q) w.nextId db = .ok r := happly
          rw [happly']
          exact ⟨_, _, rfl, Or.inl ⟨r.1, r.2, rfl, rfl, rfl⟩⟩

/-- The body of the transaction does what its statements do, if nothing fails from outside. -/
theorem run_mergeArea (sortKey : String → String) (env : AreaEnv) (e : Int) (dup canon : String)
    (hw : w.txn = some db) :
    ∃ r w₁, (mergeArea e dup canon).run (areaDB sortKey) env w = (r, w₁) ∧
      ((∃ db', mergeTx e dup canon db = .ok db' ∧ r = .ok () ∧ w₁.txn = some db') ∨
      ∃ err cause, r = .error err ∧ err.cause = some cause ∧
        ((∃ n f, env.fault n = some f) ∨ mergeTx e dup canon db = .error cause)) := by
  obtain ⟨r, w₁, hrun, h⟩ := run_areaExec_txn sortKey env (.repointIncidentsArea canon e dup)
    (fun err => ({ wire := internalError "failed to re-point incidents" err, cause := some err } :
      CausedError)) hw
  rcases h with ⟨b, db₁, happly, rfl, htxn⟩ | ⟨cause, rfl, h⟩
  · rw [mergeArea, Call.run_bind_ok hrun]
    obtain ⟨r, w₂, hrun, h⟩ := run_areaExec_txn sortKey env (.deleteArea e dup)
      (fun err => ({ wire := internalError "failed to delete duplicate area" err, cause := some err } :
        CausedError)) htxn
    refine ⟨r, w₂, hrun, ?_⟩
    have happly₀ : (AreaWrite.repointIncidentsArea canon e dup).apply 0 db = .ok (b, db₁) := happly
    rcases h with ⟨b, db₂, happly', rfl, htxn⟩ | ⟨cause, rfl, h⟩
    · refine Or.inl ⟨db₂, ?_, rfl, htxn⟩
      have happly₁ : (AreaWrite.deleteArea e dup).apply 0 db₁ = .ok (b, db₂) := happly'
      rw [mergeTx, happly₀]
      change ((AreaWrite.deleteArea e dup).apply 0 db₁ >>= _) = _
      rw [happly₁]
      rfl
    · refine Or.inr ⟨_, cause, rfl, rfl, h.imp_right fun h => ?_⟩
      have happly₁ : (AreaWrite.deleteArea e dup).apply 0 db₁ = .error cause := h
      rw [mergeTx, happly₀]
      change ((AreaWrite.deleteArea e dup).apply 0 db₁ >>= _) = _
      rw [happly₁]
      rfl
  · rw [mergeArea, Call.run_bind_error hrun]
    refine ⟨_, w₁, rfl, Or.inr ⟨_, cause, rfl, rfl, h.imp_right fun h => ?_⟩⟩
    have happly₀ : (AreaWrite.repointIncidentsArea canon e dup).apply 0 db = .error cause := h
    rw [mergeTx, happly₀]
    rfl

/-- Why a merge is refused on the list it has read. -/
def mergeRefusal (existing : List AreaRow) (dup canon : String) : Option ConnectError :=
  if !existing.any fun a => a.slug == dup then some ⟨.notFound, "No such Area"⟩
  else if !existing.any fun a => a.slug == canon then
    some ⟨.invalidArgument, "The canonical area does not exist in this event"⟩
  else if existing.any fun a => a.area.parentSlug == some dup then
    some ⟨.invalidArgument,
      "Reparent or remove this area's sub-areas before marking it a duplicate"⟩
  else none

abbrev AreaProg : Type 1 := Prog AreaOp (Except ConnectError Unit)

/-- What follows the transaction. -/
def afterMerge (req : MarkAreaDuplicateRequest) : Except CausedError Unit → AreaProg :=
  Call.andThen CausedError.wire fun _ => invalidateAreaCaches req.eventID

/-- The merge with its transaction to come, and so many attempts at it. -/
def merging (s : AreaService) (req : MarkAreaDuplicateRequest) (retries : Nat) : AreaProg :=
  (Call.runInTx (fun err => { wire := ⟨.unknown, s.errorText err⟩, cause := some err })
    CausedError.retryable (mergeArea req.eventID req.areaSlug req.canonicalSlug) retries).prog >>=
      afterMerge req

/-- What a merge does with the list it has read. -/
def afterFetch (s : AreaService) (req : MarkAreaDuplicateRequest) (existing : List AreaRow) :
    AreaGo ConnectError Unit := do
  Call.ensure (existing.any fun a => a.slug == req.areaSlug) ⟨.notFound, "No such Area"⟩
  Call.ensure (existing.any fun a => a.slug == req.canonicalSlug)
    ⟨.invalidArgument, "The canonical area does not exist in this event"⟩
  Call.ensure (!existing.any fun a => a.area.parentSlug == some req.areaSlug)
    ⟨.invalidArgument,
      "Reparent or remove this area's sub-areas before marking it a duplicate"⟩
  Call.mapErr CausedError.wire (Call.runInTx
    (fun err => { wire := ⟨.unknown, s.errorText err⟩, cause := some err }) CausedError.retryable
    (mergeArea req.eventID req.areaSlug req.canonicalSlug) 3)
  invalidateAreaCaches req.eventID

theorem markAreaDuplicate_eq (ctx : Option IMSClaims) (req : MarkAreaDuplicateRequest) :
    markAreaDuplicate s ctx req = (do
      requireAreaAdmin ctx req.eventID
      Call.ensure (req.canonicalSlug != "")
        ⟨.invalidArgument, "A canonical area slug is required"⟩
      Call.ensure (req.canonicalSlug != req.areaSlug)
        ⟨.invalidArgument, "An area cannot be a duplicate of itself"⟩
      let existing ← fetchAreas req.eventID
      afterFetch s req existing) := rfl

theorem prog_afterFetch (req : MarkAreaDuplicateRequest) (existing : List AreaRow) :
    (afterFetch s req existing).prog =
      match mergeRefusal existing req.areaSlug req.canonicalSlug with
      | some err => .ret (.error err)
      | none => merging s req 3 := by
  rw [afterFetch, mergeRefusal]
  cases existing.any fun a => a.slug == req.areaSlug with
  | false => rfl
  | true =>
      cases existing.any fun a => a.slug == req.canonicalSlug with
      | false => rfl
      | true =>
          cases existing.any fun a => a.area.parentSlug == some req.areaSlug with
          | true => rfl
          | false => exact Call.prog_mapErr_bind _ _ _

theorem writesIn_mergeArea (e : Int) (dup canon : String) :
    (mergeArea e dup canon).Every anyAnswer (writesIn Call.sparesPool) (fun _ => True)
      fun _ => True := by
  refine Call.every_bind (Q := fun _ => True) ?_ fun _ _ => ?_ <;>
  exact Call.every_mapErr (Call.every_attempt trivial (fun _ _ => trivial) fun _ _ => trivial)

/-- A step at the transaction carries the merge out, or leaves the store alone. -/
theorem burst_merging (sortKey : String → String) (env : AreaEnv) (s : AreaService)
    (req : MarkAreaDuplicateRequest) (hw : w.txn = none) (retries : Nat) :
    let next := (merging s req retries).burst (areaDB sortKey) env w
    (next.2.db = w.db ∧ ((∃ err, next.1 = .ret (.error err)) ∨ ∃ n, next.1 = merging s req n)) ∨
    mergeTx req.eventID req.areaSlug req.canonicalSlug w.db = .ok next.2.db ∧
      next.1 = (invalidateAreaCaches req.eventID).prog := by
  have hburst := @burst_runInTx _ _ _ _ _ _ _ _ _ (areaDB sortKey) env w _ (fun _ _ h => h)
    (fun err => { wire := ⟨.unknown, s.errorText err⟩, cause := some err }) CausedError.retryable _ _
    _ (writesIn_mergeArea req.eventID req.areaSlug req.canonicalSlug) (afterMerge req) hw retries
  rcases hburst with ⟨err, -, hdb, hnext⟩ | ⟨a, w₁, hrun, htxn, hnext⟩
  · refine Or.inl ⟨hdb, hnext.imp (fun h => ⟨err.wire, h⟩) fun h => h.2⟩
  · have hopen : ({ w.tock with txn := some w.db } : AreaWorld).txn = some w.db := rfl
    obtain ⟨r, w₂, hrun', h⟩ :=
      run_mergeArea sortKey env req.eventID req.areaSlug req.canonicalSlug hopen
    rw [hrun] at hrun'
    cases hrun'
    rcases h with ⟨db', hmerge, -, htxn'⟩ | ⟨err, cause, hr, -⟩
    · obtain rfl := Option.some.inj (htxn.symm.trans htxn')
      exact Or.inr ⟨hmerge, hnext⟩
    · cases hr

/-! ### Up to the transaction -/

/-- The caller may merge areas, and the request names another area to merge into. -/
def mergeAllowed (ctx : Option IMSClaims) (req : MarkAreaDuplicateRequest) : Bool :=
  (ctx.any fun claims =>
    hasBit (globalPermissions claims.handle claims.admin) globalAdministrateAreas) &&
  req.canonicalSlug != "" && req.canonicalSlug != req.areaSlug

/-- The merge has its transaction to come. -/
def AtMerge (s : AreaService) (req : MarkAreaDuplicateRequest) (x : AreaProg) : Prop :=
  req.canonicalSlug ≠ req.areaSlug ∧ ∃ n, x = merging s req n

def AnswersError (r : Except ConnectError Unit) : Prop := ∃ err, r = .error err

theorem opens_merging (req : MarkAreaDuplicateRequest) (n : Nat) :
    (merging s req n).opens = true :=
  opens_runInTx _ _ _ _ n

theorem idle_widen {A : ∀ β : Type, AreaOp β → β → Prop} {ε α : Type} {x : Go ε α}
    (hx : Within anyAnswer Call.noWrite x) : (Call.widen x : AreaGo ε α).Every A idle (fun _ => True)
      fun _ => True := by
  refine Call.every_widen (fun β o ho => ?_) (fun _ _ _ _ => trivial) hx.idle_of_noWrite
  cases o with
  | write c q => exact ho.elim
  | begin => exact ho.elim
  | _ => trivial

theorem idle_requireAreaAdmin {A : ∀ β : Type, AreaOp β → β → Prop} (ctx : Option IMSClaims)
    (e : Int) : (requireAreaAdmin ctx e).Every A idle (fun _ => True) fun _ => True := by
  refine Call.every_bind (idle_widen ?_) fun _ _ => Call.every_ensure (fun _ => trivial)
    fun _ => trivial
  exact (within_authenticated ctx).bind fun claims =>
    (within_eventPermissions _ _).mapErr.bind fun _ => within_pure _

theorem idle_invalidateAreaCaches (e : Int) :
    (invalidateAreaCaches e).Every anyAnswer idle (fun _ => False) fun _ => True := by
  refine Call.every_bind (Q := fun _ => True) (Call.every_perform trivial fun _ _ => trivial)
    fun _ _ => ?_
  refine Call.every_bind (Q := fun _ => True) ?_ fun r _ => ?_
  · exact Call.Every.mono (Call.every_result (idle_widen (within_select _ _ _))) (fun _ _ _ h => h)
      (fun _ _ h => h) (fun _ h => h) fun _ _ => trivial
  · cases r with
    | ok ev => exact Call.every_perform trivial fun _ _ => trivial
    | error err => exact Call.every_pure trivial

/-- A merge is idle up to its transaction, or fails. -/
theorem until_markAreaDuplicate (ctx : Option IMSClaims) (req : MarkAreaDuplicateRequest) :
    (markAreaDuplicate s ctx req).prog.Until (areaDB sortKey) env (AtMerge s req) AnswersError := by
  have hrefused : ∀ err : ConnectError, True → AnswersError (.error err) := fun err _ => ⟨err, rfl⟩
  rw [markAreaDuplicate_eq]
  refine Call.until_bind (idle_requireAreaAdmin _ _) hrefused fun _ _ => ?_
  refine Call.until_bind (R := fun _ => True) (Call.every_ensure (fun _ => trivial)
    fun _ => trivial) hrefused fun _ _ => ?_
  refine Call.until_bind (Call.every_ensure_true trivial) hrefused fun _ hne => ?_
  have hfetch : (fetchAreas req.eventID).Every (answersFrom (areaDB sortKey) env fun _ => True) idle
      (fun _ => True) fun _ => True :=
    Call.every_mapErr (Call.every_attempt trivial (fun _ _ => trivial) fun _ _ => trivial)
  refine Call.until_bind hfetch hrefused fun existing _ => ?_
  rw [prog_afterFetch]
  cases mergeRefusal existing req.areaSlug req.canonicalSlug with
  | some err => exact ⟨err, rfl⟩
  | none => exact Prog.until_of_opens ⟨by simpa using hne, 3, rfl⟩ (opens_merging req 3)

/-- The merge has been carried out, and is about to say so. -/
def Carried (x : AreaProg) : Prop :=
  x.Every anyAnswer idle (Call.Outcome (fun _ => False) fun _ => True)

theorem Carried.burst (sortKey : String → String) (env : AreaEnv) {x : AreaProg} (hx : Carried x)
    (hw : w.txn = none) : Carried (x.burst (areaDB sortKey) env w).1 ∧
      (x.burst (areaDB sortKey) env w).2.db = w.db :=
  burst_idle hx hw

/-! ### One merge among other calls -/

/-- What a run has come to for one merge. -/
inductive MergePhase (sortKey : String → String) (env : AreaEnv) (s : AreaService)
    (req : MarkAreaDuplicateRequest) {ι : Type} [DecidableEq ι] (sys₀ : AreaSys ι) (i : ι)
    (as : List ι) (x : AreaProg) : Prop
  | waiting (hx : x.Until (areaDB sortKey) env (AtMerge s req) AnswersError)
      (hstill : Still (Sys.turn (areaDB sortKey) env) (fun sys => sys.world.db) sys₀ as i)
  | done (hx : Carried x)
      (honce : Once (Sys.turn (areaDB sortKey) env) (fun sys => sys.world.db)
        (fun sys sys' => Merges req.eventID req.areaSlug req.canonicalSlug sys.world.db
          sys'.world.db) sys₀ as i)

variable {ι : Type} [DecidableEq ι] {req : MarkAreaDuplicateRequest} {sys₀ sys sys' : AreaSys ι}
  {as : List ι} {i j : ι}

/-- A step of another call. -/
theorem MergePhase.other (h : MergePhase sortKey env s req sys₀ i as (sys.procs i))
    (hr : Run (Sys.turn (areaDB sortKey) env) sys₀ as sys)
    (hs : sys.turn (areaDB sortKey) env j = some sys') (hne : i ≠ j) :
    MergePhase sortKey env s req sys₀ i (as ++ [j]) (sys'.procs i) := by
  have hprocs : sys'.procs i = sys.procs i := by
    obtain ⟨-, rfl⟩ := turn_eq_some.mp hs
    exact Function.update_of_ne hne _ _
  rw [hprocs]
  cases h with
  | waiting hx hstill => exact .waiting hx (hstill.snoc hr hs fun h => absurd h hne)
  | done hx honce => exact .done hx (honce.snoc hr hs fun h => absurd h hne)

/-- A step of the merge itself. -/
theorem MergePhase.step (h : MergePhase sortKey env s req sys₀ i as (sys.procs i))
    (hr : Run (Sys.turn (areaDB sortKey) env) sys₀ as sys) (htxn : sys.world.txn = none)
    (hs : sys.turn (areaDB sortKey) env i = some sys')
    (hfinds : (sys.procs i).opens = true → MergeFinds sys.world.db req) :
    MergePhase sortKey env s req sys₀ i (as ++ [i]) (sys'.procs i) := by
  have hnext : sys'.procs i = ((sys.procs i).burst (areaDB sortKey) env sys.world).1 ∧
      sys'.world = ((sys.procs i).burst (areaDB sortKey) env sys.world).2 := by
    obtain ⟨-, rfl⟩ := turn_eq_some.mp hs
    exact ⟨Function.update_self _ _ _, rfl⟩
  rw [hnext.1]
  cases h with
  | waiting hx hstill =>
      rcases hx.burst htxn with ⟨hne, n, hmerging⟩ | ⟨hrest, hdb⟩
      · rw [hmerging] at hfinds hnext ⊢
        rcases burst_merging sortKey env s req htxn n with ⟨hdb, hrest⟩ | ⟨hmerge, hrest⟩
        · have hobs : i = i → sys'.world.db = sys.world.db := fun _ => by rw [hnext.2, hdb]
          refine .waiting ?_ (hstill.snoc hr hs hobs)
          rcases hrest with ⟨err, herr⟩ | ⟨m, hm⟩
          · rw [herr]
            exact ⟨err, rfl⟩
          · rw [hm]
            exact Prog.until_of_opens ⟨hne, m, rfl⟩ (opens_merging req m)
        · rw [← hnext.2] at hmerge
          rw [hrest]
          refine .done (idle_invalidateAreaCaches _) (hstill.once hr hs ?_)
          exact merges_of_mergeTx hne (hfinds (opens_merging req n)) hmerge
      · exact .waiting hrest (hstill.snoc hr hs fun _ => by rw [hnext.2, hdb])
  | done hx honce =>
      obtain ⟨hrest, hdb⟩ := Carried.burst sortKey env hx htxn
      exact .done hrest (honce.snoc hr hs fun _ => by rw [hnext.2, hdb])

/-- Where every merge finds what it needs when it opens its transaction, each is carried out in one
step, or changes nothing. -/
theorem mergePhase_of_run {calls : ι → AreaRunCall}
    (hprocs : ∀ i, sys₀.procs i = ((calls i).call s).prog) (htxn : sys₀.world.txn = none)
    (hrun : RunMeeting (Sys.turn (areaDB sortKey) env) (MergesFind calls) sys₀ as sys)
    {ctx : Option IMSClaims} (hcall : calls i = .markAreaDuplicate ctx req) :
    MergePhase sortKey env s req sys₀ i as (sys.procs i) := by
  have h : Run (Sys.turn (areaDB sortKey) env) sys₀ as sys ∧ sys.world.txn = none ∧
      MergePhase sortKey env s req sys₀ i as (sys.procs i) := by
    refine hrun.invariant (I := fun as sys => Run (Sys.turn (areaDB sortKey) env) sys₀ as sys ∧
      sys.world.txn = none ∧ MergePhase sortKey env s req sys₀ i as (sys.procs i)) ⟨.start, htxn, ?_⟩ ?_
    · rw [hprocs, hcall]
      exact .waiting (until_markAreaDuplicate ctx req) (still_nil _ _ _ _)
    · rintro as sys j sys' ⟨hr, htxn, hphase⟩ hC hs
      have htxn' : sys'.world.txn = none := by
        obtain ⟨-, rfl⟩ := turn_eq_some.mp hs
        exact burst_txn _ _
      refine ⟨hr.next hs, htxn', ?_⟩
      by_cases hij : i = j
      · subst hij
        refine hphase.step hr htxn hs ?_
        rw [MergesFind, hcall] at hC
        exact hC
      · exact hphase.other hr hs hij
  exact h.2.2

end Steps

end OcfIms
