import OcfIms.Area
import OcfIms.Contracts
import OcfIms.LibSched
import OcfIms.StoreEffects

/-!
# Areas are nested one level deep

The parent of an area is an area of the same event that has no parent. A new area and a reparented
one take only such a parent, and an area that is somebody's parent is never removed. But an update
may give a parent to an area that has sub-areas itself, which then lie two levels deep. Without such
an update every reachable area set is one level deep, and then it can be copied to a new event: the
top-level rows first, then the others, each of whose parents is there already.
-/

namespace OcfIms

open TxnLib RunLib

/-! ## Sound area sets -/

/-- Every area's parent is an area of its event, and has no parent itself. -/
def OneLevel (db : DB) : Prop :=
  ∀ e slug a parent, db.area.find? (e, slug) = some a → a.parentSlug = some parent →
    ∃ b, db.area.find? (e, parent) = some b ∧ b.parentSlug = none

/-- The row fits its columns, and its proposer is in the registry. -/
structure AreaFits (person : Table Int Person) (slug : String) (a : Area) : Prop where
  slug : slug.length ≤ 128
  name : a.name.length ≤ 255
  proposer : DB.nullOr person a.proposedByPersonID = true

structure AreasSound (db : DB) : Prop where
  oneLevel : OneLevel db
  fits : ∀ e slug a, db.area.find? (e, slug) = some a → AreaFits db.person slug a

/-- The area of the event that `slug` may be given as a parent. -/
def MayBeParent (db : DB) (e : Int) (slug parent : String) : Prop :=
  parent ≠ slug ∧ ∃ b, db.area.find? (e, parent) = some b ∧ b.parentSlug = none

theorem DB.isParentArea_eq_false {db : DB} {e : Int} {slug : String} :
    db.isParentArea e slug = false ↔
      ∀ slug' a, db.area.find? (e, slug') = some a → a.parentSlug ≠ some slug := by
  rw [DB.isParentArea, List.any_eq_false]
  constructor
  · intro h slug' a ha hparent
    exact h ((e, slug'), a) (Table.find?_eq_some_iff.mp ha) (by simp [hparent])
  · rintro h ⟨⟨e', slug'⟩, a⟩ hmem hcond
    obtain ⟨he, hparent⟩ := Bool.and_eq_true_iff.mp hcond
    obtain rfl : e' = e := eq_of_beq he
    exact h slug' a (Table.find?_eq_some_iff.mpr hmem) (eq_of_beq hparent)

/-- The rows a query for the event's areas finds. -/
theorem DB.mem_areas {sortKey : String → String} {db : DB} {e : Int} {row : AreaRow} :
    row ∈ db.areas sortKey e ↔ db.area.find? (e, row.slug) = some row.area := by
  rw [DB.areas, List.mem_insertionSort, List.mem_filterMap, Table.find?_eq_some_iff]
  constructor
  · rintro ⟨⟨⟨e', slug⟩, a⟩, hmem, hrow⟩
    dsimp only at hrow
    split at hrow
    · rename_i he
      cases hrow
      rw [← he]
      exact hmem
    · cases hrow
  · intro hmem
    exact ⟨((e, row.slug), row.area), hmem, by simp⟩

theorem DB.nodup_areas (sortKey : String → String) (db : DB) (e : Int) :
    ((db.areas sortKey e).map (·.slug)).Nodup := by
  have hperm := (List.perm_insertionSort (areaBefore sortKey)
    (db.area.rows.filterMap fun r => if r.1.1 = e then some (⟨r.1.2, r.2⟩ : AreaRow) else none)).map
      (·.slug)
  refine hperm.nodup_iff.mpr ?_
  have hkeys := db.area.nodup
  generalize db.area.rows = rows at hkeys
  induction rows with
  | nil => exact List.nodup_nil
  | cons r rows ih =>
      obtain ⟨⟨e', slug⟩, a⟩ := r
      rw [List.map_cons, List.nodup_cons] at hkeys
      have ih := ih hkeys.2
      by_cases he : e' = e
      · subst he
        rw [List.filterMap_cons_some (by rw [if_pos rfl]), List.map_cons, List.nodup_cons]
        refine ⟨fun hmem => hkeys.1 ?_, ih⟩
        obtain ⟨row, hrow, hslug⟩ := List.mem_map.mp hmem
        obtain ⟨⟨⟨e'', slug'⟩, a'⟩, hmem', hsome⟩ := List.mem_filterMap.mp hrow
        dsimp only at hsome
        split at hsome
        · rename_i he
          cases hsome
          dsimp only at he hslug
          rw [← he, ← hslug]
          exact List.mem_map.mpr ⟨_, hmem', rfl⟩
        · cases hsome
      · rwa [List.filterMap_cons_none (by rw [if_neg he])]

/-! ## What the statements keep -/

section Statements

variable {sortKey : String → String} {β : Type} {id : Int} {db db' : DB} {b : β}

theorem AreasSound.of_eq (h : AreasSound db)
    (harea : ∀ k, db'.area.find? k = db.area.find? k) (hperson : db'.person = db.person) :
    AreasSound db' := by
  constructor
  · intro e slug a parent
    rw [harea, harea]
    exact h.oneLevel e slug a parent
  · intro e slug a ha
    rw [harea] at ha
    obtain ⟨hslug, hname, hproposer⟩ := h.fits e slug a ha
    exact ⟨hslug, hname, by rwa [hperson]⟩

theorem AreasSound.insert {p : CreateAreaParams} (h : AreasSound db)
    (hparent : ∀ parent, p.area.parentSlug = some parent → MayBeParent db p.event "" parent)
    (hinsert : DB.insertArea p db = .ok db') : AreasSound db' := by
  simp only [DB.insertArea, DB.column_eq_ok, DB.unique_eq_ok, DB.references_eq_ok] at hinsert
  obtain ⟨hslug, hname, hnew, -, -, hproposer, ⟨⟩⟩ := hinsert
  have hstays : ∀ {e slug a}, db.area.find? (e, slug) = some a →
      (db.area.insert (p.event, p.slug) p.area).find? (e, slug) = some a := by
    intro e slug a ha
    rw [Table.find?_insert hnew, if_neg ?_, ha]
    intro hkey
    rw [hkey, Table.contains_eq_false_iff.mp hnew] at ha
    cases ha
  constructor
  · intro e slug a parent ha hp
    change (db.area.insert (p.event, p.slug) p.area).find? (e, slug) = some a at ha
    rw [Table.find?_insert hnew] at ha
    split at ha
    · rename_i hkey
      cases ha
      cases hkey
      obtain ⟨-, b, hb, htop⟩ := hparent parent hp
      exact ⟨b, hstays hb, htop⟩
    · obtain ⟨b, hb, htop⟩ := h.oneLevel e slug a parent ha hp
      exact ⟨b, hstays hb, htop⟩
  · intro e slug a ha
    change (db.area.insert (p.event, p.slug) p.area).find? (e, slug) = some a at ha
    rw [Table.find?_insert hnew] at ha
    split at ha
    · rename_i hkey
      cases ha
      cases hkey
      exact ⟨hslug, hname, hproposer⟩
    · exact h.fits e slug a ha

/-- Rewriting a row keeps the set sound if the row stays within its columns, and its new parent is
the old one, or none, or a top-level area while it is itself nobody's parent. -/
theorem AreasSound.modify {e : Int} {slug : String} {row : Area} {f : Area → Area}
    (h : AreasSound db) (hrow : db.area.find? (e, slug) = some row)
    (hfits : AreaFits db.person slug (f row))
    (hparent : (f row).parentSlug = row.parentSlug ∨ (f row).parentSlug = none ∨
      ∃ parent, (f row).parentSlug = some parent ∧ MayBeParent db e slug parent ∧
        db.isParentArea e slug = false) :
    AreasSound { db with area := db.area.modify (e, slug) f } := by
  have hother : ∀ {k a}, k ≠ (e, slug) → db.area.find? k = some a →
      (db.area.modify (e, slug) f).find? k = some a := by
    intro k a hk ha
    rwa [Table.find?_modify, if_neg hk]
  have hself : (db.area.modify (e, slug) f).find? (e, slug) = some (f row) := by
    rw [Table.find?_modify, if_pos rfl, hrow]
    rfl
  constructor
  · intro e' slug' a parent ha hp
    by_cases hkey : (e', slug') = (e, slug)
    · obtain ⟨rfl, rfl⟩ := Prod.ext_iff.mp hkey
      have ha' := hself.symm.trans ha
      cases ha'
      have hmay : MayBeParent db e' slug' parent := by
        rcases hparent with hsame | hnone | ⟨q, hq, hmay, -⟩
        · rw [hsame] at hp
          obtain ⟨b, hb, htop⟩ := h.oneLevel e' slug' row parent hrow hp
          refine ⟨?_, b, hb, htop⟩
          rintro rfl
          rw [hrow] at hb
          cases hb
          rw [htop] at hp
          cases hp
        · rw [hnone] at hp
          cases hp
        · rw [hq] at hp
          cases hp
          exact hmay
      obtain ⟨hne, b, hb, htop⟩ := hmay
      exact ⟨b, hother (fun hk => hne (Prod.ext_iff.mp hk).2) hb, htop⟩
    · change (db.area.modify (e, slug) f).find? (e', slug') = some a at ha
      rw [Table.find?_modify, if_neg hkey] at ha
      obtain ⟨b, hb, htop⟩ := h.oneLevel e' slug' a parent ha hp
      by_cases hpkey : (e', parent) = (e, slug)
      · obtain ⟨rfl, rfl⟩ := Prod.ext_iff.mp hpkey
        refine ⟨f row, hself, ?_⟩
        rw [hrow] at hb
        cases hb
        rcases hparent with hsame | hnone | ⟨q, -, -, hchildless⟩
        · rw [hsame, htop]
        · exact hnone
        · exact absurd hp (DB.isParentArea_eq_false.mp hchildless slug' a ha)
      · exact ⟨b, hother hpkey hb, htop⟩
  · intro e' slug' a ha
    change (db.area.modify (e, slug) f).find? (e', slug') = some a at ha
    by_cases hkey : (e', slug') = (e, slug)
    · rw [hkey, hself] at ha
      cases ha
      obtain ⟨-, rfl⟩ := Prod.ext_iff.mp hkey
      exact ⟨hfits.slug, hfits.name, hfits.proposer⟩
    · rw [Table.find?_modify, if_neg hkey] at ha
      exact h.fits e' slug' a ha

theorem AreasSound.erase {e : Int} {slug : String} (h : AreasSound db)
    (hchildless : db.isParentArea e slug = false) :
    AreasSound { db with area := db.area.erase (e, slug) } := by
  constructor
  · intro e' slug' a parent ha hp
    change (db.area.erase (e, slug)).find? (e', slug') = some a at ha
    rw [Table.find?_erase] at ha
    split at ha
    · cases ha
    · obtain ⟨b, hb, htop⟩ := h.oneLevel e' slug' a parent ha hp
      refine ⟨b, ?_, htop⟩
      change (db.area.erase (e, slug)).find? (e', parent) = some b
      rw [Table.find?_erase, if_neg ?_, hb]
      intro hkey
      obtain ⟨rfl, rfl⟩ := Prod.ext_iff.mp hkey
      exact DB.isParentArea_eq_false.mp hchildless slug' a ha hp
  · intro e' slug' a ha
    change (db.area.erase (e, slug)).find? (e', slug') = some a at ha
    rw [Table.find?_erase] at ha
    split at ha
    · cases ha
    · exact h.fits e' slug' a ha

/-- The statements other than the two that set a parent. -/
def setsNoParent : Conn → ∀ β : Type, Write β ⊕ AreaWrite β → Prop
  | _, _, .inr (.createArea _) => False
  | _, _, .inr (.updateArea _) => False
  | _, _, _ => True

theorem AreasSound.apply {c : Conn} {q : Write β ⊕ AreaWrite β} (h : AreasSound db)
    (hq : setsNoParent c β q) (happly : (areaDB sortKey).apply q id db = .ok (b, db')) :
    AreasSound db' := by
  rcases q with q | q
  · replace happly : q.apply id db = .ok (b, db') := happly
    cases Write.effect_of_apply happly <;> exact h.of_eq (fun _ => rfl) rfl
  · cases q with
    | createArea p => exact hq.elim
    | updateArea p => exact hq.elim
    | approveArea e slug =>
        cases happly
        cases hrow : db.area.find? (e, slug) with
        | none =>
            refine h.of_eq (fun k => ?_) rfl
            change (db.area.modify (e, slug) _).find? k = _
            rw [Table.find?_modify]
            split
            · rename_i hk
              rw [hk, hrow]
              rfl
            · rfl
        | some row =>
            obtain ⟨hslug, hname, hproposer⟩ := h.fits e slug row hrow
            exact h.modify hrow ⟨hslug, hname, hproposer⟩ (.inl rfl)
    | deleteArea e slug =>
        replace happly : (AreaWrite.deleteArea e slug).apply id db = .ok (b, db') := happly
        simp only [AreaWrite.apply] at happly
        split at happly
        · cases happly
          exact h
        · simp only [DB.unreferenced_eq_ok] at happly
          obtain ⟨hchildless, -, ⟨⟩⟩ := happly
          exact h.erase hchildless
    | repointIncidentsArea toSlug e fromSlug =>
        replace happly : (AreaWrite.repointIncidentsArea toSlug e fromSlug).apply id db =
          .ok (b, db') := happly
        simp only [AreaWrite.apply, DB.references_eq_ok] at happly
        obtain ⟨-, ⟨⟩⟩ := happly
        exact h.of_eq (fun _ => rfl) rfl

end Statements

/-! ## The calls -/

inductive AreaCall
  | createArea (ctx : Option IMSClaims) (req : CreateAreaRequest)
  | updateArea (ctx : Option IMSClaims) (req : UpdateAreaRequest)
  | approveArea (ctx : Option IMSClaims) (req : ApproveAreaRequest)
  | markAreaDuplicate (ctx : Option IMSClaims) (req : MarkAreaDuplicateRequest)

def AreaCall.call (s : AreaService) : AreaCall → AreaGo ConnectError Unit
  | .createArea ctx req => do
    let _ ← OcfIms.createArea s ctx req
    pure ()
  | .updateArea ctx req => OcfIms.updateArea ctx req
  | .approveArea ctx req => OcfIms.approveArea ctx req
  | .markAreaDuplicate ctx req => OcfIms.markAreaDuplicate s ctx req

/-- Run a call to its end. -/
def areaStep (s : AreaService) (sortKey : String → String) (env : AreaEnv) (w : AreaWorld)
    (c : AreaCall) : Option AreaWorld :=
  some { ((c.call s).run (areaDB sortKey) env w).2 with txn := none }

/-- The caller administers areas. -/
def AdministersAreas (ctx : Option IMSClaims) : Prop :=
  ∃ claims, ctx = some claims ∧
    hasBit (globalPermissions claims.handle claims.admin) globalAdministrateAreas = true

/-- The call gives no parent to an area that is itself a parent. -/
def KeepsDepth (w : AreaWorld) : AreaCall → Prop
  | .updateArea ctx req => AdministersAreas ctx → ∀ parent, req.area.parentSlug = some parent →
      MayBeParent w.db req.eventID req.areaSlug parent →
        w.db.isParentArea req.eventID req.areaSlug = false
  | _ => True

section Calls

-- Strings are not to be evaluated while programs are compared.
attribute [local irreducible] trimSpace

variable {sortKey : String → String} {env : AreaEnv} {db : DB} {α : Type}

/-- The writes of a program set no parents, whatever it returns or fails with. -/
def SetsNoParent {ε : Type} (x : AreaGo ε α) : Prop :=
  x.Every anyAnswer (onlyWrites setsNoParent) (fun _ => True) fun _ => True

theorem setsNoParent_widen {ε : Type} (x : Go ε α) : SetsNoParent (Call.widen x : AreaGo ε α) := by
  have hx : x.Every anyAnswer anyOp (fun _ => True) fun _ => True := Call.every_any x
  refine Call.every_widen (fun β o _ => ?_) (fun _ _ _ _ => trivial) hx
  cases o <;> trivial

theorem SetsNoParent.bind {ε β : Type} {x : AreaGo ε α} {f : α → AreaGo ε β}
    (hx : SetsNoParent x) (hf : ∀ a, SetsNoParent (f a)) : SetsNoParent (x >>= f) :=
  Call.every_bind hx fun a _ => hf a

theorem setsNoParent_ensure {ε : Type} (c : Bool) (err : ε) :
    SetsNoParent (Call.ensure c err : AreaGo ε Unit) :=
  Call.every_ensure (fun _ => trivial) fun _ => trivial

theorem setsNoParent_exec {ε : Type} {c : Conn} {q : AreaWrite α} {err : SqlErr → ε}
    (hq : setsNoParent c _ (.inr q)) : SetsNoParent (areaExec c q err) :=
  Call.every_mapErr (Call.every_attempt hq (fun _ _ => trivial) fun _ _ => trivial)

theorem setsNoParent_requireAreaAdmin (ctx : Option IMSClaims) (e : Int) :
    SetsNoParent (requireAreaAdmin ctx e) :=
  (setsNoParent_widen _).bind fun _ => setsNoParent_ensure _ _

theorem setsNoParent_invalidateAreaCaches (e : Int) : SetsNoParent (invalidateAreaCaches e) := by
  refine SetsNoParent.bind (Call.every_perform trivial fun _ _ => trivial) fun _ => ?_
  refine Call.every_bind (Call.every_result (setsNoParent_widen _)) fun r _ => ?_
  rcases r with err | ev
  · exact Call.every_pure trivial
  · exact Call.every_perform trivial fun _ _ => trivial

theorem setsNoParent_approveArea (ctx : Option IMSClaims) (req : ApproveAreaRequest) :
    SetsNoParent (approveArea ctx req) := by
  refine (setsNoParent_requireAreaAdmin _ _).bind fun _ => (setsNoParent_widen _).bind fun _ => ?_
  have happrove : SetsNoParent (areaExec .pool (.approveArea req.eventID req.areaSlug)
      (internalError "failed to approve area")) := setsNoParent_exec trivial
  exact happrove.bind fun _ => setsNoParent_invalidateAreaCaches _

theorem setsNoParent_markAreaDuplicate (s : AreaService) (ctx : Option IMSClaims)
    (req : MarkAreaDuplicateRequest) : SetsNoParent (markAreaDuplicate s ctx req) := by
  refine (setsNoParent_requireAreaAdmin _ _).bind fun _ => ?_
  refine (setsNoParent_ensure _ _).bind fun _ => (setsNoParent_ensure _ _).bind fun _ => ?_
  refine SetsNoParent.bind (Call.every_mapErr (Call.every_attempt trivial (fun _ _ => trivial)
    fun _ _ => trivial)) fun existing => ?_
  refine (setsNoParent_ensure _ _).bind fun _ => (setsNoParent_ensure _ _).bind fun _ => ?_
  refine (setsNoParent_ensure _ _).bind fun _ => ?_
  have hmerge : SetsNoParent (mergeArea req.eventID req.areaSlug req.canonicalSlug) := by
    refine SetsNoParent.bind (setsNoParent_exec ?_) fun _ => setsNoParent_exec ?_ <;> trivial
  have htxn : SetsNoParent (Call.mapErr CausedError.wire (Call.runInTx
      (fun err => { wire := ⟨.unknown, s.errorText err⟩, cause := some err })
      CausedError.retryable (mergeArea req.eventID req.areaSlug req.canonicalSlug) 3)) :=
    Call.every_mapErr (Call.every_runInTx trivial trivial trivial (fun _ => trivial) hmerge 3)
  exact htxn.bind fun _ => setsNoParent_invalidateAreaCaches _

/-- What such a program keeps. -/
theorem triple_setsNoParent {ε : Type} {x : AreaGo ε α} (hx : SetsNoParent x) :
    Call.Triple (areaDB sortKey) env (World.Holds AreasSound AreasSound) x
      (fun _ w => AreasSound w.db) fun _ w => AreasSound w.db := by
  have hsteps : Call.Triple (areaDB sortKey) env (World.Holds AreasSound AreasSound) x
      (fun _ w => w.Holds AreasSound AreasSound ∧ True)
      fun _ w => w.Holds AreasSound AreasSound ∧ True :=
    Call.triple_every (fun β o w hw ho => ⟨(step_onlyWrites
      (fun c β q id db b db' hq h happly => h.apply hq happly) o hw ho).1, trivial⟩) hx
  exact hsteps.conseq (fun _ h => h) (fun _ _ h => h.1.1) fun _ _ h => h.1.1

/-! ### The calls that set a parent -/

/-- The world while a call reads: the database is as it was found, and no transaction is open. -/
abbrev Found (db : DB) : AreaWorld → Prop := World.Holds (· = db) fun _ => False

theorem triple_found {ε : Type} {x : AreaGo ε α} {Q : α → Prop} (hdb : AreasSound db)
    (hx : x.Every (truthful (areaDB sortKey) db) readsPool (fun _ => True) Q) :
    Call.Triple (areaDB sortKey) env (Found db) x (fun a w => Found db w ∧ Q a)
      fun _ w => AreasSound w.db :=
  Call.triple_reads hx fun _ w hw _ => by rw [hw.1]; exact hdb

theorem every_authorize (ctx : Option IMSClaims) (e : Int) :
    (authorize ctx e).Every (truthful (areaDB sortKey) db) readsPool (fun _ => True) fun r =>
      ctx = some r.1 ∧ r.2.2 = globalPermissions r.1.handle r.1.admin := by
  refine Call.every_widen_reads ?_
  refine Call.every_bind (every_authenticated (fun _ => trivial) ctx) fun claims hclaims => ?_
  exact Call.every_bind (Call.every_mapErr (every_eventPermissions e claims)) fun perms hperms =>
    Call.every_pure ⟨hclaims, hperms.2⟩

theorem every_fetchAreas (e : Int) :
    (fetchAreas e).Every (truthful (areaDB sortKey) db) readsPool (fun _ => True)
      (· = db.areas sortKey e) := by
  refine Call.every_mapErr (Call.every_attempt trivial (fun _ _ => trivial) fun rows hrows => ?_)
  rcases hrows with hrows | ⟨n, hn⟩
  · exact Except.ok.inj hrows
  · cases hn

theorem find?_areas {e : Int} {slug : String} {row : AreaRow}
    (h : (db.areas sortKey e).find? (fun a => a.slug == slug) = some row) :
    db.area.find? (e, slug) = some row.area := by
  have hslug := List.find?_some h
  obtain rfl : row.slug = slug := eq_of_beq hslug
  exact DB.mem_areas.mp (List.mem_of_find?_eq_some h)

/-- A parent that is accepted is the one asked for, and may be one. -/
theorem every_validateParent {e : Int} {parentSlug : Option String} {selfSlug : String} :
    (orFail (validateParent (db.areas sortKey e) parentSlug selfSlug)).Every
      (truthful (areaDB sortKey) db) readsPool (fun _ => True) fun r =>
        ∀ parent, r = some parent →
          parentSlug = some parent ∧ MayBeParent db e selfSlug parent := by
  cases parentSlug with
  | none => exact Call.every_pure fun _ h => nomatch h
  | some asked =>
      rw [validateParent]
      split
      · exact Call.every_pure fun _ h => nomatch h
      split
      · exact Call.every_throw trivial
      split
      · exact Call.every_throw trivial
      rename_i hne _ row hrow
      split
      · exact Call.every_throw trivial
      rename_i htop
      refine Call.every_pure fun parent hparent => ?_
      cases hparent
      exact ⟨rfl, hne, row.area, find?_areas hrow, by simpa using htop⟩

/-- A write on the pool, from a database that is as it was found. -/
theorem triple_writeFound {ε : Type} {q : AreaWrite α} {err : SqlErr → ε} (hdb : AreasSound db)
    (hq : ∀ id b db', q.apply id db = .ok (b, db') → AreasSound db') :
    Call.Triple (areaDB sortKey) env (Found db) (areaExec .pool q err)
      (fun _ w => w.Holds AreasSound AreasSound) fun _ w => AreasSound w.db := by
  have hwrite : Call.Triple (areaDB sortKey) env (Found db)
      (Call.attempt (.write .pool (.inr q))) (fun _ w => w.Holds AreasSound fun _ => False)
      fun _ w => AreasSound w.db := by
    refine Call.triple_write_pool (fun id s b s' hs happly => ?_) fun _ w hw => ?_
    · cases hs
      exact hq id b s' happly
    · rw [hw.1]
      exact hdb
  refine Call.Triple.mapErr (hwrite.conseq (fun _ h => h) (fun _ w h => ?_) fun _ _ h => h)
  exact ⟨h.1, fun s hs => (h.2 s hs).elim⟩

theorem triple_ensureFound {ε : Type} {c : Bool} {err : ε} (hdb : AreasSound db) :
    Call.Triple (areaDB sortKey) env (Found db) (Call.ensure c err) (fun _ w => Found db w)
      fun _ w => AreasSound w.db :=
  Call.triple_ensure (fun _ h _ => h) fun w h _ => by rw [h.1]; exact hdb

theorem triple_insertNewArea (s : AreaService) (e : Int) (msg : AreaMsg) (isAreaAdmin : Bool)
    (proposerID : Int) (hdb : AreasSound db) :
    Call.Triple (areaDB sortKey) env (Found db) (insertNewArea s e msg isAreaAdmin proposerID)
      (fun _ w => w.Holds AreasSound AreasSound) fun _ w => AreasSound w.db := by
  rw [insertNewArea]
  generalize trimSpace (msg.name.getD "") = name
  refine (triple_ensureFound hdb).bind fun _ => ?_
  refine Call.Triple.bind_fact (triple_found hdb (every_fetchAreas e)) fun existing hexisting => ?_
  subst hexisting
  refine Call.Triple.bind_fact (triple_found hdb every_validateParent) fun parentSlug hparent => ?_
  refine (triple_writeFound hdb fun id b db' happly => ?_).bind fun _ =>
    Call.triple_pure fun _ h => h
  refine hdb.insert (fun parent hp => ?_) (AreaWrite.createArea_eq_ok.mp happly)
  exact (hparent parent hp).2

theorem triple_createArea (s : AreaService) (ctx : Option IMSClaims) (req : CreateAreaRequest)
    (hdb : AreasSound db) :
    Call.Triple (areaDB sortKey) env (Found db) (createArea s ctx req)
      (fun _ w => AreasSound w.db) fun _ w => AreasSound w.db := by
  refine Call.Triple.bind_fact (triple_found hdb (every_authorize ctx req.eventID))
    fun r _ => ?_
  obtain ⟨claims, eventPerms, globalPerms⟩ := r
  dsimp only
  generalize hasBit globalPerms globalAdministrateAreas = isAreaAdmin
  generalize hasBit eventPerms eventWriteIncidents = isWriter
  refine (triple_ensureFound hdb).bind fun _ => ?_
  have hinsert : Call.Triple (areaDB sortKey) env (Found db)
      (insertNewArea s req.eventID req.area isAreaAdmin claims.personID)
      (fun _ w => w.Holds AreasSound AreasSound) fun _ w => AreasSound w.db :=
    triple_insertNewArea s _ _ _ _ hdb
  refine hinsert.bind fun slug => ?_
  exact triple_setsNoParent ((setsNoParent_invalidateAreaCaches _).bind fun _ =>
    Call.every_pure trivial)

/-- The parent an update leaves is the stored one, or the one asked for, which may be one. -/
theorem every_updatedParent {e : Int} {stored parentSlug : Option String} {slug : String} :
    (updatedParent (db.areas sortKey e) stored parentSlug slug).Every
      (truthful (areaDB sortKey) db) readsPool (fun _ => True) fun r =>
        r = stored ∨ ∀ parent, r = some parent →
          parentSlug = some parent ∧ MayBeParent db e slug parent := by
  refine Call.every_ite (fun _ => ?_) fun _ => Call.every_pure (.inl rfl)
  exact Call.Every.mono every_validateParent (fun _ _ _ h => h) (fun _ _ h => h)
    (fun _ _ => trivial) fun _ h => .inr h

theorem every_updatedName (stored : String) (name : Option String) :
    (updatedName stored name).Every (truthful (areaDB sortKey) db) readsPool (fun _ => True)
      fun _ => True := by
  cases name with
  | none => exact Call.every_pure trivial
  | some name =>
      rw [updatedName]
      generalize trimSpace name = trimmed
      refine Call.every_bind (Q := fun _ => True)
        (Call.every_ensure (fun _ => trivial) fun _ => trivial) fun _ _ => Call.every_pure trivial

theorem triple_writeUpdatedArea {e : Int} {slug : String} {msg : AreaMsg} (hdb : AreasSound db)
    (hdepth : ∀ parent, msg.parentSlug = some parent → MayBeParent db e slug parent →
      db.isParentArea e slug = false) :
    Call.Triple (areaDB sortKey) env (Found db) (writeUpdatedArea e slug msg)
      (fun _ w => w.Holds AreasSound AreasSound) fun _ w => AreasSound w.db := by
  refine Call.Triple.bind_fact (triple_found hdb (every_fetchAreas e)) fun existing hexisting => ?_
  subst hexisting
  cases hrow : (db.areas sortKey e).find? fun a => a.slug == slug with
  | none => exact Call.triple_throw fun w hw => by rw [hw.1]; exact hdb
  | some row =>
      have hstored := find?_areas hrow
      refine Call.Triple.bind_fact (triple_found hdb (every_updatedName _ _)) fun name _ => ?_
      refine Call.Triple.bind_fact (triple_found hdb every_updatedParent) fun parentSlug hparent => ?_
      refine triple_writeFound hdb fun id b db' happly => ?_
      simp only [AreaWrite.apply, hstored, DB.column_eq_ok, DB.references_eq_ok] at happly
      obtain ⟨hname, -, ⟨⟩⟩ := happly
      obtain ⟨hslug, -, hproposer⟩ := hdb.fits e slug row.area hstored
      refine hdb.modify hstored ⟨hslug, hname, hproposer⟩ ?_
      rcases hparent with hsame | hnew
      · exact .inl hsame
      · cases parentSlug with
        | none => exact .inr (.inl rfl)
        | some parent =>
            obtain ⟨hasked, hmay⟩ := hnew parent rfl
            exact .inr (.inr ⟨parent, rfl, hmay, hdepth parent hasked hmay⟩)

theorem triple_updateArea (ctx : Option IMSClaims) (req : UpdateAreaRequest) (hdb : AreasSound db)
    (hdepth : AdministersAreas ctx → ∀ parent, req.area.parentSlug = some parent →
      MayBeParent db req.eventID req.areaSlug parent →
        db.isParentArea req.eventID req.areaSlug = false) :
    Call.Triple (areaDB sortKey) env (Found db) (updateArea ctx req)
      (fun _ w => AreasSound w.db) fun _ w => AreasSound w.db := by
  have hadmin : (requireAreaAdmin ctx req.eventID).Every (truthful (areaDB sortKey) db) readsPool
      (fun _ => True) fun _ => AdministersAreas ctx := by
    refine Call.every_bind (every_authorize ctx req.eventID) fun r hr => ?_
    obtain ⟨claims, eventPerms, globalPerms⟩ := r
    obtain ⟨hctx, hperms⟩ := hr
    refine Call.every_ensure (fun _ => trivial) fun hbit => ⟨claims, hctx, ?_⟩
    dsimp only at hperms
    rw [← hperms]
    exact hbit
  refine Call.Triple.bind_fact (triple_found hdb hadmin) fun _ hctx => ?_
  refine (triple_writeUpdatedArea hdb (hdepth hctx)).bind fun _ => ?_
  exact triple_setsNoParent (setsNoParent_invalidateAreaCaches _)

end Calls

/-! ## Runs -/

section Runs

variable {s : AreaService} {sortKey : String → String} {env : AreaEnv} {w w' : AreaWorld}

/-- A step that meets the condition keeps the area sets sound. -/
theorem sound_of_areaStep {c : AreaCall} (htxn : w.txn = none) (h : AreasSound w.db)
    (hc : KeepsDepth w c) : AreasSound ((c.call s).run (areaDB sortKey) env w).2.db := by
  have hfound : Found w.db w := ⟨rfl, fun db hdb => nomatch htxn.symm.trans hdb⟩
  have hholds : w.Holds AreasSound AreasSound :=
    ⟨h, fun db hdb => nomatch htxn.symm.trans hdb⟩
  have hpost : ∀ {I : AreaWorld → Prop}, I w → Call.Triple (areaDB sortKey) env I (c.call s)
      (fun _ w => AreasSound w.db) (fun _ w => AreasSound w.db) →
        AreasSound ((c.call s).run (areaDB sortKey) env w).2.db := by
    intro I hI htriple
    have hend := htriple w hI
    rcases hrun : (c.call s).run (areaDB sortKey) env w with ⟨_ | _, w₁⟩ <;>
      rw [hrun] at hend <;> exact hend
  cases c with
  | createArea ctx req =>
      exact hpost hfound ((triple_createArea s ctx req h).bind fun _ => Call.triple_pure fun _ h => h)
  | updateArea ctx req => exact hpost hfound (triple_updateArea ctx req h hc)
  | approveArea ctx req => exact hpost hholds (triple_setsNoParent (setsNoParent_approveArea _ _))
  | markAreaDuplicate ctx req =>
      exact hpost hholds (triple_setsNoParent (setsNoParent_markAreaDuplicate _ _ _))

theorem sound_of_areaRun {cs : List AreaCall} (htxn : w.txn = none) (h : AreasSound w.db)
    (hr : RunMeeting (areaStep s sortKey env) KeepsDepth w cs w') :
    w'.txn = none ∧ AreasSound w'.db := by
  refine hr.invariant (I := fun _ w => w.txn = none ∧ AreasSound w.db) ⟨htxn, h⟩ ?_
  rintro _ w c w' ⟨htxn, h⟩ hc hs
  cases hs
  exact ⟨rfl, sound_of_areaStep htxn h hc⟩

end Runs

/-! ## Copying an area set -/

section Copying

variable {sortKey : String → String} {env : AreaEnv} {dest : Int} {db db' : DB}

/-- Every row comes after its parent, unless the parent is one that is there already. -/
def ParentsFirst : (String → Prop) → List AreaRow → Prop
  | _, [] => True
  | known, row :: rows => (∀ parent, row.area.parentSlug = some parent → known parent) ∧
      ParentsFirst (fun slug => known slug ∨ slug = row.slug) rows

theorem ParentsFirst.mono {known known' : String → Prop} (h : ∀ slug, known slug → known' slug) :
    ∀ {rows : List AreaRow}, ParentsFirst known rows → ParentsFirst known' rows
  | [], _ => trivial
  | _ :: _, ⟨hrow, hrows⟩ =>
      ⟨fun parent hp => h parent (hrow parent hp), hrows.mono fun slug => Or.imp_left (h slug)⟩

theorem parentsFirst_of_known {known : String → Prop} : ∀ {rows : List AreaRow},
    (∀ row ∈ rows, ∀ parent, row.area.parentSlug = some parent → known parent) →
      ParentsFirst known rows
  | [], _ => trivial
  | row :: _, h => ⟨h row (List.mem_cons_self ..), parentsFirst_of_known fun row' hrow' parent hp =>
      .inl (h row' (List.mem_cons_of_mem _ hrow') parent hp)⟩

theorem ParentsFirst.append {known : String → Prop} {rows' : List AreaRow} :
    ∀ {rows : List AreaRow}, ParentsFirst known rows →
      ParentsFirst (fun slug => known slug ∨ ∃ row ∈ rows, row.slug = slug) rows' →
        ParentsFirst known (rows ++ rows')
  | [], _, h' => h'.mono fun _ => Or.rec id (by rintro ⟨_, hmem, _⟩; cases hmem)
  | row :: rows, ⟨hrow, hrows⟩, h' => by
      refine ⟨hrow, hrows.append (h'.mono fun slug hslug => ?_)⟩
      rcases hslug with hslug | ⟨row', hmem, rfl⟩
      · exact .inl (.inl hslug)
      · rcases List.mem_cons.mp hmem with rfl | hmem
        · exact .inl (.inr rfl)
        · exact .inr ⟨row', hmem, rfl⟩

/-- An area set in two passes, the top-level areas first, has its parents first. -/
theorem parentsFirst_twoPasses (h : OneLevel db) (e : Int) :
    ParentsFirst (fun _ => False)
      ((db.areas sortKey e).filter (fun a => a.area.parentSlug.isNone) ++
        (db.areas sortKey e).filter fun a => a.area.parentSlug.isSome) := by
  refine (parentsFirst_of_known fun row hrow parent hp => ?_).append
    (parentsFirst_of_known fun row hrow parent hp => ?_)
  · have htop := (List.mem_filter.mp hrow).2
    rw [hp] at htop
    cases htop
  · obtain ⟨b, hb, htop⟩ := h e row.slug row.area parent
      (DB.mem_areas.mp (List.mem_filter.mp hrow).1) hp
    refine .inr ⟨⟨parent, b⟩, List.mem_filter.mpr ⟨DB.mem_areas.mpr hb, ?_⟩, rfl⟩
    simp only [htop, Option.isNone_none]

/-- Insert the rows under another event, one after the other. -/
def insertRows (dest : Int) (rows : List AreaRow) (db : DB) : Except SqlErr DB :=
  rows.foldlM (fun db row => DB.insertArea ⟨dest, row.slug, row.area⟩ db) db

theorem insertRows_cons_eq_ok {row : AreaRow} {rows : List AreaRow} :
    insertRows dest (row :: rows) db = .ok db' ↔
      ∃ db₁, DB.insertArea ⟨dest, row.slug, row.area⟩ db = .ok db₁ ∧
        insertRows dest rows db₁ = .ok db' := by
  rw [insertRows, List.foldlM_cons]
  constructor
  · intro h
    cases hrow : DB.insertArea ⟨dest, row.slug, row.area⟩ db with
    | error err =>
        rw [hrow] at h
        cases h
    | ok db₁ =>
        rw [hrow] at h
        exact ⟨db₁, rfl, h⟩
  · rintro ⟨db₁, hrow, hrows⟩
    rw [hrow]
    exact hrows

theorem insertRows_append_eq_ok {rows rows' : List AreaRow} :
    insertRows dest (rows ++ rows') db = .ok db' ↔
      ∃ db₁, insertRows dest rows db = .ok db₁ ∧ insertRows dest rows' db₁ = .ok db' := by
  induction rows generalizing db with
  | nil =>
      constructor
      · exact fun h => ⟨db, rfl, h⟩
      · rintro ⟨db₁, ⟨⟩, h⟩
        exact h
  | cons row rows ih =>
      simp only [List.cons_append, insertRows_cons_eq_ok, ih]
      constructor
      · rintro ⟨db₁, hrow, db₂, hrows, hrows'⟩
        exact ⟨db₂, ⟨db₁, hrow, hrows⟩, hrows'⟩
      · rintro ⟨db₂, ⟨db₁, hrow, hrows⟩, hrows'⟩
        exact ⟨db₁, hrow, db₂, hrows, hrows'⟩

/-- Rows with distinct free slugs that fit and come after their parents are all inserted. -/
theorem insertRows_ok (hdest : db.event.contains dest = true) {rows : List AreaRow}
    (hnodup : (rows.map (·.slug)).Nodup)
    (hfits : ∀ row ∈ rows, AreaFits db.person row.slug row.area)
    (hfree : ∀ row ∈ rows, db.area.find? (dest, row.slug) = none)
    (hparents : ParentsFirst (fun slug => db.area.contains (dest, slug) = true) rows) :
    ∃ db', insertRows dest rows db = .ok db' ∧
      (∀ row ∈ rows, db'.area.find? (dest, row.slug) = some row.area) ∧
      ∀ k, (∀ row ∈ rows, k ≠ (dest, row.slug)) → db'.area.find? k = db.area.find? k := by
  induction rows generalizing db with
  | nil => exact ⟨db, rfl, fun _ h => (nomatch h), fun _ _ => rfl⟩
  | cons row rows ih =>
      obtain ⟨hparent, hparents⟩ := hparents
      rw [List.map_cons, List.nodup_cons] at hnodup
      have hnew : db.area.contains (dest, row.slug) = false :=
        Table.contains_eq_false_iff.mpr (hfree row (List.mem_cons_self ..))
      have hlookup := Table.find?_insert hnew row.area
      have hfit := hfits row (List.mem_cons_self ..)
      have hinsert : DB.insertArea ⟨dest, row.slug, row.area⟩ db =
          .ok { db with area := db.area.insert (dest, row.slug) row.area } := by
        simp only [DB.insertArea, DB.column_eq_ok, DB.unique_eq_ok, DB.references_eq_ok]
        refine ⟨hfit.slug, hfit.name, hnew, hdest, ?_, hfit.proposer, trivial⟩
        cases hp : row.area.parentSlug with
        | none => rfl
        | some parent => exact Table.contains_insert_of_contains _ (hparent parent hp)
      have hne : ∀ row' ∈ rows, (dest, row'.slug) ≠ (dest, row.slug) := by
        intro row' hrow' hkey
        exact hnodup.1 (List.mem_map.mpr ⟨row', hrow', (Prod.ext_iff.mp hkey).2⟩)
      have hfree' : ∀ row' ∈ rows,
          (db.area.insert (dest, row.slug) row.area).find? (dest, row'.slug) = none := by
        intro row' hrow'
        rw [hlookup, if_neg (hne row' hrow')]
        exact hfree row' (List.mem_cons_of_mem _ hrow')
      have hparents' : ParentsFirst (fun slug =>
          (db.area.insert (dest, row.slug) row.area).contains (dest, slug) = true) rows := by
        refine hparents.mono fun slug hslug => ?_
        rw [Table.contains_insert hnew, Bool.or_eq_true, decide_eq_true_eq]
        exact hslug.symm.imp_left fun h => by rw [h]
      obtain ⟨db', hrows, hfound, hkept⟩ : ∃ db', insertRows dest rows
          { db with area := db.area.insert (dest, row.slug) row.area } = .ok db' ∧ _ ∧ _ :=
        ih hdest hnodup.2 (fun row' hrow' => hfits row' (List.mem_cons_of_mem _ hrow')) hfree'
          hparents'
      refine ⟨db', ?_, fun row' hrow' => ?_, fun k hk => ?_⟩
      · exact insertRows_cons_eq_ok.mpr ⟨_, hinsert, hrows⟩
      · rcases List.mem_cons.mp hrow' with rfl | hrow'
        · rw [hkept _ fun row' hrow' hkey => hne row' hrow' hkey.symm]
          change (db.area.insert (dest, row'.slug) row'.area).find? _ = _
          rw [hlookup, if_pos rfl]
        · exact hfound row' hrow'
      · rw [hkept k fun row' hrow' => hk row' (List.mem_cons_of_mem _ hrow')]
        change (db.area.insert (dest, row.slug) row.area).find? k = _
        rw [hlookup, if_neg (hk row (List.mem_cons_self ..))]

/-- The copying of rows inside a transaction, if nothing fails from outside. -/
theorem run_copyRows (sortKey : String → String) (hq : env.Quiet) : ∀ {rows : List AreaRow} {db : DB} {w : AreaWorld},
    w.txn = some db → insertRows dest rows db = .ok db' →
      ∃ w', ((rows.forM (copyArea dest)).run (areaDB sortKey) env w) = (.ok (), w') ∧
        w'.txn = some db'
  | [], db, w, hw, h => by
      cases h
      exact ⟨w, rfl, hw⟩
  | row :: rows, db, w, hw, h => by
      obtain ⟨db₁, hrow, hrows⟩ := insertRows_cons_eq_ok.mp h
      have hcopy : (copyArea dest row).run (areaDB sortKey) env w = (.ok (), w.store .txn db₁) := by
        have happly : (AreaWrite.createArea ⟨dest, row.slug, row.area⟩).apply w.nextId db =
            .ok ((), db₁) := AreaWrite.createArea_eq_ok.mpr hrow
        have hwiden : (areaDB sortKey).apply
            (.inr (.createArea ⟨dest, row.slug, row.area⟩) : Write Unit ⊕ AreaWrite Unit)
              w.nextId db = .ok ((), db₁) := happly
        simp only [copyArea, areaExec, Call.run_mapErr, Call.run_attempt, step, hq w.tick,
          World.view_txn, hw, hwiden]
        rfl
      obtain ⟨w', hrun, hw'⟩ := run_copyRows sortKey hq (w := w.store .txn db₁) rfl hrows
      refine ⟨w', ?_, hw'⟩
      change (copyArea dest row >>= fun _ => rows.forM (copyArea dest)).run (areaDB sortKey) env w =
        (.ok (), w')
      rw [Call.run_bind_ok hcopy]
      exact hrun

/-- The rows of an event are copied to one that has none. -/
theorem run_copyAreas (sortKey : String → String) (hq : env.Quiet) (src : Int) (h : AreasSound db)
    (hdest : db.event.contains dest = true) (hempty : db.hasAreas dest = false) {w : AreaWorld}
    (hw : w.txn = some db) : ∃ db' w', (copyAreas src dest).run (areaDB sortKey) env w = (.ok (), w') ∧
      w'.txn = some db' ∧
      ∀ slug, db'.area.find? (dest, slug) = db.area.find? (src, slug) := by
  have hfree : ∀ slug, db.area.find? (dest, slug) = none := by
    intro slug
    rw [Table.find?_eq_none_iff]
    intro a hmem
    exact List.any_eq_false.mp hempty ((dest, slug), a) hmem (by simp)
  have hsplit : (db.areas sortKey src).Perm
      ((db.areas sortKey src).filter (fun a => a.area.parentSlug.isNone) ++
        (db.areas sortKey src).filter fun a => a.area.parentSlug.isSome) := by
    have hperm := (List.filter_append_perm (fun a : AreaRow => a.area.parentSlug.isNone)
      (db.areas sortKey src)).symm
    simpa only [Option.not_isNone] using hperm
  have hmem : ∀ row : AreaRow, row ∈ (db.areas sortKey src).filter
      (fun a => a.area.parentSlug.isNone) ++ (db.areas sortKey src).filter
        (fun a => a.area.parentSlug.isSome) ↔ db.area.find? (src, row.slug) = some row.area :=
    fun row => hsplit.mem_iff.symm.trans DB.mem_areas
  obtain ⟨db', hrows, hfound, hkept⟩ := insertRows_ok hdest
    (((hsplit.map (·.slug)).nodup_iff).mp (DB.nodup_areas sortKey db src))
    (fun row hrow => h.fits src row.slug row.area ((hmem row).mp hrow))
    (fun row _ => hfree row.slug)
    ((parentsFirst_twoPasses h.oneLevel src).mono fun _ hfalse => hfalse.elim)
  have hread : (areaSelect .txn (.areas src) id).run (areaDB sortKey) env w =
      (.ok (db.areas sortKey src), w.tock) := by
    simp only [areaSelect, Call.run_mapErr, Call.run_attempt, step, hq w.tick, World.view_txn, hw]
    rfl
  obtain ⟨db₁, htops, hchildren⟩ := insertRows_append_eq_ok.mp hrows
  obtain ⟨w₁, hruntops, hw₁⟩ := run_copyRows sortKey hq (w := w.tock) hw htops
  obtain ⟨w₂, hrunchildren, hw₂⟩ := run_copyRows sortKey hq hw₁ hchildren
  refine ⟨db', w₂, ?_, hw₂, fun slug => ?_⟩
  · rw [copyAreas, Call.run_bind_ok hread, Call.run_bind_ok hruntops]
    exact hrunchildren
  · cases hslug : db.area.find? (src, slug) with
    | some a => exact hfound ⟨slug, a⟩ ((hmem ⟨slug, a⟩).mpr hslug)
    | none =>
        rw [hkept (dest, slug) fun row hrow hkey => ?_, hfree]
        have hrow := (hmem row).mp hrow
        obtain rfl : slug = row.slug := (Prod.ext_iff.mp hkey).2
        rw [hslug] at hrow
        cases hrow

/-- **A sound area set can be copied.** -/
theorem run_populateNewEventAreas (hq : env.Quiet) {src : Int} {w : AreaWorld}
    (h : AreasSound w.db) (hsrc : w.db.latestEventWithAreas = some src)
    (hdest : w.db.event.contains dest = true) (hempty : w.db.hasAreas dest = false) :
    ∃ w', (populateNewEventAreas dest).run (areaDB sortKey) env w = (.ok (), w') ∧
      ∀ slug, w'.db.area.find? (dest, slug) = w.db.area.find? (src, slug) := by
  have hread : (Call.result (areaSelect .txn .latestEventWithAreas id) :
      AreaGo SqlErr (Except SqlErr Int)).run (areaDB sortKey) env { w.tock with txn := some w.db } =
        (.ok (.ok src), ({ w.tock with txn := some w.db } : AreaWorld).tock) := by
    have heval : AreaRead.eval sortKey .latestEventWithAreas w.db = .ok src := by
      rw [AreaRead.eval, hsrc]
      rfl
    simp only [areaSelect, Call.run_result, Call.run_mapErr, Call.run_attempt, step,
      hq (w.tick + 1), World.view_txn, World.tock_tick]
    have heval' : (areaDB sortKey).eval (.inr .latestEventWithAreas : Read Int ⊕ AreaRead Int) w.db =
        .ok src := heval
    rw [heval']
    rfl
  obtain ⟨db', w₁, hrun, hw₁, hcopied⟩ := run_copyAreas sortKey hq src h hdest
    hempty (w := ({ w.tock with txn := some w.db } : AreaWorld).tock) rfl
  have hbody : (populateTxn dest).run (areaDB sortKey) env { w.tock with txn := some w.db } =
      (.ok (), w₁) := by
    rw [populateTxn, Call.run_bind_ok hread]
    exact hrun
  exact ⟨_, Call.run_runInTx hq hbody hw₁ 3, hcopied⟩

end Copying

/-- In every run in which no area that has sub-areas is given a parent, every area's parent is a
top-level area of its event, and a new event gets the areas of the latest one. -/
theorem areaHierarchy_of_run (s : AreaService) (sortKey : String → String) (env : AreaEnv)
    (w w' : AreaWorld) (cs : List AreaCall) (htxn : w.txn = none) (h : AreasSound w.db)
    (hr : RunMeeting (areaStep s sortKey env) KeepsDepth w cs w') :
    AreasSound w'.db ∧
    ∀ (env' : AreaEnv) (src dest : Int), env'.Quiet → w'.db.latestEventWithAreas = some src →
      w'.db.event.contains dest = true → w'.db.hasAreas dest = false →
        ∃ w'', (populateNewEventAreas dest).run (areaDB sortKey) env' w' = (.ok (), w'') ∧
          ∀ slug, w''.db.area.find? (dest, slug) = w'.db.area.find? (src, slug) := by
  have hsound := (sound_of_areaRun htxn h hr).2
  exact ⟨hsound, fun env' src dest hq hsrc hdest hempty =>
    run_populateNewEventAreas hq hsound hsrc hdest hempty⟩

/-! ## A parent that is given a parent -/

def asciiAreas : AreaService where
  unicode := { fold := Char.toLower, toLower := Char.toLower }

/-- Two events without areas. -/
def noAreas : AreaWorld where
  db.event := (Table.empty.insert 1 { name := "fair" }).insert 2 { name := "next-fair" }
  nextId := 1

theorem areasSound_noAreas : AreasSound noAreas.db :=
  ⟨fun _ _ _ _ h => (nomatch h), fun _ _ _ h => nomatch h⟩

def areaAdmin : Option IMSClaims := some { personID := 1, handle := "Hawk", admin := true }

/-- East lies in South, and then South is moved into North. -/
def nestDeeper : List AreaCall :=
  [.createArea areaAdmin ⟨1, { name := some "North", sortOrder := some 1 }⟩,
   .createArea areaAdmin ⟨1, { name := some "South", sortOrder := some 2 }⟩,
   .createArea areaAdmin ⟨1, { name := some "East", parentSlug := some "south" }⟩,
   .updateArea areaAdmin ⟨1, "south", { parentSlug := some "north" }⟩]

/-- The set is two levels deep, and the next event cannot be given its areas: East comes before
South. -/
theorem not_oneLevel_nestDeeper : AreasSound noAreas.db ∧
    ∃ w, Run (areaStep asciiAreas id stillAreaEnv) noAreas nestDeeper w ∧ ¬ OneLevel w.db ∧
      w.db.latestEventWithAreas = some 1 ∧
      ((populateNewEventAreas 2).run (areaDB id) stillAreaEnv w).1 = .error (.mysql 1452) := by
  have hrun : (RunLib.exec (areaStep asciiAreas id stillAreaEnv) noAreas nestDeeper).map
      (fun w => ((w.db.area.find? (1, "east")).map (·.parentSlug),
        (w.db.area.find? (1, "south")).map (·.parentSlug), w.db.latestEventWithAreas,
        ((populateNewEventAreas 2).run (areaDB id) stillAreaEnv w).1)) =
          some (some (some "south"), some (some "north"), some 1, .error (.mysql 1452)) := by
    decide
  obtain ⟨w, hw, hstate⟩ := Option.map_eq_some_iff.mp hrun
  simp only [Prod.mk.injEq] at hstate
  obtain ⟨heast, hsouth, hlatest, hpopulate⟩ := hstate
  refine ⟨areasSound_noAreas, w, run_of_exec hw, fun hone => ?_, hlatest, hpopulate⟩
  obtain ⟨east, heast, heastParent⟩ := Option.map_eq_some_iff.mp heast
  obtain ⟨south, hsouth, htop⟩ := hone 1 "east" east "south" heast heastParent
  rename_i hsouthParent
  rw [hsouth, Option.map_some, htop] at hsouthParent
  cases hsouthParent

/-- South is moved into North, and nothing lies in South. -/
def nestOnce : List AreaCall :=
  [.createArea areaAdmin ⟨1, { name := some "North" }⟩,
   .createArea areaAdmin ⟨1, { name := some "South" }⟩,
   .updateArea areaAdmin ⟨1, "south", { parentSlug := some "north" }⟩]

instance (db : DB) (e : Int) (slug parent : String) : Decidable (MayBeParent db e slug parent) :=
  decidable_of_iff (parent ≠ slug ∧ (db.area.find? (e, parent)).any (·.parentSlug.isNone) = true) <|
    and_congr_right' (by simp [Option.any_eq_true])

instance (ctx : Option IMSClaims) : Decidable (AdministersAreas ctx) :=
  match ctx with
  | none => isFalse (by rintro ⟨_, h, _⟩; cases h)
  | some claims => decidable_of_iff
      (hasBit (globalPermissions claims.handle claims.admin) globalAdministrateAreas = true)
      ⟨fun h => ⟨claims, rfl, h⟩, by rintro ⟨_, ⟨⟩, h⟩; exact h⟩

instance (w : AreaWorld) (c : AreaCall) : Decidable (KeepsDepth w c) :=
  match c with
  | .updateArea ctx req => decidable_of_iff (AdministersAreas ctx →
      ∀ parent ∈ req.area.parentSlug, MayBeParent w.db req.eventID req.areaSlug parent →
        w.db.isParentArea req.eventID req.areaSlug = false) Iff.rfl
  | .createArea _ _ | .approveArea _ _ | .markAreaDuplicate _ _ => isTrue trivial

/-- The next event gets the two areas as they are. -/
theorem areaHierarchy_of_run_nestOnce :
    ∃ w, RunMeeting (areaStep asciiAreas id stillAreaEnv) KeepsDepth noAreas nestOnce w ∧
      AreasSound w.db ∧
      ∃ w', (populateNewEventAreas 2).run (areaDB id) stillAreaEnv w = (.ok (), w') ∧
        (w'.db.area.find? (2, "south")).map (·.parentSlug) = some (some "north") := by
  have hrun : (RunLib.exec (fun w c => if KeepsDepth w c
      then areaStep asciiAreas id stillAreaEnv w c else none) noAreas nestOnce).map
      (fun w => (w.db.latestEventWithAreas, w.db.event.contains 2, w.db.hasAreas 2,
        (w.db.area.find? (1, "south")).map (·.parentSlug))) =
        some (some 1, true, false, some (some "north")) := by decide
  obtain ⟨w, hw, hstate⟩ := Option.map_eq_some_iff.mp hrun
  simp only [Prod.mk.injEq] at hstate
  obtain ⟨hlatest, hevent, hempty, hsouth⟩ := hstate
  have hmeet := runMeeting_of_exec hw
  obtain ⟨hsound, hcopy⟩ := areaHierarchy_of_run asciiAreas id stillAreaEnv noAreas w nestOnce rfl
    areasSound_noAreas hmeet
  obtain ⟨w', hpopulate, hcopied⟩ := hcopy stillAreaEnv 1 2 (fun _ => rfl) hlatest hevent hempty
  exact ⟨w, hmeet, hsound, w', hpopulate, by rw [hcopied, hsouth]⟩

end OcfIms
