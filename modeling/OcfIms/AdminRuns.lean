import Mathlib
import OcfIms.LibSched
import OcfIms.Person

/-!
# The last administrator

Any number of `SetPersonAdmin` calls on one database, their statements in any order. A revocation
counts the administrators before it writes, so that the last one stays; but the count and the write
are two statements. Two administrators who revoke each other both count two, and nobody is left.

A revocation that has been let past its count is going to write, whatever the others do meanwhile.
The flag is safe as long as no count lets a revocation past that leaves only administrators whom
somebody is about to revoke.
-/

namespace OcfIms

open TxnLib RunLib

/-- The arguments of a `SetPersonAdmin` call, with the caller's claims. -/
structure AdminCall where
  ctx : Option IMSClaims
  personID : Int
  isAdmin : Bool
  deriving DecidableEq, Repr

def AdminCall.call (c : AdminCall) : PersonGo ConnectError Unit :=
  setPersonAdmin c.ctx c.personID c.isAdmin

/-- What is left of a `SetPersonAdmin` call. -/
abbrev AdminProg : Type 1 := Prog PersonOp (Except ConnectError Unit)

abbrev AdminSys (ι : Type) : Type 1 :=
  Sys (fun β => Read β ⊕ PersonRead β) (fun β => Write β ⊕ PersonWrite β)
    (fun β => Ask β ⊕ PersonAsk β) SqlErr (Effect ⊕ PersonEffect) DB (Except ConnectError Unit) ι

/-- A system of such calls that have not started yet. -/
def adminSys {ι : Type} (calls : ι → AdminCall) (db : DB) (nextId : Int) : AdminSys ι :=
  ⟨fun i => (calls i).call.prog, { db, nextId }⟩

def DB.IsAdmin (db : DB) (a : Int) : Prop := ∃ p, db.person.find? a = some p ∧ p.isAdmin = true

def AdminRemains (db : DB) : Prop := ∃ a, db.IsAdmin a

/-- Whom an operation takes the flag from. -/
def revocation : {β : Type} → PersonOp β → Option Int
  | _, .write .pool (.inr (.setPersonAdmin false a)) => some a
  | _, _ => none

def countsAdmins : {β : Type} → PersonOp β → Bool
  | _, .read .pool (.inr .countAdmins) => true
  | _, _ => false

/-- Whom the program's next statement takes the flag from. -/
def revokes : AdminProg → Option Int
  | .ret _ => none
  | .op o _ => revocation o

/-- The program's next statement counts the administrators. -/
def counts : AdminProg → Bool
  | .ret _ => false
  | .op o _ => countsAdmins o

/-- Some call is about to take the flag from `a`. -/
def Pending {ι : Type} (sys : AdminSys ι) (a : Int) : Prop := ∃ i, revokes (sys.procs i) = some a

/-- Where a call counts the administrators and finds more than one, some administrator is neither
the one it is to revoke nor about to be revoked by another call. -/
def LeavesAnAdmin {ι : Type} (calls : ι → AdminCall) (sys : AdminSys ι) (i : ι) : Prop :=
  counts (sys.procs i) = true → 1 < sys.world.db.countAdmins →
    ∃ a, a ≠ (calls i).personID ∧ sys.world.db.IsAdmin a ∧ ¬ Pending sys a

/-! ## How far a call has come -/

/-- What remains of a call that may write. -/
def writeAdmin (c : AdminCall) : PersonGo ConnectError Unit := do
  personExec .pool (.setPersonAdmin c.isAdmin c.personID)
    (internalError "failed to set admin flag")
  invalidateUsers

/-- What remains of a revocation of an administrator, before the count. -/
def countThenWrite (c : AdminCall) : PersonGo ConnectError Unit := do
  let adminCount ← personSelect .pool .countAdmins
    (internalError "failed to count administrators")
  Call.ensure (1 < adminCount) ⟨.failedPrecondition, "Cannot remove the last administrator"⟩
  writeAdmin c

inductive AdminStage (c : AdminCall) : AdminProg → Prop
  | start : AdminStage c c.call.prog
  | counting (h : c.isAdmin = false) : AdminStage c (countThenWrite c).prog
  | writing : AdminStage c (writeAdmin c).prog
  | telling : AdminStage c (invalidateUsers : PersonGo ConnectError Unit).prog
  | done (r : Except ConnectError Unit) : AdminStage c (.ret r)

section Stages

variable {w : PersonWorld} {c : AdminCall} (sortKey : String → String) (env : PersonEnv)

theorem revokes_call : revokes c.call.prog = none := by
  obtain ⟨_ | ⟨p, h, _ | _⟩, personID, isAdmin⟩ := c <;> rfl

theorem revokes_writing : revokes (writeAdmin c).prog =
    if c.isAdmin = false then some c.personID else none := by
  obtain ⟨ctx, personID, _ | _⟩ := c <;> rfl

/-- A read on the pool is answered from the database, unless the connection fails it. -/
theorem step_personRead {β : Type} (q : PersonRead β) (w : PersonWorld) :
    (step (personDB sortKey) env (.read .pool (.inr q) : PersonOp _) w).2 = w.tock ∧
      ∀ b, (step (personDB sortKey) env (.read .pool (.inr q) : PersonOp _) w).1 = .ok b →
        q.eval sortKey w.db = .ok b := by
  simp only [step, World.view_pool]
  cases env.fault w.tick with
  | some n => exact ⟨rfl, fun _ h => by cases h⟩
  | none => exact ⟨rfl, fun _ h => h⟩

/-- A call with an administrator's claims, opened up at its first statement. -/
theorem call_of_admin (p : Int) (h : String) (personID : Int) (isAdmin : Bool) :
    (AdminCall.call ⟨some ⟨p, h, true⟩, personID, isAdmin⟩) =
      (Call.mapErr herrToConnect (personByIDRow personID) >>= fun target =>
        checkNotLastAdmin target isAdmin >>= fun _ =>
          writeAdmin ⟨none, target.id, isAdmin⟩) := rfl

/-- A step of a call that has not begun: it reads the person, and is then to write, to count first,
or done. -/
theorem stage_of_start (htxn : w.txn = none) :
    (c.call.prog.burst (personDB sortKey) env w).2.db = w.db ∧
      ((∃ r, (c.call.prog.burst (personDB sortKey) env w).1 = .ret r) ∨
        c.isAdmin = false ∧
          (c.call.prog.burst (personDB sortKey) env w).1 = (countThenWrite c).prog ∨
        (c.isAdmin = true ∨ ¬ w.db.IsAdmin c.personID) ∧
          (c.call.prog.burst (personDB sortKey) env w).1 = (writeAdmin c).prog) := by
  obtain ⟨_ | ⟨p, h, _ | _⟩, personID, isAdmin⟩ := c
  · exact ⟨rfl, .inl ⟨_, rfl⟩⟩
  · exact ⟨rfl, .inl ⟨_, rfl⟩⟩
  · obtain ⟨hw, hr⟩ := step_personRead sortKey env (.personByID personID) w
    rw [call_of_admin, personByIDRow, personSelect, Call.mapErr_mapErr,
      burst_attempt_bind (by rw [hw]; exact htxn), hw]
    refine ⟨rfl, ?_⟩
    dsimp only
    generalize (step (personDB sortKey) env (.read .pool (.inr (.personByID personID)) : PersonOp _)
      w).1 = r at hr
    cases r with
    | error err => exact .inl ⟨_, rfl⟩
    | ok target =>
        obtain ⟨row, hrow, rfl⟩ := Option.map_eq_some_iff.mp (DB.one_eq_ok.mp (hr target rfl))
        cases isAdmin with
        | true => exact .inr (.inr ⟨.inl rfl, rfl⟩)
        | false =>
            cases hadmin : row.isAdmin with
            | true =>
                refine .inr (.inl ⟨rfl, congrArg Call.prog ?_⟩)
                simp only [checkNotLastAdmin, countThenWrite, Bool.not_false, Bool.and_self, if_true,
                  bind_assoc]
                rfl
            | false =>
                refine .inr (.inr ⟨.inr ?_, ?_⟩)
                · rintro ⟨row', hrow', hadmin'⟩
                  rw [hrow] at hrow'
                  cases hrow'
                  rw [hadmin] at hadmin'
                  cases hadmin'
                · simp only [checkNotLastAdmin]
                  rfl

/-- A step of a call that is to count: done, unless more than one administrator is found. -/
theorem stage_of_counting (htxn : w.txn = none) :
    ((countThenWrite c).prog.burst (personDB sortKey) env w).2.db = w.db ∧
      ((∃ r, ((countThenWrite c).prog.burst (personDB sortKey) env w).1 = .ret r) ∨
        1 < w.db.countAdmins ∧
          ((countThenWrite c).prog.burst (personDB sortKey) env w).1 = (writeAdmin c).prog) := by
  obtain ⟨hw, hr⟩ := step_personRead sortKey env .countAdmins w
  rw [countThenWrite, personSelect, burst_attempt_bind (by rw [hw]; exact htxn), hw]
  refine ⟨rfl, ?_⟩
  dsimp only
  generalize (step (personDB sortKey) env (.read .pool (.inr .countAdmins) : PersonOp _) w).1 = r
    at hr
  cases r with
  | error err => exact .inl ⟨_, rfl⟩
  | ok adminCount =>
      obtain rfl : w.db.countAdmins = adminCount := Except.ok.inj (hr adminCount rfl)
      by_cases hcount : 1 < w.db.countAdmins
      · refine .inr ⟨hcount, ?_⟩
        simp only [hcount]
        rfl
      · refine .inl ⟨.error ⟨.failedPrecondition, "Cannot remove the last administrator"⟩, ?_⟩
        simp only [hcount]
        rfl

/-- The step that writes the flag, unless the connection fails it. -/
theorem stage_of_writing (htxn : w.txn = none) :
    ((∃ r, ((writeAdmin c).prog.burst (personDB sortKey) env w).1 = .ret r) ∧
        ((writeAdmin c).prog.burst (personDB sortKey) env w).2.db = w.db) ∨
      ((writeAdmin c).prog.burst (personDB sortKey) env w).1 =
          (invalidateUsers : PersonGo ConnectError Unit).prog ∧
        ((writeAdmin c).prog.burst (personDB sortKey) env w).2.db =
          { w.db with
            person := w.db.person.modify c.personID fun r => { r with isAdmin := c.isAdmin } } := by
  cases hf : env.fault w.tick with
  | some n =>
      have hstep : step (personDB sortKey) env
          (.write .pool (.inr (.setPersonAdmin c.isAdmin c.personID)) : PersonOp _) w =
          (.error (.mysql n), w.tock) := by
        simp only [step, World.view_pool, hf]
        rfl
      rw [writeAdmin, personExec, burst_attempt_bind ?_, hstep]
      · exact .inl ⟨⟨_, rfl⟩, rfl⟩
      · rw [hstep]
        exact htxn
  | none =>
      have hstep : step (personDB sortKey) env
          (.write .pool (.inr (.setPersonAdmin c.isAdmin c.personID)) : PersonOp _) w =
          (.ok (), w.store .pool { w.db with
            person := w.db.person.modify c.personID fun r => { r with isAdmin := c.isAdmin } }) := by
        simp only [step, World.view_pool, hf]
        rfl
      rw [writeAdmin, personExec, burst_attempt_bind ?_, hstep]
      · exact .inr ⟨rfl, rfl⟩
      · rw [hstep]
        exact htxn

theorem stage_of_telling (htxn : w.txn = none) :
    ((invalidateUsers : PersonGo ConnectError Unit).prog.burst (personDB sortKey) env w).2.db =
        w.db ∧
      ((invalidateUsers : PersonGo ConnectError Unit).prog.burst (personDB sortKey) env w).1 =
        .ret (.ok ()) := by
  have hburst : (invalidateUsers : PersonGo ConnectError Unit).prog.burst (personDB sortKey) env w =
      (.ret (.ok ()), { w with out := w.out ++ [.inr .invalidateUsers] }) := burst_op htxn
  rw [hburst]
  exact ⟨rfl, rfl⟩

/-- What one step of a call can do: go on without touching the flag, about to write it or not, or
write it. -/
theorem stage_of_burst {x : AdminProg} (hx : AdminStage c x) (htxn : w.txn = none) :
    AdminStage c (x.burst (personDB sortKey) env w).1 ∧
      ((x.burst (personDB sortKey) env w).2.db = w.db ∧
          (revokes (x.burst (personDB sortKey) env w).1 = none ∨
            revokes (x.burst (personDB sortKey) env w).1 = some c.personID ∧
              (¬ w.db.IsAdmin c.personID ∨ counts x = true ∧ 1 < w.db.countAdmins)) ∨
        revokes (x.burst (personDB sortKey) env w).1 = none ∧
          (c.isAdmin = false → revokes x = some c.personID) ∧
          (x.burst (personDB sortKey) env w).2.db = { w.db with
            person := w.db.person.modify c.personID fun r => { r with isAdmin := c.isAdmin } }) := by
  have hwriting : revokes (writeAdmin c).prog = none ∨
      c.isAdmin = false ∧ revokes (writeAdmin c).prog = some c.personID := by
    rw [revokes_writing]
    split
    · exact .inr ⟨‹_›, rfl⟩
    · exact .inl rfl
  cases hx with
  | start =>
      obtain ⟨hdb, ⟨r, hr⟩ | ⟨hrevoke, hcount⟩ | ⟨hsafe, hwrite⟩⟩ :=
        stage_of_start (c := c) sortKey env htxn
      · rw [hr]
        exact ⟨.done r, .inl ⟨hdb, .inl rfl⟩⟩
      · rw [hcount]
        exact ⟨.counting hrevoke, .inl ⟨hdb, .inl rfl⟩⟩
      · rw [hwrite]
        refine ⟨.writing, .inl ⟨hdb, hwriting.imp_right fun h => ⟨h.2, .inl ?_⟩⟩⟩
        exact hsafe.resolve_left fun hgrant => by rw [h.1] at hgrant; cases hgrant
  | counting hrevoke =>
      obtain ⟨hdb, ⟨r, hr⟩ | ⟨hcount, hwrite⟩⟩ :=
        stage_of_counting (c := c) sortKey env htxn
      · rw [hr]
        exact ⟨.done r, .inl ⟨hdb, .inl rfl⟩⟩
      · rw [hwrite]
        exact ⟨.writing, .inl ⟨hdb, hwriting.imp_right fun h => ⟨h.2, .inr ⟨rfl, hcount⟩⟩⟩⟩
  | writing =>
      obtain ⟨⟨r, hr⟩, hdb⟩ | ⟨htell, hdb⟩ :=
        stage_of_writing (c := c) sortKey env htxn
      · rw [hr]
        exact ⟨.done r, .inl ⟨hdb, .inl rfl⟩⟩
      · rw [htell]
        refine ⟨.telling, .inr ⟨rfl, fun hrevoke => ?_, hdb⟩⟩
        rw [revokes_writing, if_pos hrevoke]
  | telling =>
      obtain ⟨hdb, hdone⟩ := stage_of_telling sortKey env htxn
      rw [hdone]
      exact ⟨.done _, .inl ⟨hdb, .inl rfl⟩⟩
  | done r => exact ⟨.done r, .inl ⟨rfl, .inl rfl⟩⟩

end Stages

/-! ## Runs -/

section Runs

variable {ι : Type} [DecidableEq ι] {sortKey : String → String} {env : PersonEnv}
  {calls : ι → AdminCall}

/-- Every call is at one of its stages, and somebody who is not about to lose the flag has it. -/
structure AdminSound (calls : ι → AdminCall) (sys : AdminSys ι) : Prop where
  txn : sys.world.txn = none
  stage : ∀ i, AdminStage (calls i) (sys.procs i)
  admin : ∃ a, sys.world.db.IsAdmin a ∧ ¬ Pending sys a

theorem isAdmin_modify {db : DB} {p a : Int} {flag : Bool} (ha : db.IsAdmin a)
    (h : flag = true ∨ a ≠ p) :
    DB.IsAdmin { db with person := db.person.modify p fun r => { r with isAdmin := flag } } a := by
  obtain ⟨row, hrow, hadmin⟩ := ha
  by_cases hp : a = p
  · subst hp
    refine ⟨{ row with isAdmin := flag }, ?_, h.resolve_right fun hne => hne rfl⟩
    change (db.person.modify a _).find? a = _
    rw [Table.find?_modify, if_pos rfl, hrow]
    rfl
  · refine ⟨row, ?_, hadmin⟩
    change (db.person.modify p _).find? a = _
    rw [Table.find?_modify, if_neg hp, hrow]

/-- Where a call is about to take the flag from somebody after its step, the ones it leaves alone
and nobody else was about to revoke are as safe as before. -/
theorem not_pending_update {sys : AdminSys ι} {i : ι} {x : AdminProg} {w : PersonWorld} {a : Int}
    (ha : ¬ Pending sys a) (hx : revokes x ≠ some a) :
    ¬ Pending (⟨Function.update sys.procs i x, w⟩ : AdminSys ι) a := by
  rintro ⟨j, hj⟩
  change revokes (Function.update sys.procs i x j) = some a at hj
  by_cases hji : j = i
  · subst hji
    rw [Function.update_self] at hj
    exact hx hj
  · rw [Function.update_of_ne hji] at hj
    exact ha ⟨j, hj⟩

theorem sound_of_turn {sys sys' : AdminSys ι} (h : AdminSound calls sys) {i : ι}
    (hC : LeavesAnAdmin calls sys i)
    (hs : Sys.turn (personDB sortKey) env sys i = some sys') : AdminSound calls sys' := by
  obtain ⟨-, rfl⟩ := turn_eq_some.mp hs
  obtain ⟨hstage, hcases⟩ := stage_of_burst sortKey env (h.stage i) h.txn
  refine ⟨burst_txn _ _, fun j => ?_, ?_⟩
  · by_cases hj : j = i
    · subst hj
      simp only [Function.update_self]
      exact hstage
    · simp only [Function.update_of_ne hj]
      exact h.stage j
  · obtain ⟨a, ha, hpending⟩ := h.admin
    rcases hcases with ⟨hdb, hnone | ⟨hsome, hnot | ⟨hcounts, hcount⟩⟩⟩ | ⟨hnone, hwas, hdb⟩
    · refine ⟨a, by rw [hdb]; exact ha, not_pending_update hpending ?_⟩
      rw [hnone]
      nofun
    · -- Whoever it is about to revoke had no flag when it looked.
      refine ⟨a, by rw [hdb]; exact ha, not_pending_update hpending ?_⟩
      rw [hsome]
      rintro ⟨⟩
      exact hnot ha
    · obtain ⟨b, hne, hb, hpending⟩ := hC hcounts hcount
      refine ⟨b, by rw [hdb]; exact hb, not_pending_update hpending ?_⟩
      rw [hsome]
      rintro ⟨⟩
      exact hne rfl
    · refine ⟨a, ?_, not_pending_update hpending ?_⟩
      · rw [hdb]
        refine isAdmin_modify ha ?_
        cases hflag : (calls i).isAdmin with
        | true => exact .inl rfl
        | false =>
            refine .inr fun heq => hpending ⟨i, ?_⟩
            rw [hwas hflag, heq]
      · rw [hnone]
        nofun

/-- In every run in which each count that finds more than one administrator leaves one whom nobody
is about to revoke, an administrator remains. -/
theorem adminRemains_of_run (sortKey : String → String) (env : PersonEnv) (calls : ι → AdminCall)
    (db : DB) (nextId : Int) (hadmin : AdminRemains db) {as : List ι} {sys : AdminSys ι}
    (hr : RunMeeting (Sys.turn (personDB sortKey) env) (LeavesAnAdmin calls)
      (adminSys calls db nextId) as sys) : AdminRemains sys.world.db := by
  have hsound : AdminSound calls sys := by
    refine hr.invariant (I := fun _ sys => AdminSound calls sys) ?_
      fun _ _ _ _ h hC hs => sound_of_turn h hC hs
    obtain ⟨a, ha⟩ := hadmin
    refine ⟨rfl, fun i => .start, a, ha, ?_⟩
    rintro ⟨i, hi⟩
    exact nomatch revokes_call.symm.trans hi
  obtain ⟨a, ha, -⟩ := hsound.admin
  exact ⟨a, ha⟩

end Runs

/-! ## Two administrators who revoke each other -/

theorem DB.exists_isAdmin_iff {db : DB} {P : Int → Prop} :
    (∃ r ∈ db.person.rows, r.2.isAdmin = true ∧ P r.1) ↔ ∃ a, db.IsAdmin a ∧ P a := by
  constructor
  · rintro ⟨⟨a, p⟩, hmem, hadmin, ha⟩
    exact ⟨a, ⟨p, Table.find?_eq_some_iff.mpr hmem, hadmin⟩, ha⟩
  · rintro ⟨a, ⟨p, hfind, hadmin⟩, ha⟩
    exact ⟨(a, p), Table.find?_eq_some_iff.mp hfind, hadmin, ha⟩

instance (db : DB) : Decidable (AdminRemains db) :=
  decidable_of_iff (∃ r ∈ db.person.rows, r.2.isAdmin = true ∧ True) <| by
    rw [DB.exists_isAdmin_iff (P := fun _ => True)]
    simp only [and_true, AdminRemains]

instance {ι : Type} [Fintype ι] (sys : AdminSys ι) (a : Int) : Decidable (Pending sys a) :=
  inferInstanceAs (Decidable (∃ i, revokes (sys.procs i) = some a))

instance {ι : Type} [Fintype ι] (calls : ι → AdminCall) (sys : AdminSys ι) (i : ι) :
    Decidable (LeavesAnAdmin calls sys i) :=
  decidable_of_iff (counts (sys.procs i) = true → 1 < sys.world.db.countAdmins →
      ∃ r ∈ sys.world.db.person.rows, r.2.isAdmin = true ∧ r.1 ≠ (calls i).personID ∧
        ¬ Pending sys r.1) <| by
    rw [DB.exists_isAdmin_iff (P := fun a => a ≠ (calls i).personID ∧ ¬ Pending sys a)]
    simp only [LeavesAnAdmin, and_left_comm]

/-- Two administrators. -/
def twoAdminsDB : DB where
  person := (Table.empty.insert 1 { handle := some "Hawk", isAdmin := true }).insert 2
    { handle := some "Lark", isAdmin := true }

/-- Each takes the flag from the other. -/
def revokeEachOther : Bool → AdminCall
  | true => ⟨some { personID := 1, handle := "Hawk", admin := true }, 2, false⟩
  | false => ⟨some { personID := 2, handle := "Lark", admin := true }, 1, false⟩

/-- Both count two administrators before the first of them writes. -/
theorem not_adminRemains_revokeEachOther : AdminRemains twoAdminsDB ∧
    ¬ ∀ as sys, Run (Sys.turn (personDB id) stillPersonEnv)
      (adminSys revokeEachOther twoAdminsDB 3) as sys → AdminRemains sys.world.db := by
  refine ⟨by decide, fun hclaim => ?_⟩
  have hrun : (RunLib.exec (Sys.turn (personDB id) stillPersonEnv)
      (adminSys revokeEachOther twoAdminsDB 3) [true, true, false, false, true, false]).map
      (fun sys => decide (AdminRemains sys.world.db)) = some false := by decide
  obtain ⟨sys, hsys, hnone⟩ := Option.map_eq_some_iff.mp hrun
  exact of_decide_eq_false hnone (hclaim _ sys (run_of_exec hsys))

/-- One after the other, the second is refused: it finds one administrator. -/
theorem adminRemains_of_run_inTurn : ∃ sys,
    RunMeeting (Sys.turn (personDB id) stillPersonEnv) (LeavesAnAdmin revokeEachOther)
      (adminSys revokeEachOther twoAdminsDB 3) [true, true, true, true, false, false] sys ∧
    AdminRemains sys.world.db := by
  have hrun : (RunLib.exec (fun sys i => if LeavesAnAdmin revokeEachOther sys i
      then Sys.turn (personDB id) stillPersonEnv sys i else none)
      (adminSys revokeEachOther twoAdminsDB 3) [true, true, true, true, false, false]).isSome =
        true := by decide
  obtain ⟨sys, hsys⟩ := Option.isSome_iff_exists.mp hrun
  have hmeet := runMeeting_of_exec hsys
  exact ⟨sys, hmeet, adminRemains_of_run id stillPersonEnv revokeEachOther twoAdminsDB 3
    (by decide) hmeet⟩

end OcfIms
