import OcfIms.LibProg

/-!
# Programs against a transactional store

The operations of a program that talks to a relational store: reads and writes, each either on the
connection pool, where a write takes effect at once, or inside the transaction the program has
open; the transaction brackets themselves; questions to the environment (the clock, a directory);
and effects that leave the store alone (a message to subscribers). A statement may fail, because
the store rejects it or because the connection does.

`run` is the sequential machine: one program, alone on the store, against an environment that
decides the clock and which statements fail. An open transaction works on its own copy of the
store; a commit installs the copy, everything else drops it.
-/

namespace TxnLib

/-- Where a statement runs. -/
inductive Conn
  | pool
  | txn
  deriving DecidableEq, Repr

inductive DbOp (Rd Wr Ask : Type → Type) (ε Out : Type) : Type → Type 1
  | read {β : Type} (c : Conn) (q : Rd β) : DbOp Rd Wr Ask ε Out (Except ε β)
  | write {β : Type} (c : Conn) (q : Wr β) : DbOp Rd Wr Ask ε Out (Except ε β)
  | begin : DbOp Rd Wr Ask ε Out (Except ε Unit)
  | commit : DbOp Rd Wr Ask ε Out (Except ε Unit)
  | rollback : DbOp Rd Wr Ask ε Out Unit
  | ask {β : Type} (q : Ask β) : DbOp Rd Wr Ask ε Out β
  | emit (o : Out) : DbOp Rd Wr Ask ε Out Unit

/-- What the statements mean. A write is handed an identifier no earlier write was handed, for the
row it may insert under a generated key. -/
structure Store (Rd Wr : Type → Type) (ε σ : Type) where
  eval {β : Type} : Rd β → σ → Except ε β
  apply {β : Type} : Wr β → Int → σ → Except ε (β × σ)
  /-- A statement inside a transaction that is not open. -/
  txDone : ε
  /-- A statement the connection fails, with the driver's number of the failure. -/
  failed : Nat → ε

/-- The same store, understanding more statements. -/
def Store.extend {Rd Wr Rd' Wr' : Type → Type} {ε σ : Type} (S : Store Rd Wr ε σ)
    (eval : ∀ {β : Type}, Rd' β → σ → Except ε β)
    (apply : ∀ {β : Type}, Wr' β → Int → σ → Except ε (β × σ)) :
    Store (fun β => Rd β ⊕ Rd' β) (fun β => Wr β ⊕ Wr' β) ε σ where
  eval q s := q.elim (S.eval · s) (eval · s)
  apply q id s := q.elim (S.apply · id s) (apply · id s)
  txDone := S.txDone
  failed := S.failed

/-- What the program does not decide: the answers to its questions and the statements that fail,
both by the number of the operation. -/
structure Env (Ask : Type → Type) where
  answer : Nat → ∀ {β : Type}, Ask β → β
  fault : Nat → Option Nat

/-- No statement fails for a reason outside the store. -/
def Env.Quiet {Ask : Type → Type} (env : Env Ask) : Prop :=
  ∀ n, env.fault n = none

/-- An operation of a program that knows fewer statements. -/
def DbOp.widen {Rd Wr Ask Rd' Wr' Ask' : Type → Type} {ε Out Out' : Type} {β : Type} :
    DbOp Rd Wr Ask ε Out β →
      DbOp (fun β => Rd β ⊕ Rd' β) (fun β => Wr β ⊕ Wr' β) (fun β => Ask β ⊕ Ask' β) ε (Out ⊕ Out') β
  | .read c q => .read c (.inl q)
  | .write c q => .write c (.inl q)
  | .begin => .begin
  | .commit => .commit
  | .rollback => .rollback
  | .ask q => .ask (.inl q)
  | .emit o => .emit (.inl o)

structure World (σ Out : Type) where
  db : σ
  txn : Option σ := none
  tick : Nat := 0
  nextId : Int
  out : List Out := []

namespace World

variable {σ Out : Type}

/-- The state a statement on this connection sees. -/
def view (w : World σ Out) : Conn → Option σ
  | .pool => some w.db
  | .txn => w.txn

/-- Count an operation. -/
def tock (w : World σ Out) : World σ Out := { w with tick := w.tick + 1 }

/-- Record the outcome of a write on this connection. -/
def store (w : World σ Out) (c : Conn) (s : σ) : World σ Out :=
  match c with
  | .pool => { w with tick := w.tick + 1, nextId := w.nextId + 1, db := s }
  | .txn => { w with tick := w.tick + 1, nextId := w.nextId + 1, txn := some s }

@[simp] theorem tock_db (w : World σ Out) : w.tock.db = w.db := rfl
@[simp] theorem tock_txn (w : World σ Out) : w.tock.txn = w.txn := rfl
@[simp] theorem tock_nextId (w : World σ Out) : w.tock.nextId = w.nextId := rfl
@[simp] theorem tock_tick (w : World σ Out) : w.tock.tick = w.tick + 1 := rfl
@[simp] theorem tock_out (w : World σ Out) : w.tock.out = w.out := rfl
@[simp] theorem tock_view (w : World σ Out) (c : Conn) : w.tock.view c = w.view c := by
  cases c <;> rfl
@[simp] theorem view_pool (w : World σ Out) : w.view .pool = some w.db := rfl
@[simp] theorem view_txn (w : World σ Out) : w.view .txn = w.txn := rfl
@[simp] theorem store_view (w : World σ Out) (c : Conn) (s : σ) :
    (w.store c s).view c = some s := by
  cases c <;> rfl
@[simp] theorem store_pool_db (w : World σ Out) (s : σ) : (w.store .pool s).db = s := rfl
@[simp] theorem store_pool_txn (w : World σ Out) (s : σ) : (w.store .pool s).txn = w.txn := rfl
@[simp] theorem store_txn_db (w : World σ Out) (s : σ) : (w.store .txn s).db = w.db := rfl
@[simp] theorem store_txn_txn (w : World σ Out) (s : σ) : (w.store .txn s).txn = some s := rfl
@[simp] theorem store_tick (w : World σ Out) (c : Conn) (s : σ) :
    (w.store c s).tick = w.tick + 1 := by
  cases c <;> rfl
@[simp] theorem store_nextId (w : World σ Out) (c : Conn) (s : σ) :
    (w.store c s).nextId = w.nextId + 1 := by
  cases c <;> rfl

end World

section Machine

variable {Rd Wr Ask : Type → Type} {ε Out σ α β : Type}

/-- One operation of a program that is alone on the store. -/
def step (S : Store Rd Wr ε σ) (env : Env Ask) :
    {β : Type} → DbOp Rd Wr Ask ε Out β → World σ Out → β × World σ Out
  | _, .read c q, w =>
    match env.fault w.tick, w.view c with
    | some e, _ => (.error (S.failed e), w.tock)
    | none, none => (.error S.txDone, w.tock)
    | none, some s => (S.eval q s, w.tock)
  | _, .write c q, w =>
    match env.fault w.tick, w.view c with
    | some e, _ => (.error (S.failed e), w.tock)
    | none, none => (.error S.txDone, w.tock)
    | none, some s =>
      match S.apply q w.nextId s with
      | .error e => (.error e, w.tock)
      | .ok (b, s') => (.ok b, w.store c s')
  | _, .begin, w =>
    match env.fault w.tick with
    | some e => (.error (S.failed e), w.tock)
    | none => (.ok (), { w.tock with txn := some w.db })
  | _, .commit, w =>
    match env.fault w.tick, w.txn with
    | some e, _ => (.error (S.failed e), { w.tock with txn := none })
    | none, none => (.error S.txDone, w.tock)
    | none, some s => (.ok (), { w.tock with db := s, txn := none })
  | _, .rollback, w => ((), { w with txn := none })
  | _, .ask q, w => (env.answer w.tick q, w.tock)
  | _, .emit o, w => ((), { w with out := w.out ++ [o] })

/-- Run a program to its end. -/
def Prog.run (S : Store Rd Wr ε σ) (env : Env Ask) :
    Prog (DbOp Rd Wr Ask ε Out) α → World σ Out → α × World σ Out
  | .ret a, w => (a, w)
  | .op o k, w => (k (step S env o w).1).run S env (step S env o w).2

variable {S : Store Rd Wr ε σ} {env : Env Ask} {w w' : World σ Out}

@[simp] theorem Prog.run_ret (a : α) :
    (Prog.ret a : Prog (DbOp Rd Wr Ask ε Out) α).run S env w = (a, w) := rfl

theorem Prog.run_op (o : DbOp Rd Wr Ask ε Out β) (k : β → Prog (DbOp Rd Wr Ask ε Out) α) :
    (Prog.op o k).run S env w = (k (step S env o w).1).run S env (step S env o w).2 := rfl

theorem Prog.run_bind (f : α → Prog (DbOp Rd Wr Ask ε Out) β) :
    ∀ (x : Prog (DbOp Rd Wr Ask ε Out) α) (w : World σ Out),
      (x >>= f).run S env w = (f (x.run S env w).1).run S env (x.run S env w).2
  | .ret _, _ => rfl
  | .op o k, w => Prog.run_bind f (k (step S env o w).1) (step S env o w).2

/-- **The invariant rule.** If every permitted operation keeps the invariant and is answered as the
assumption says, then a program of permitted operations keeps it and returns what it announced. -/
theorem Prog.run_every {A : ∀ β : Type, DbOp Rd Wr Ask ε Out β → β → Prop}
    {P : ∀ β : Type, DbOp Rd Wr Ask ε Out β → Prop} {Q : α → Prop} {I : World σ Out → Prop}
    (hstep : ∀ β (o : DbOp Rd Wr Ask ε Out β) (w : World σ Out), I w → P β o →
      I (step S env o w).2 ∧ A β o (step S env o w).1) :
    ∀ {x : Prog (DbOp Rd Wr Ask ε Out) α} {w : World σ Out}, x.Every A P Q → I w →
      I (x.run S env w).2 ∧ Q (x.run S env w).1
  | .ret _, _, hx, hw => ⟨hw, hx⟩
  | .op o _, w, hx, hw =>
      have h := hstep _ o w hw hx.1
      have ih := Prog.run_every hstep (hx.2 _ h.2) h.1
      ih

/-! ## Calls -/

/-- Run a call: its answer and the world it leaves. -/
def Call.run (S : Store Rd Wr ε σ) (env : Env Ask) {η : Type}
    (x : Call (DbOp Rd Wr Ask ε Out) η α) (w : World σ Out) : Except η α × World σ Out :=
  x.prog.run S env w

namespace Call

variable {η η' : Type} {x : Call (DbOp Rd Wr Ask ε Out) η α}
  {f : α → Call (DbOp Rd Wr Ask ε Out) η β}

@[simp] theorem run_pure (a : α) :
    (pure a : Call (DbOp Rd Wr Ask ε Out) η α).run S env w = (.ok a, w) := rfl

@[simp] theorem run_throw (e : η) :
    (throw e : Call (DbOp Rd Wr Ask ε Out) η α).run S env w = (.error e, w) := rfl

theorem run_bind : (x >>= f).run S env w =
    match x.run S env w with
    | (.ok a, w₁) => (f a).run S env w₁
    | (.error e, w₁) => (.error e, w₁) := by
  simp only [Call.run, prog_bind, Prog.run_bind]
  rcases x.prog.run S env w with ⟨_ | _, _⟩ <;> rfl

theorem run_bind_ok {a : α} {w₁ : World σ Out} (h : x.run S env w = (.ok a, w₁)) :
    (x >>= f).run S env w = (f a).run S env w₁ := by
  rw [run_bind, h]

theorem run_bind_error {e : η} {w₁ : World σ Out} (h : x.run S env w = (.error e, w₁)) :
    (x >>= f).run S env w = (.error e, w₁) := by
  rw [run_bind, h]

theorem run_bind_eq_ok {b : β} : (x >>= f).run S env w = (.ok b, w') ↔
    ∃ a w₁, x.run S env w = (.ok a, w₁) ∧ (f a).run S env w₁ = (.ok b, w') := by
  rw [run_bind]
  rcases x.run S env w with ⟨_ | a, w₁⟩
  · simp
  · simp [Prod.ext_iff, and_assoc]

theorem run_bind_eq_error {e : η} : (x >>= f).run S env w = (.error e, w') ↔
    x.run S env w = (.error e, w') ∨
      ∃ a w₁, x.run S env w = (.ok a, w₁) ∧ (f a).run S env w₁ = (.error e, w') := by
  rw [run_bind]
  rcases x.run S env w with ⟨_ | a, w₁⟩
  · simp
  · simp [Prod.ext_iff, and_assoc]

@[simp] theorem run_mapErr (g : η → η') : (mapErr g x).run S env w =
    ((x.run S env w).1.mapError g, (x.run S env w).2) := by
  simp only [Call.run, mapErr, prog, ExceptT.mk, Prog.run_bind]
  rfl

@[simp] theorem run_result : (result x : Call _ η' _).run S env w =
    (.ok (x.run S env w).1, (x.run S env w).2) := by
  simp only [Call.run, result, prog, ExceptT.lift, ExceptT.mk, map_eq_pure_bind, Prog.run_bind]
  rfl

theorem run_ensure (c : Bool) (e : η) :
    (ensure c e : Call (DbOp Rd Wr Ask ε Out) η Unit).run S env w =
      (if c then .ok () else .error e, w) := by
  cases c <;> rfl

theorem run_perform (o : DbOp Rd Wr Ask ε Out α) :
    (perform o : Call _ η α).run S env w = (.ok (step S env o w).1, (step S env o w).2) := by
  simp only [Call.run, perform, prog, ExceptT.lift, ExceptT.mk, map_eq_pure_bind, Prog.run_bind]
  rfl

@[simp] theorem run_attempt (o : DbOp Rd Wr Ask ε Out (Except η α)) :
    (attempt o).run S env w = step S env o w := rfl

/-- A call that knows fewer statements. -/
def widen {Rd' Wr' Ask' : Type → Type} {Out' : Type} (x : Call (DbOp Rd Wr Ask ε Out) η α) :
    Call (DbOp (fun β => Rd β ⊕ Rd' β) (fun β => Wr β ⊕ Wr' β) (fun β => Ask β ⊕ Ask' β) ε
      (Out ⊕ Out')) η α :=
  x.prog.mapOp fun _ => DbOp.widen

theorem widen_bind {Rd' Wr' Ask' : Type → Type} {Out' : Type} (x : Call (DbOp Rd Wr Ask ε Out) η α)
    (f : α → Call (DbOp Rd Wr Ask ε Out) η β) :
    ((x >>= f).widen : Call (DbOp (fun β => Rd β ⊕ Rd' β) (fun β => Wr β ⊕ Wr' β)
      (fun β => Ask β ⊕ Ask' β) ε (Out ⊕ Out')) η β) = x.widen >>= fun a => (f a).widen := by
  refine (Prog.mapOp_bind _ _ x.prog).trans ?_
  refine congrArg (Prog.bind (x.prog.mapOp fun _ => DbOp.widen)) (funext fun r => ?_)
  cases r <;> rfl

theorem every_widen {Rd' Wr' Ask' : Type → Type} {Out' : Type}
    {A : ∀ β : Type, DbOp Rd Wr Ask ε Out β → β → Prop}
    {P : ∀ β : Type, DbOp Rd Wr Ask ε Out β → Prop}
    {B : ∀ β : Type, DbOp (fun β => Rd β ⊕ Rd' β) (fun β => Wr β ⊕ Wr' β)
      (fun β => Ask β ⊕ Ask' β) ε (Out ⊕ Out') β → β → Prop}
    {R : ∀ β : Type, DbOp (fun β => Rd β ⊕ Rd' β) (fun β => Wr β ⊕ Wr' β)
      (fun β => Ask β ⊕ Ask' β) ε (Out ⊕ Out') β → Prop} {E : η → Prop} {Q : α → Prop}
    (hR : ∀ β (o : DbOp Rd Wr Ask ε Out β), P β o → R β o.widen)
    (hB : ∀ β (o : DbOp Rd Wr Ask ε Out β) b, B β o.widen b → A β o b) (hx : x.Every A P E Q) :
    x.widen.Every B R E Q :=
  Prog.Every.mapOp hR hB hx

/-- Run the body, then roll back the transaction it left open, if it left one open. -/
def deferRollback (x : Call (DbOp Rd Wr Ask ε Out) η α) : Call (DbOp Rd Wr Ask ε Out) η α :=
  ExceptT.mk (x.prog >>= fun r => .op .rollback fun _ => .ret r)

@[simp] theorem run_deferRollback : x.deferRollback.run S env w =
    ((x.run S env w).1, { (x.run S env w).2 with txn := none }) := by
  simp only [Call.run, deferRollback, prog, ExceptT.mk, Prog.run_bind]
  rfl

theorem every_deferRollback {A : ∀ β : Type, DbOp Rd Wr Ask ε Out β → β → Prop}
    {P : ∀ β : Type, DbOp Rd Wr Ask ε Out β → Prop} {E : η → Prop} {Q : α → Prop}
    (hP : P _ .rollback) (h : x.Every A P E Q) : x.deferRollback.Every A P E Q := by
  refine Prog.Every.bind (fun r hr => ?_) h
  exact ⟨hP, fun _ _ => hr⟩

/-- One attempt at a transaction: open it, run the body, and commit. `again` is what to do after a
failure that `retry` calls passing. -/
def attemptTx (lift : ε → η) (retry : η → Bool) (body : Call (DbOp Rd Wr Ask ε Out) η α)
    (again : η → Call (DbOp Rd Wr Ask ε Out) η α) : Call (DbOp Rd Wr Ask ε Out) η α := do
  mapErr lift (attempt .begin)
  match ← result body with
  | .error err => do
    perform .rollback
    if retry err then again err else throw err
  | .ok a => do
    match ← result (mapErr lift (attempt .commit)) with
    | .ok () => pure a
    | .error err => if retry err then again err else throw err

/-- A transaction, with so many attempts left after the first. -/
def runInTx (lift : ε → η) (retry : η → Bool) (body : Call (DbOp Rd Wr Ask ε Out) η α) :
    Nat → Call (DbOp Rd Wr Ask ε Out) η α
  | 0 => attemptTx lift retry body throw
  | retries + 1 => attemptTx lift retry body fun _ => runInTx lift retry body retries

/-- A body that succeeds is committed at the first attempt, if nothing fails from outside. -/
theorem run_runInTx {lift : ε → η} {retry : η → Bool} {a : α} {w₁ : World σ Out} {s : σ}
    (hq : env.Quiet) (hbody : x.run S env { w.tock with txn := some w.db } = (.ok a, w₁))
    (hs : w₁.txn = some s) (retries : Nat) : (runInTx lift retry x retries).run S env w =
      (.ok a, { w₁.tock with db := s, txn := none }) := by
  have hattempt : ∀ again, (attemptTx lift retry x again).run S env w =
      (.ok a, { w₁.tock with db := s, txn := none }) := by
    intro again
    have hbegin : (mapErr lift (attempt .begin) : Call (DbOp Rd Wr Ask ε Out) η Unit).run S env w =
        (.ok (), { w.tock with txn := some w.db }) := by
      simp only [run_mapErr, run_attempt, step, hq w.tick]
      rfl
    have hresult : (result x : Call _ η _).run S env { w.tock with txn := some w.db } =
        (.ok (.ok a), w₁) := by
      rw [run_result, hbody]
    have hcommit : (result (mapErr lift (attempt .commit)) :
        Call (DbOp Rd Wr Ask ε Out) η (Except η Unit)).run S env w₁ =
          (.ok (.ok ()), { w₁.tock with db := s, txn := none }) := by
      simp only [run_result, run_mapErr, run_attempt, step, hq w₁.tick, hs]
      rfl
    rw [attemptTx, run_bind_ok hbegin, run_bind_ok hresult]
    dsimp only
    rw [run_bind_ok hcommit]
    rfl
  cases retries with
  | zero => exact hattempt _
  | succ retries => exact hattempt _

section

variable {A : ∀ β : Type, DbOp Rd Wr Ask ε Out β → β → Prop}
  {P : ∀ β : Type, DbOp Rd Wr Ask ε Out β → Prop} {E : η → Prop} {Q : α → Prop}

theorem every_attemptTx {lift : ε → η} {retry : η → Bool}
    {again : η → Call (DbOp Rd Wr Ask ε Out) η α} (hbegin : P _ .begin) (hcommit : P _ .commit)
    (hrollback : P _ .rollback) (hE : ∀ e, E (lift e)) (hx : x.Every A P E Q)
    (hagain : ∀ e, E e → (again e).Every A P E Q) :
    (attemptTx lift retry x again).Every A P E Q := by
  have hfail : ∀ e, E e →
      (if retry e then again e else throw e : Call (DbOp Rd Wr Ask ε Out) η α).Every A P E Q :=
    fun e he => every_ite (fun _ => hagain e he) fun _ => every_throw he
  rw [attemptTx]
  refine every_bind (Q := fun _ => True)
    (every_mapErr (every_attempt hbegin (fun e _ => hE e) fun _ _ => trivial)) fun _ _ => ?_
  refine every_bind (every_result hx) fun r hr => ?_
  cases r with
  | error err => exact every_bind (every_perform hrollback fun _ _ => trivial) fun _ _ => hfail err hr
  | ok a =>
      refine every_bind (every_result (E := E) (Q := fun _ => True)
        (every_mapErr (every_attempt hcommit (fun e _ => hE e) fun _ _ => trivial))) fun r' hr' => ?_
      cases r' with
      | ok _ => exact every_pure hr
      | error err => exact hfail err hr'

theorem every_runInTx {lift : ε → η} {retry : η → Bool} (hbegin : P _ .begin)
    (hcommit : P _ .commit) (hrollback : P _ .rollback) (hE : ∀ e, E (lift e))
    (hx : x.Every A P E Q) : ∀ retries, (runInTx lift retry x retries).Every A P E Q
  | 0 => every_attemptTx hbegin hcommit hrollback hE hx fun _ he => every_throw he
  | retries + 1 => every_attemptTx hbegin hcommit hrollback hE hx fun _ _ =>
      every_runInTx hbegin hcommit hrollback hE hx retries

end

/-- The invariant rule for calls. -/
theorem run_every {A : ∀ β : Type, DbOp Rd Wr Ask ε Out β → β → Prop}
    {P : ∀ β : Type, DbOp Rd Wr Ask ε Out β → Prop} {E : η → Prop} {Q : α → Prop}
    {I : World σ Out → Prop}
    (hstep : ∀ β (o : DbOp Rd Wr Ask ε Out β) (w : World σ Out), I w → P β o →
      I (step S env o w).2 ∧ A β o (step S env o w).1)
    (hx : x.Every A P E Q) (hw : I w) :
    I (x.run S env w).2 ∧ Outcome E Q (x.run S env w).1 :=
  Prog.run_every hstep hx hw

/-- The errors of a call, where nothing is assumed about what it is answered. -/
theorem error_of_every {P : ∀ β : Type, DbOp Rd Wr Ask ε Out β → Prop} {E : η → Prop}
    {Q : α → Prop} (hx : x.Every (fun _ _ _ => True) P E Q) {e : η}
    (h : (x.run S env w).1 = .error e) : E e := by
  have hrun : Outcome E Q (x.run S env w).1 := (run_every (I := fun _ => True)
    (fun _ _ _ _ _ => ⟨trivial, trivial⟩) hx trivial).2
  rw [h] at hrun
  exact hrun

/-- What a call returns, where nothing is assumed about what it is answered. -/
theorem value_of_every {P : ∀ β : Type, DbOp Rd Wr Ask ε Out β → Prop} {E : η → Prop}
    {Q : α → Prop} (hx : x.Every (fun _ _ _ => True) P E Q) {a : α}
    (h : x.run S env w = (.ok a, w')) : Q a := by
  have hrun : Outcome E Q (x.run S env w).1 := (run_every (I := fun _ => True)
    (fun _ _ _ _ _ => ⟨trivial, trivial⟩) hx trivial).2
  rw [h] at hrun
  exact hrun

end Call

/-! ## Single statements -/

section Statements

variable {c : Conn} {s : σ}

theorem step_read (q : Rd β) (hf : env.fault w.tick = none) (hs : w.view c = some s) :
    step S env (.read c q : DbOp Rd Wr Ask ε Out _) w = (S.eval q s, w.tock) := by
  simp only [step, hf, hs]

theorem step_read_eq_ok {q : Rd β} {b : β} :
    step S env (.read c q : DbOp Rd Wr Ask ε Out _) w = (.ok b, w') ↔
      env.fault w.tick = none ∧ ∃ s, w.view c = some s ∧ S.eval q s = .ok b ∧ w' = w.tock := by
  simp only [step]
  cases env.fault w.tick with
  | some e => simp
  | none =>
      cases w.view c with
      | none => simp
      | some s => simp [eq_comm]

theorem step_write_eq_ok {q : Wr β} {b : β} :
    step S env (.write c q : DbOp Rd Wr Ask ε Out _) w = (.ok b, w') ↔
      env.fault w.tick = none ∧ ∃ s s', w.view c = some s ∧
        S.apply q w.nextId s = .ok (b, s') ∧ w' = w.store c s' := by
  simp only [step]
  cases env.fault w.tick with
  | some e => simp
  | none =>
      cases w.view c with
      | none => simp
      | some s =>
          cases hq : S.apply q w.nextId s with
          | error e => simp [hq]
          | ok r => simp [hq, eq_comm, Prod.ext_iff, and_assoc]

theorem step_begin_eq_ok :
    step S env (.begin : DbOp Rd Wr Ask ε Out _) w = (.ok (), w') ↔
      env.fault w.tick = none ∧ w' = { w.tock with txn := some w.db } := by
  simp only [step]
  cases env.fault w.tick <;> simp [eq_comm]

end Statements

/-! ## Answers of reading programs

Where no statement fails from outside, a program that only reads the pool is a function of the
store: `Answers` says what it returns and that it leaves everything but the clock alone. -/

section Answers

variable {η η' : Type} {s : σ}

/-- In a store state `s`, wherever the clock stands, the call ends with `r` and changes nothing. -/
def Call.Answers (S : Store Rd Wr ε σ) (env : Env Ask) (s : σ)
    (x : Call (DbOp Rd Wr Ask ε Out) η α) (r : Except η α) : Prop :=
  ∀ w : World σ Out, w.db = s → ∃ t, x.run S env w = (r, { w with tick := t })

namespace Call

variable {x : Call (DbOp Rd Wr Ask ε Out) η α} {f : α → Call (DbOp Rd Wr Ask ε Out) η β}

theorem answers_pure (a : α) :
    (pure a : Call (DbOp Rd Wr Ask ε Out) η α).Answers S env s (.ok a) :=
  fun w _ => ⟨w.tick, rfl⟩

theorem answers_throw (e : η) :
    (throw e : Call (DbOp Rd Wr Ask ε Out) η α).Answers S env s (.error e) :=
  fun w _ => ⟨w.tick, rfl⟩

theorem Answers.bind {a : α} {r : Except η β} (hx : x.Answers S env s (.ok a))
    (hf : (f a).Answers S env s r) : (x >>= f).Answers S env s r := by
  intro w hw
  obtain ⟨t, ht⟩ := hx w hw
  obtain ⟨t', ht'⟩ := hf { w with tick := t } hw
  exact ⟨t', by rw [run_bind_ok ht, ht']⟩

/-- The answer of a composition, where the answer of each half is known as a function. -/
theorem Answers.bind_except {r : Except η α} {g : α → Except η β} (hx : x.Answers S env s r)
    (hf : ∀ a, r = .ok a → (f a).Answers S env s (g a)) : (x >>= f).Answers S env s (r.bind g) := by
  cases r with
  | ok a => exact hx.bind (hf a rfl)
  | error e =>
      intro w hw
      obtain ⟨t, ht⟩ := hx w hw
      exact ⟨t, run_bind_error ht⟩

theorem Answers.bind_error {e : η} (hx : x.Answers S env s (.error e)) :
    (x >>= f).Answers S env s (.error e) := by
  intro w hw
  obtain ⟨t, ht⟩ := hx w hw
  exact ⟨t, run_bind_error ht⟩

/-- Whatever follows a program that answers runs in the same store, at a later time. -/
theorem Answers.run_bind {a : α} (hx : x.Answers S env s (.ok a)) {w : World σ Out} (hw : w.db = s) :
    ∃ t, (x >>= f).run S env w = (f a).run S env { w with tick := t } := by
  obtain ⟨t, ht⟩ := hx w hw
  exact ⟨t, run_bind_ok ht⟩

theorem Answers.mapErr {r : Except η α} (g : η → η') (hx : x.Answers S env s r) :
    (mapErr g x).Answers S env s (r.mapError g) := by
  intro w hw
  obtain ⟨t, ht⟩ := hx w hw
  exact ⟨t, by rw [run_mapErr, ht]⟩

theorem Answers.result {r : Except η α} (hx : x.Answers S env s r) :
    (result x : Call _ η' _).Answers S env s (.ok r) := by
  intro w hw
  obtain ⟨t, ht⟩ := hx w hw
  exact ⟨t, by rw [run_result, ht]⟩

theorem answers_ensure (c : Bool) (e : η) :
    (ensure c e : Call (DbOp Rd Wr Ask ε Out) η Unit).Answers S env s
      (if c then .ok () else .error e) := by
  intro w _
  exact ⟨w.tick, run_ensure c e⟩

theorem answers_read (hq : env.Quiet) (q : Rd α) :
    (attempt (.read .pool q) : Call (DbOp Rd Wr Ask ε Out) ε α).Answers S env s (S.eval q s) := by
  rintro w rfl
  refine ⟨w.tick + 1, ?_⟩
  rw [run_attempt, step_read q (hq w.tick) (World.view_pool w)]
  rfl

theorem Answers.run_fst {r : Except η α} (hx : x.Answers S env s r) {w : World σ Out}
    (hw : w.db = s) : (x.run S env w).1 = r := by
  obtain ⟨t, ht⟩ := hx w hw
  rw [ht]

end Call

end Answers

/-! ## Reading programs, statement by statement

Where statements may fail from outside, a reading program still has a simple shape if it gives up at
the first one that does: `Reads` also says how many statements it takes. -/

/-- None of the `k` operations from time `t` on fails from outside. -/
def Env.QuietFor {Ask : Type → Type} (env : Env Ask) (t k : Nat) : Prop :=
  ∀ i < k, env.fault (t + i) = none

theorem Env.Quiet.quietFor (hq : env.Quiet) (t k : Nat) : env.QuietFor t k := fun _ _ => hq _

theorem Env.quietFor_add {t k l : Nat} :
    env.QuietFor t (k + l) ↔ env.QuietFor t k ∧ env.QuietFor (t + k) l := by
  constructor
  · refine fun h => ⟨fun i hi => h i (by omega), fun i hi => ?_⟩
    rw [Nat.add_assoc]
    exact h (k + i) (by omega)
  · rintro ⟨hk, hl⟩ i hi
    by_cases h : i < k
    · exact hk i h
    · have := hl (i - k) (by omega)
      rwa [Nat.add_assoc, Nat.add_sub_of_le (by omega)] at this

theorem Env.quietFor_one {t : Nat} : env.QuietFor t 1 ↔ env.fault t = none := by
  refine ⟨fun h => h 0 Nat.one_pos, fun h i hi => ?_⟩
  rwa [Nat.lt_one_iff.mp hi]

section Reads

variable {η η' : Type} {s : σ} {k l : Nat}

/-- In a store state `s` the program issues `k` reads of the pool and ends with `r`, unless one of
them fails from outside: then it ends with an error. Either way it only moves the clock. -/
def Call.Reads (S : Store Rd Wr ε σ) (env : Env Ask) (s : σ)
    (x : Call (DbOp Rd Wr Ask ε Out) η α) (r : Except η α) (k : Nat) : Prop :=
  ∀ w : World σ Out, w.db = s →
    (env.QuietFor w.tick k → x.run S env w = (r, { w with tick := w.tick + k })) ∧
      (¬ env.QuietFor w.tick k → ∃ e t, x.run S env w = (.error e, { w with tick := t }))

namespace Call

variable {x : Call (DbOp Rd Wr Ask ε Out) η α} {f : α → Call (DbOp Rd Wr Ask ε Out) η β}

theorem Reads.answers {r : Except η α} (hx : x.Reads S env s r k) (hq : env.Quiet) :
    x.Answers S env s r :=
  fun w hw => ⟨w.tick + k, (hx w hw).1 (hq.quietFor _ _)⟩

theorem reads_pure (a : α) : (pure a : Call (DbOp Rd Wr Ask ε Out) η α).Reads S env s (.ok a) 0 :=
  fun _ _ => ⟨fun _ => rfl, fun h => (h fun _ hi => absurd hi (Nat.not_lt_zero _)).elim⟩

theorem Reads.bind {a : α} {r : Except η β} (hx : x.Reads S env s (.ok a) k)
    (hf : (f a).Reads S env s r l) : (x >>= f).Reads S env s r (k + l) := by
  intro w hw
  rw [Env.quietFor_add]
  by_cases hk : env.QuietFor w.tick k
  · have hrun := (hx w hw).1 hk
    obtain ⟨hquiet, hfault⟩ := hf { w with tick := w.tick + k } hw
    rw [run_bind_ok hrun]
    refine ⟨fun h => ?_, fun h => hfault fun hl => h ⟨hk, hl⟩⟩
    rw [hquiet h.2, ← Nat.add_assoc]
  · obtain ⟨e, t, hrun⟩ := (hx w hw).2 hk
    exact ⟨fun h => (hk h.1).elim, fun _ => ⟨e, t, run_bind_error hrun⟩⟩

theorem Reads.bind_error {e : η} (hx : x.Reads S env s (.error e) k) :
    (x >>= f).Reads S env s (.error e) k := by
  intro w hw
  refine ⟨fun h => run_bind_error ((hx w hw).1 h), fun h => ?_⟩
  obtain ⟨e', t, hrun⟩ := (hx w hw).2 h
  exact ⟨e', t, run_bind_error hrun⟩

theorem Reads.mapErr {r : Except η α} (g : η → η') (hx : x.Reads S env s r k) :
    (mapErr g x).Reads S env s (r.mapError g) k := by
  intro w hw
  rw [run_mapErr]
  refine ⟨fun h => by rw [(hx w hw).1 h], fun h => ?_⟩
  obtain ⟨e, t, hrun⟩ := (hx w hw).2 h
  exact ⟨g e, t, by rw [hrun]; rfl⟩

theorem run_read_fault {q : Rd α} {w : World σ Out} {n : Nat} (hf : env.fault w.tick = some n) :
    (attempt (.read .pool q) : Call (DbOp Rd Wr Ask ε Out) ε α).run S env w =
      (.error (S.failed n), w.tock) := by
  simp only [run_attempt, step, hf]

theorem reads_read (q : Rd α) :
    (attempt (.read .pool q) : Call (DbOp Rd Wr Ask ε Out) ε α).Reads S env s (S.eval q s) 1 := by
  rintro w rfl
  rw [Env.quietFor_one]
  refine ⟨fun h => ?_, fun h => ?_⟩
  · rw [run_attempt, step_read q h (World.view_pool w)]
    rfl
  obtain ⟨n, hn⟩ := Option.ne_none_iff_exists'.mp h
  exact ⟨_, w.tick + 1, run_read_fault hn⟩

/-- A read whose error is looked at: the rest must give up on one from outside. -/
theorem reads_tried {q : Rd α} {g : ε → η'} {f : Except η' α → Call (DbOp Rd Wr Ask ε Out) η β}
    {r : Except η β} (hf : (f ((S.eval q s).mapError g)).Reads S env s r k)
    (hfail : ∀ n (w : World σ Out), ∃ e, (f (.error (g (S.failed n)))).run S env w = (.error e, w)) :
    (result (mapErr g (attempt (.read .pool q))) >>= f).Reads S env s r (1 + k) := by
  rintro w rfl
  rw [Env.quietFor_add, Env.quietFor_one]
  cases hfault : env.fault w.tick with
  | none =>
      have hrun : (result (mapErr g (attempt (.read .pool q))) :
          Call (DbOp Rd Wr Ask ε Out) η (Except η' α)).run S env w =
            (.ok ((S.eval q w.db).mapError g), { w with tick := w.tick + 1 }) := by
        rw [run_result, run_mapErr, run_attempt, step_read q hfault (World.view_pool w)]
        rfl
      obtain ⟨hquiet, hfault'⟩ := hf { w with tick := w.tick + 1 } rfl
      rw [run_bind_ok hrun]
      refine ⟨fun h => ?_, fun h => hfault' fun hk => h ⟨rfl, hk⟩⟩
      rw [hquiet h.2, ← Nat.add_assoc]
  | some n =>
      have hrun : (result (mapErr g (attempt (.read .pool q))) :
          Call (DbOp Rd Wr Ask ε Out) η (Except η' α)).run S env w =
            (.ok (.error (g (S.failed n))), w.tock) := by
        rw [run_result, run_mapErr, run_read_fault hfault]
        rfl
      obtain ⟨e, hgive⟩ := hfail n w.tock
      rw [run_bind_ok hrun, hgive]
      exact ⟨fun h => (nomatch h.1), fun _ => ⟨e, w.tick + 1, rfl⟩⟩

/-- In a store state `s` the program issues `k` reads of the pool and goes on as `y`, unless one of
them fails from outside: then it ends with an error. -/
def Reaches (S : Store Rd Wr ε σ) (env : Env Ask) (s : σ) (x : Call (DbOp Rd Wr Ask ε Out) η α)
    (k : Nat) (y : Call (DbOp Rd Wr Ask ε Out) η α) : Prop :=
  ∀ w : World σ Out, w.db = s →
    (env.QuietFor w.tick k → x.run S env w = y.run S env { w with tick := w.tick + k }) ∧
      (¬ env.QuietFor w.tick k → ∃ e t, x.run S env w = (.error e, { w with tick := t }))

variable {y : Call (DbOp Rd Wr Ask ε Out) η β} {z : Call (DbOp Rd Wr Ask ε Out) η β}

theorem Reads.reaches {a : α} (hx : x.Reads S env s (.ok a) k) : Reaches S env s (x >>= f) k (f a) := by
  intro w hw
  refine ⟨fun h => run_bind_ok ((hx w hw).1 h), fun h => ?_⟩
  obtain ⟨e, t, hrun⟩ := (hx w hw).2 h
  exact ⟨e, t, run_bind_error hrun⟩

theorem Reaches.trans {x : Call (DbOp Rd Wr Ask ε Out) η β} (hx : Reaches S env s x k y)
    (hy : Reaches S env s y l z) : Reaches S env s x (k + l) z := by
  intro w hw
  rw [Env.quietFor_add]
  by_cases hk : env.QuietFor w.tick k
  · obtain ⟨hquiet, hfault⟩ := hy { w with tick := w.tick + k } hw
    rw [(hx w hw).1 hk]
    refine ⟨fun h => ?_, fun h => hfault fun hl => h ⟨hk, hl⟩⟩
    rw [hquiet h.2, ← Nat.add_assoc]
  · obtain ⟨e, t, hrun⟩ := (hx w hw).2 hk
    exact ⟨fun h => (hk h.1).elim, fun _ => ⟨e, t, hrun⟩⟩

theorem Reaches.reads {x : Call (DbOp Rd Wr Ask ε Out) η β} {r : Except η β}
    (hx : Reaches S env s x k y) (hy : y.Reads S env s r l) : x.Reads S env s r (k + l) := by
  intro w hw
  rw [Env.quietFor_add]
  by_cases hk : env.QuietFor w.tick k
  · obtain ⟨hquiet, hfault⟩ := hy { w with tick := w.tick + k } hw
    rw [(hx w hw).1 hk]
    refine ⟨fun h => ?_, fun h => hfault fun hl => h ⟨hk, hl⟩⟩
    rw [hquiet h.2, ← Nat.add_assoc]
  · obtain ⟨e, t, hrun⟩ := (hx w hw).2 hk
    exact ⟨fun h => (hk h.1).elim, fun _ => ⟨e, t, hrun⟩⟩

theorem reads_throw (e : η) :
    (throw e : Call (DbOp Rd Wr Ask ε Out) η α).Reads S env s (.error e) 0 :=
  fun _ _ => ⟨fun _ => rfl, fun h => (h fun _ hi => absurd hi (Nat.not_lt_zero _)).elim⟩

theorem reaches_ensure {c : Bool} {e : η} {g : Unit → Call (DbOp Rd Wr Ask ε Out) η β}
    (hc : c = true) : Reaches S env s (ensure c e >>= g) 0 (g ()) := by
  rw [hc]
  exact (reads_pure ()).reaches

theorem reads_ensure_error {c : Bool} {e : η} {g : Unit → Call (DbOp Rd Wr Ask ε Out) η β}
    (hc : c = false) : (ensure c e >>= g).Reads S env s (.error e) 0 := by
  rw [hc]
  exact (reads_throw e).bind_error

end Call

end Reads

/-! ## Programs that know fewer statements

A program run where there are more statements, questions and effects does as it does where there are
only its own. -/

section Widen

variable {Rd' Wr' Ask' : Type → Type} {Out' η : Type}
  {eval : ∀ {β : Type}, Rd' β → σ → Except ε β}
  {apply : ∀ {β : Type}, Wr' β → Int → σ → Except ε (β × σ)}

/-- The environment, as far as the program knows its questions. -/
def Env.narrow (env : Env fun β => Ask β ⊕ Ask' β) : Env Ask where
  answer n _ q := env.answer n (.inl q)
  fault := env.fault

/-- The world before the program has had any effect. -/
def World.bare (w : World σ (Out ⊕ Out')) : World σ Out where
  db := w.db
  txn := w.txn
  tick := w.tick
  nextId := w.nextId

/-- The world the program left, with its effects after those there were. -/
def World.wide (w : World σ Out) (before : List (Out ⊕ Out')) : World σ (Out ⊕ Out') where
  db := w.db
  txn := w.txn
  tick := w.tick
  nextId := w.nextId
  out := before ++ w.out.map .inl

@[simp] theorem World.wide_bare (w : World σ (Out ⊕ Out')) : w.bare.wide w.out = w := by
  simp [World.bare, World.wide]

@[simp] theorem Env.narrow_fault (env : Env fun β => Ask β ⊕ Ask' β) (t : Nat) :
    env.narrow.fault t = env.fault t := rfl

@[simp] theorem World.wide_tick (w : World σ Out) (before : List (Out ⊕ Out')) :
    (w.wide before).tick = w.tick := rfl

@[simp] theorem World.wide_txn (w : World σ Out) (before : List (Out ⊕ Out')) :
    (w.wide before).txn = w.txn := rfl

@[simp] theorem World.wide_view (w : World σ Out) (before : List (Out ⊕ Out')) (c : Conn) :
    (w.wide before).view c = w.view c := by
  cases c <;> rfl

theorem step_widen {env : Env fun β => Ask β ⊕ Ask' β} (o : DbOp Rd Wr Ask ε Out β)
    (w : World σ Out) (before : List (Out ⊕ Out')) :
    step (S.extend eval apply) env o.widen (w.wide before) =
      ((step S env.narrow o w).1, (step S env.narrow o w).2.wide before) := by
  cases o with
  | read c q =>
      simp only [DbOp.widen, step, World.wide_view, World.wide_tick, Env.narrow_fault]
      cases env.fault w.tick with
      | some e => rfl
      | none => cases w.view c <;> rfl
  | write c q =>
      simp only [DbOp.widen, step, World.wide_view, World.wide_tick, Env.narrow_fault]
      cases env.fault w.tick with
      | some e => rfl
      | none =>
          cases w.view c with
          | none => rfl
          | some s =>
              have happly : (S.extend eval apply).apply (.inl q) (w.wide before).nextId s =
                  S.apply q w.nextId s := rfl
              simp only [happly]
              cases S.apply q w.nextId s with
              | error e => rfl
              | ok r => cases c <;> rfl
  | begin =>
      simp only [DbOp.widen, step, World.wide_tick, Env.narrow_fault]
      cases env.fault w.tick <;> rfl
  | commit =>
      simp only [DbOp.widen, step, World.wide_tick, World.wide_txn, Env.narrow_fault]
      cases env.fault w.tick with
      | some e => rfl
      | none => cases w.txn <;> rfl
  | rollback => rfl
  | ask q => rfl
  | emit o => simp [DbOp.widen, step, World.wide]

theorem Prog.run_widen {env : Env fun β => Ask β ⊕ Ask' β} {before : List (Out ⊕ Out')} :
    ∀ (x : Prog (DbOp Rd Wr Ask ε Out) α) (w : World σ Out),
      (x.mapOp fun _ => DbOp.widen).run (S.extend eval apply) env (w.wide before) =
        ((x.run S env.narrow w).1, (x.run S env.narrow w).2.wide before)
  | .ret _, _ => rfl
  | .op o k, w => by
      rw [Prog.mapOp, Prog.run_op, Prog.run_op, step_widen]
      exact Prog.run_widen _ _

/-- **The program alone says what it does anywhere.** -/
theorem Call.run_widen {env : Env fun β => Ask β ⊕ Ask' β} (x : Call (DbOp Rd Wr Ask ε Out) η α)
    (w : World σ (Out ⊕ Out')) : x.widen.run (S.extend eval apply) env w =
      ((x.run S env.narrow w.bare).1, (x.run S env.narrow w.bare).2.wide w.out) := by
  have hrun : (x.prog.mapOp fun _ => DbOp.widen).run (S.extend eval apply) env (w.bare.wide w.out) =
      ((x.prog.run S env.narrow w.bare).1, (x.prog.run S env.narrow w.bare).2.wide w.out) :=
    Prog.run_widen x.prog w.bare
  rw [World.wide_bare] at hrun
  exact hrun

theorem Call.Reads.widen {env : Env fun β => Ask β ⊕ Ask' β} {s : σ} {k : Nat}
    {x : Call (DbOp Rd Wr Ask ε Out) η α} {r : Except η α} (hx : x.Reads S env.narrow s r k) :
    (x.widen : Call (DbOp (fun β => Rd β ⊕ Rd' β) (fun β => Wr β ⊕ Wr' β) (fun β => Ask β ⊕ Ask' β)
      ε (Out ⊕ Out')) η α).Reads (S.extend eval apply) env s r k := by
  intro w hw
  rw [Call.run_widen]
  obtain ⟨hquiet, hfault⟩ := hx w.bare hw
  have hback : ∀ t, ({ w.bare with tick := t } : World σ Out).wide w.out = { w with tick := t } := by
    intro t
    simp [World.bare, World.wide]
  refine ⟨fun h => ?_, fun h => ?_⟩
  · rw [hquiet h, hback]
    rfl
  · obtain ⟨e, t, hrun⟩ := hfault h
    refine ⟨e, t, ?_⟩
    rw [hrun, hback]

theorem Call.Answers.widen {env : Env fun β => Ask β ⊕ Ask' β} {s : σ}
    {x : Call (DbOp Rd Wr Ask ε Out) η α} {r : Except η α} (hx : x.Answers S env.narrow s r) :
    (x.widen : Call (DbOp (fun β => Rd β ⊕ Rd' β) (fun β => Wr β ⊕ Wr' β) (fun β => Ask β ⊕ Ask' β)
      ε (Out ⊕ Out')) η α).Answers (S.extend eval apply) env s r := by
  intro w hw
  obtain ⟨t, ht⟩ := hx w.bare hw
  refine ⟨t, ?_⟩
  rw [Call.run_widen, ht]
  simp [World.bare, World.wide]

end Widen

end Machine

end TxnLib
