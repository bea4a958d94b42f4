import OcfIms.LibUntil

/-!
# A transaction as one step

Programs that share a store are interrupted between their operations, but not inside a transaction.
A retrying transaction is then one step for each attempt: it commits what its body made of a copy of
the store, or it leaves the store alone and the program fails or tries again.

Where nothing fails from outside, a program that only reads can be followed whatever the others do:
each read is answered from some state they left.
-/

namespace TxnLib

variable {Rd Wr Ask : Type → Type} {ε Out σ α β γ η : Type} {S : Store Rd Wr ε σ} {env : Env Ask}
  {w : World σ Out}

namespace Call

variable {ε' : Type}

theorem prog_result_bind (x : Call (DbOp Rd Wr Ask ε Out) η α)
    (f : Except η α → Call (DbOp Rd Wr Ask ε Out) ε' β) :
    (result x >>= f).prog = x.prog >>= fun r => (f r).prog := by
  refine Eq.trans (Prog.bind_assoc _ _ x.prog) ?_
  exact congrArg (Prog.bind x.prog) (funext fun _ => rfl)

end Call

/-- A part inside an open transaction belongs to the step in which the transaction is closed. -/
theorem burst_open {W : Conn → ∀ β : Type, Wr β → Prop}
    (hW : ∀ (β : Type) (q : Wr β), ¬ W .pool β q) {P : β → Prop}
    {K : β → Prog (DbOp Rd Wr Ask ε Out) α} :
    ∀ {y : Prog (DbOp Rd Wr Ask ε Out) β} {w : World σ Out},
      y.Every anyAnswer (writesIn W) P → w.txn ≠ none →
        (y >>= K).burst S env w =
          (K (y.run S env w).1).burst S env (y.run S env w).2 ∧
        (y.run S env w).2.txn ≠ none ∧ (y.run S env w).2.db = w.db
  | .ret b, w, _, htxn => ⟨rfl, htxn, rfl⟩
  | .op o k, w, hy, htxn => by
      obtain ⟨hopen, hdb⟩ : (step S env o w).2.txn ≠ none ∧ (step S env o w).2.db = w.db :=
        Call.step_open hW o hy.1 htxn
      have ih := burst_open hW (K := K) (hy.2 (step S env o w).1 trivial) hopen
      rw [hdb] at ih
      refine ⟨Eq.trans ?_ ih.1, ih.2⟩
      rw [Prog.op_bind, Prog.burst, if_neg (by simpa using hopen)]

/-- What ends an attempt at a transaction: a fault from outside, or an error of its body. -/
def Aborts (S : Store Rd Wr ε σ) (env : Env Ask) (lift : ε → η)
    (body : Call (DbOp Rd Wr Ask ε Out) η α) (w : World σ Out) (e : η) : Prop :=
  (∃ n f, env.fault n = some f ∧ e = lift (S.failed f)) ∨
    (body.run S env { w.tock with txn := some w.db }).1 = .error e

/-- What follows the body of an attempt. -/
def afterBody (lift : ε → η) (retry : η → Bool) (again : η → Call (DbOp Rd Wr Ask ε Out) η α) :
    Except η α → Call (DbOp Rd Wr Ask ε Out) η α
  | .error err => do
    Call.perform .rollback
    if retry err then again err else throw err
  | .ok a => do
    match ← Call.result (Call.mapErr lift (Call.attempt .commit)) with
    | .ok () => pure a
    | .error err => if retry err then again err else throw err

/-- An attempt, as a tree. -/
theorem prog_attemptTx (lift : ε → η) (retry : η → Bool) (body : Call (DbOp Rd Wr Ask ε Out) η α)
    (again : η → Call (DbOp Rd Wr Ask ε Out) η α)
    (K : Except η α → Prog (DbOp Rd Wr Ask ε Out) γ) :
    (Call.attemptTx lift retry body again).prog >>= K = .op .begin fun
      | .ok () => body.prog >>= fun r => (afterBody lift retry again r).prog >>= K
      | .error e => K (.error (lift e)) := by
  have hbegin : (Call.attemptTx lift retry body again).prog = .op .begin (Call.andThen lift fun _ =>
      Call.result body >>= afterBody lift retry again) :=
    Call.prog_mapErr_bind lift _ _
  rw [hbegin, Prog.op_bind]
  refine congrArg (Prog.op _) (funext fun r => ?_)
  cases r with
  | error e => rfl
  | ok u =>
      change (Call.result body >>= afterBody lift retry again).prog >>= K = _
      rw [Call.prog_result_bind]
      exact Prog.bind_assoc _ _ _

/-- What follows the commit of an attempt. -/
def afterCommit (lift : ε → η) (retry : η → Bool) (again : η → Call (DbOp Rd Wr Ask ε Out) η α)
    (a : α) (K : Except η α → Prog (DbOp Rd Wr Ask ε Out) γ) :
    Except ε Unit → Prog (DbOp Rd Wr Ask ε Out) γ
  | .ok () => K (.ok a)
  | .error e => (if retry (lift e) then again (lift e) else throw (lift e) : Call _ η α).prog >>= K

theorem prog_afterBody_ok (lift : ε → η) (retry : η → Bool)
    (again : η → Call (DbOp Rd Wr Ask ε Out) η α) (a : α)
    (K : Except η α → Prog (DbOp Rd Wr Ask ε Out) γ) :
    (afterBody lift retry again (.ok a)).prog >>= K =
      .op .commit (afterCommit lift retry again a K) := by
  rw [afterBody, Call.prog_result_bind]
  refine congrArg (Prog.op _) (funext fun r => ?_)
  cases r <;> rfl

/-- The attempt fails for an error, and the store is left alone. -/
def Fails (S : Store Rd Wr ε σ) (env : Env Ask) (lift : ε → η) (retry : η → Bool)
    (body : Call (DbOp Rd Wr Ask ε Out) η α) (again : η → Prog (DbOp Rd Wr Ask ε Out) γ)
    (K : Except η α → Prog (DbOp Rd Wr Ask ε Out) γ) (w : World σ Out)
    (next : Prog (DbOp Rd Wr Ask ε Out) γ × World σ Out) : Prop :=
  ∃ e, Aborts S env lift body w e ∧ next.2.db = w.db ∧
    (next.1 = K (.error e) ∨ retry e = true ∧ next.1 = again e)

/-- The attempt commits what the body made of a copy of the store. -/
def Commits (S : Store Rd Wr ε σ) (env : Env Ask) (body : Call (DbOp Rd Wr Ask ε Out) η α)
    (K : Except η α → Prog (DbOp Rd Wr Ask ε Out) γ) (w : World σ Out)
    (next : Prog (DbOp Rd Wr Ask ε Out) γ × World σ Out) : Prop :=
  ∃ a w₁, body.run S env { w.tock with txn := some w.db } = (.ok a, w₁) ∧
    w₁.txn = some next.2.db ∧ next.1 = K (.ok a)

theorem step_begin_of_fault {n : Nat} (hf : env.fault w.tick = some n) :
    step S env (.begin : DbOp Rd Wr Ask ε Out _) w = (.error (S.failed n), w.tock) := by
  simp only [step, hf]

/-- An attempt is one step: it commits, or it leaves the store alone. -/
theorem burst_attemptTx {W : Conn → ∀ β : Type, Wr β → Prop}
    (hW : ∀ (β : Type) (q : Wr β), ¬ W .pool β q) {lift : ε → η} {retry : η → Bool}
    {body : Call (DbOp Rd Wr Ask ε Out) η α} {E : η → Prop} {P : α → Prop}
    (hbody : body.Every anyAnswer (writesIn W) E P) (again : η → Call (DbOp Rd Wr Ask ε Out) η α)
    (K : Except η α → Prog (DbOp Rd Wr Ask ε Out) γ) (hw : w.txn = none) :
    let next := ((Call.attemptTx lift retry body again).prog >>= K).burst S env w
    Fails S env lift retry body (fun e => (again e).prog >>= K) K w next ∨
      Commits S env body K w next := by
  rw [prog_attemptTx]
  cases hf : env.fault w.tick with
  | some n =>
      rw [burst_of_step (step_begin_of_fault hf) hw]
      exact .inl ⟨lift (S.failed n), .inl ⟨_, n, hf, rfl⟩, rfl, .inl rfl⟩
  | none =>
      let w₀ : World σ Out := { w.tock with txn := some w.db }
      have hopen : w₀.txn ≠ none := nofun
      obtain ⟨hburst, htxn, hdb⟩ := @burst_open _ _ _ _ _ _ _ _ S env _ hW _
        (fun r => (afterBody lift retry again r).prog >>= K) _ w₀ hbody hopen
      have hbegin : (Prog.op (.begin : DbOp Rd Wr Ask ε Out _) fun
          | .ok () => body.prog >>= fun r => (afterBody lift retry again r).prog >>= K
          | .error e => K (.error (lift e))).burst S env w =
          (body.prog >>= fun r => (afterBody lift retry again r).prog >>= K).burst S env w₀ := by
        rw [Prog.burst]
        simp only [step, hf]
        rfl
      have hfail : ∀ e w₁, Aborts S env lift body w e → w₁.db = w.db →
          Fails S env lift retry body (fun e => (again e).prog >>= K) K w
            ((if retry e then again e else throw e : Call _ η α).prog >>= K, w₁) := by
        intro e w₁ he hdb
        refine ⟨e, he, hdb, ?_⟩
        cases hretry : retry e with
        | true => exact .inr ⟨rfl, rfl⟩
        | false => exact .inl rfl
      rw [hbegin, hburst]
      rcases hrun : Call.run S env body w₀ with ⟨r, w₁⟩
      change (Prog.run S env body.prog w₀).2.txn ≠ none at htxn
      have hres : Prog.run S env body.prog w₀ = (r, w₁) := hrun
      rw [hres] at htxn hdb ⊢
      cases r with
      | error e =>
          have hstep : step S env (.rollback : DbOp Rd Wr Ask ε Out _) w₁ =
              ((), { w₁ with txn := none }) := rfl
          have hroll : ((afterBody lift retry again (.error e)).prog >>= K).burst S env w₁ =
              ((if retry e then again e else throw e : Call _ η α).prog >>= K,
                { w₁ with txn := none }) := burst_of_step hstep rfl
          refine .inl (Eq.mpr (congrArg _ hroll) (hfail e _ (.inr ?_) hdb))
          rw [hrun]
      | ok a =>
          obtain ⟨s, hs⟩ := Option.ne_none_iff_exists'.mp htxn
          have hs : w₁.txn = some s := hs
          rw [prog_afterBody_ok]
          cases hf' : env.fault w₁.tick with
          | some n =>
              have hstep : step S env (.commit : DbOp Rd Wr Ask ε Out _) w₁ =
                  (.error (S.failed n), { w₁.tock with txn := none }) := by simp only [step, hf']
              rw [burst_of_step hstep rfl]
              exact .inl (hfail _ _ (.inl ⟨_, n, hf', rfl⟩) hdb)
          | none =>
              have hstep : step S env (.commit : DbOp Rd Wr Ask ε Out _) w₁ =
                  (.ok (), { w₁.tock with db := s, txn := none }) := by simp only [step, hf', hs]
              rw [burst_of_step hstep rfl]
              exact .inr ⟨a, w₁, hrun, hs, rfl⟩

/-- A retrying transaction: a step commits, or leaves the store alone, with the error or another
attempt to come. -/
theorem burst_runInTx {W : Conn → ∀ β : Type, Wr β → Prop}
    (hW : ∀ (β : Type) (q : Wr β), ¬ W .pool β q) {lift : ε → η} {retry : η → Bool}
    {body : Call (DbOp Rd Wr Ask ε Out) η α} {E : η → Prop} {P : α → Prop}
    (hbody : body.Every anyAnswer (writesIn W) E P)
    (K : Except η α → Prog (DbOp Rd Wr Ask ε Out) γ) (hw : w.txn = none) (retries : Nat) :
    let next := ((Call.runInTx lift retry body retries).prog >>= K).burst S env w
    (∃ e, Aborts S env lift body w e ∧ next.2.db = w.db ∧ (next.1 = K (.error e) ∨
      retry e = true ∧ ∃ n, next.1 = (Call.runInTx lift retry body n).prog >>= K)) ∨
    Commits S env body K w next := by
  cases retries with
  | zero =>
      refine (burst_attemptTx hW hbody throw K hw).imp_left ?_
      rintro ⟨e, he, hdb, hnext⟩
      exact ⟨e, he, hdb, .inl (hnext.elim id And.right)⟩
  | succ n =>
      refine (burst_attemptTx hW hbody (fun _ => Call.runInTx lift retry body n) K hw).imp_left ?_
      rintro ⟨e, he, hdb, hnext⟩
      exact ⟨e, he, hdb, hnext.imp_right fun h => ⟨h.1, n, h.2⟩⟩

theorem opens_runInTx (lift : ε → η) (retry : η → Bool) (body : Call (DbOp Rd Wr Ask ε Out) η α)
    (K : Except η α → Prog (DbOp Rd Wr Ask ε Out) γ) (retries : Nat) :
    ((Call.runInTx lift retry body retries).prog >>= K).opens = true := by
  cases retries <;> rw [Call.runInTx, prog_attemptTx] <;> rfl

/-! ## Answers that can be told -/

/-- A read on the pool finds what it looks for in some state. -/
def answersSome (S : Store Rd Wr ε σ) :
    ∀ β : Type, DbOp Rd Wr Ask ε Out β → β → Prop
  | _, .read .pool q, r => ∃ s, S.eval q s = r
  | _, _, _ => True

/-- The program is idle up to an operation where `T` holds of it, as long as what it is answered
satisfies `A`; if it returns before, `Q` holds of what it returns. -/
def Prog.Reaches (A : ∀ β : Type, DbOp Rd Wr Ask ε Out β → β → Prop)
    (T : Prog (DbOp Rd Wr Ask ε Out) α → Prop) (Q : α → Prop) :
    Prog (DbOp Rd Wr Ask ε Out) α → Prop
  | .ret a => Q a
  | .op o k => T (.op o k) ∨ idle _ o ∧ ∀ b, A _ o b → (k b).Reaches A T Q

section Reaches

variable {A : ∀ β : Type, DbOp Rd Wr Ask ε Out β → β → Prop}
  {T : Prog (DbOp Rd Wr Ask ε Out) α → Prop} {Q : α → Prop}

theorem Prog.Reaches.bind {f : β → Prog (DbOp Rd Wr Ask ε Out) α} {R : β → Prop}
    (hf : ∀ b, R b → (f b).Reaches A T Q) :
    ∀ {x : Prog (DbOp Rd Wr Ask ε Out) β}, x.Every A idle R → (x >>= f).Reaches A T Q
  | .ret b, hx => hf b hx
  | .op _ _, hx => .inr ⟨hx.1, fun b hb => Prog.Reaches.bind hf (hx.2 b hb)⟩

/-- Where nothing fails from outside, a step is answered so. -/
theorem answersSome_step (hq : env.Quiet) (o : DbOp Rd Wr Ask ε Out β) :
    answersSome S β o (step S env o w).1 := by
  cases o with
  | read c q =>
      cases c with
      | pool => exact ⟨w.db, by simp only [step, hq w.tick, World.view_pool]⟩
      | txn => trivial
  | _ => trivial

theorem Prog.Reaches.moves {x : Prog (DbOp Rd Wr Ask ε Out) α} (hq : env.Quiet)
    (hx : x.Reaches (answersSome S) T Q) (hw : w.txn = none) :
    (∃ a, x = .ret a ∧ Q a) ∨ T x ∨
      ∃ x' w', x.Moves S env w x' w' ∧ x'.Reaches (answersSome S) T Q ∧ w'.db = w.db := by
  cases x with
  | ret a => exact .inl ⟨a, rfl, hx⟩
  | op o k =>
      refine .inr (hx.imp_right fun ⟨hidle, hk⟩ => ?_)
      obtain ⟨htxn, hdb⟩ : (step S env o w).2.txn = none ∧ (step S env o w).2.db = w.db :=
        step_idle o hidle hw
      exact ⟨_, _, ⟨_, o, k, _, rfl, rfl, rfl, htxn⟩, hk _ (answersSome_step hq o), hdb⟩

theorem Prog.Reaches.run (hq : env.Quiet) :
    ∀ {x : Prog (DbOp Rd Wr Ask ε Out) α} {w : World σ Out},
      x.Reaches (answersSome S) T Q → w.txn = none →
        Q (x.run S env w).1 ∧ (x.run S env w).2.db = w.db ∨
        ∃ x' w', T x' ∧ x.run S env w = x'.run S env w' ∧ w'.db = w.db ∧ w'.txn = none
  | .ret _, _, hx, _ => .inl ⟨hx, rfl⟩
  | .op o k, w, hx, hw => by
      rcases hx with hT | ⟨hidle, hk⟩
      · exact .inr ⟨_, w, hT, rfl, rfl, hw⟩
      · obtain ⟨htxn, hdb⟩ : (step S env o w).2.txn = none ∧ (step S env o w).2.db = w.db :=
          step_idle o hidle hw
        have h := Prog.Reaches.run hq (hk _ (answersSome_step (w := w) hq o)) htxn
        rw [hdb] at h
        exact h

theorem Call.reaches_bind {E : η → Prop} {R : β → Prop}
    {T : Prog (DbOp Rd Wr Ask ε Out) (Except η α) → Prop} {Q : Except η α → Prop}
    {x : Call (DbOp Rd Wr Ask ε Out) η β} {f : β → Call (DbOp Rd Wr Ask ε Out) η α}
    (hx : x.Every A idle E R) (hE : ∀ e, E e → Q (.error e))
    (hf : ∀ b, R b → (f b).prog.Reaches A T Q) : (x >>= f).prog.Reaches A T Q := by
  rw [Call.prog_bind]
  refine Prog.Reaches.bind (fun r hr => ?_) hx
  cases r with
  | ok b => exact hf b hr
  | error e => exact hE e hr

end Reaches

/-- A program that opens a transaction with its next operation is up to it. -/
theorem Prog.until_of_opens {T : Prog (DbOp Rd Wr Ask ε Out) α → Prop} {Q : α → Prop}
    {x : Prog (DbOp Rd Wr Ask ε Out) α} (h : T x) (hx : x.opens = true) : x.Until S env T Q := by
  cases x with
  | ret a => cases hx
  | op o k => exact .inl h

/-- A program that is idle leaves the store alone. -/
theorem run_idle {x : Prog (DbOp Rd Wr Ask ε Out) α} {Q : α → Prop} (hx : x.Every anyAnswer idle Q)
    (hw : w.txn = none) : Q (x.run S env w).1 ∧ (x.run S env w).2.db = w.db := by
  have hstep : ∀ β (o : DbOp Rd Wr Ask ε Out β) (w' : World σ Out),
      w'.txn = none ∧ w'.db = w.db → idle β o →
        ((step S env o w').2.txn = none ∧ (step S env o w').2.db = w.db) ∧
          anyAnswer β o (step S env o w').1 := by
    intro β o w' hw' ho
    obtain ⟨htxn, hdb⟩ : (step S env o w').2.txn = none ∧ (step S env o w').2.db = w'.db :=
      step_idle o ho hw'.1
    exact ⟨⟨htxn, hdb.trans hw'.2⟩, trivial⟩
  obtain ⟨hkept, hQ⟩ := Prog.run_every hstep hx ⟨hw, rfl⟩
  exact ⟨hQ, hkept.2⟩

/-- A step, and the rest of the program after it, come to what the program comes to. -/
theorem run_burst : ∀ (x : Prog (DbOp Rd Wr Ask ε Out) α) (w : World σ Out),
    ((x.burst S env w).1.run S env (x.burst S env w).2).1 = (x.run S env w).1 ∧
      ((x.burst S env w).1.run S env (x.burst S env w).2).2.db = (x.run S env w).2.db
  | .ret _, _ => ⟨rfl, rfl⟩
  | .op o k, w => by
      rw [Prog.burst, Prog.run_op]
      split
      · exact ⟨rfl, rfl⟩
      · exact run_burst (k (step S env o w).1) (step S env o w).2

/-! ## What a transaction that succeeds leaves

An attempt that fails is tried again from whatever the store is then, so only what the body makes of
any copy is known of the store in the end. -/

namespace Call

variable {x : Call (DbOp Rd Wr Ask ε Out) η α} {J : α → σ → Prop} {lift : ε → η} {retry : η → Bool}

/-- An attempt commits what the body leaves. -/
theorem triple_attemptTx_commits {again : η → Call (DbOp Rd Wr Ask ε Out) η α}
    (hbody : Triple S env (fun _ => True) x (fun a w => w.At .txn (J a)) fun _ _ => True)
    (hagain : ∀ e, Triple S env (fun _ => True) (again e) (fun a w => w.At .pool (J a))
      fun _ _ => True) :
    Triple S env (fun _ => True) (attemptTx lift retry x again) (fun a w => w.At .pool (J a))
      fun _ _ => True := by
  have hretry : ∀ e, Triple S env (fun _ => True) (if retry e then again e else throw e)
      (fun a w => w.At .pool (J a)) fun _ _ => True :=
    fun e => triple_ite (fun _ => hagain e) fun _ => triple_throw fun _ _ => trivial
  refine Triple.bind (J := fun _ _ => True)
    (Triple.mapErr (triple_begin (fun _ _ => trivial) fun _ _ _ => trivial)) fun _ => ?_
  refine Triple.bind (Triple.result hbody) fun r => ?_
  cases r with
  | error e =>
      exact Triple.bind (J := fun _ _ => True) (triple_rollback fun _ _ => trivial) fun _ => hretry e
  | ok a =>
      have hcommit : Triple S env (World.At .txn (J a))
          (mapErr lift (attempt .commit) : Call (DbOp Rd Wr Ask ε Out) η Unit)
          (fun _ w => w.At .pool (J a)) fun _ _ => True :=
        Triple.mapErr (triple_commit_at fun _ _ => trivial)
      refine Triple.bind (Triple.result hcommit) fun r => ?_
      cases r with
      | ok _ => exact triple_pure fun _ hw => hw
      | error e => exact hretry e

/-- A transaction that succeeds leaves what the body leaves. -/
theorem triple_runInTx_commits
    (hbody : Triple S env (fun _ => True) x (fun a w => w.At .txn (J a)) fun _ _ => True) :
    ∀ retries, Triple S env (fun _ => True) (runInTx lift retry x retries)
      (fun a w => w.At .pool (J a)) fun _ _ => True
  | 0 => triple_attemptTx_commits hbody fun _ => triple_throw fun _ _ => trivial
  | retries + 1 => triple_attemptTx_commits hbody fun _ => triple_runInTx_commits hbody retries

end Call

end TxnLib
