import OcfIms.LibSched

/-!
# What a program last saw

A program that reads a record, decides, and writes the record back writes what it saw. Whether that
undoes the work of another depends on what happened in between, and the store does not show it. Here
a system of programs also remembers, for each of them, the store as its last watched read found it.

The programs have a simple shape: they look at the store, open one transaction, and are idle after
it. `Prog.Looks` is the first part, up to the transaction, and `burst_transaction` the second: the
step that opens the transaction runs it to its end, and leaves a program that is idle and either can
only fail, with the store as it was, or has committed.
-/

namespace TxnLib

open RunLib

variable {Rd Wr Ask : Type → Type} {ε Out σ α β γ : Type} {ι : Type}

/-- The next operation is a watched read. -/
def Prog.observes (watch : ∀ β : Type, Rd β → Bool) : Prog (DbOp Rd Wr Ask ε Out) α → Bool
  | .op (.read _ q) _ => watch _ q
  | _ => false

/-- The next operation opens a transaction. -/
def Prog.opens : Prog (DbOp Rd Wr Ask ε Out) α → Bool
  | .op .begin _ => true
  | _ => false

/-- What a program returned, if it has. -/
def Prog.returned : Prog (DbOp Rd Wr Ask ε Out) α → Option α
  | .ret a => some a
  | .op _ _ => none

/-- A system, and the store as each program's last watched read found it. -/
structure Observed (Rd Wr Ask : Type → Type) (ε Out σ α ι : Type) where
  sys : Sys Rd Wr Ask ε Out σ α ι
  seen : ι → Option σ := fun _ => none

/-- What a program has seen once it has taken a step. -/
def Observed.look [DecidableEq ι] (watch : ∀ β : Type, Rd β → Bool)
    (t : Observed Rd Wr Ask ε Out σ α ι) (i : ι) : ι → Option σ :=
  if (t.sys.procs i).observes watch then Function.update t.seen i (some t.sys.world.db) else t.seen

/-- A step of the system, remembered. -/
def Observed.turn [DecidableEq ι] (S : Store Rd Wr ε σ) (env : Env Ask)
    (watch : ∀ β : Type, Rd β → Bool) (t : Observed Rd Wr Ask ε Out σ α ι) (i : ι) :
    Option (Observed Rd Wr Ask ε Out σ α ι) :=
  (t.sys.turn S env i).map fun sys => ⟨sys, t.look watch i⟩

/-! ## Looking -/

/-- The program only looks at the store until it opens its transaction. `T` is what is known of it
there, `Q` of what it returns without one; both depend on what it saw last. -/
def Prog.Looks (S : Store Rd Wr ε σ) (env : Env Ask) (watch : ∀ β : Type, Rd β → Bool)
    (T : Option σ → Prog (DbOp Rd Wr Ask ε Out) α → Prop) (Q : α → Prop) :
    Option σ → Prog (DbOp Rd Wr Ask ε Out) α → Prop
  | _, .ret a => Q a
  | seen, .op (.read _ q) k => ∀ s r, (∀ b, r = .ok b → S.eval q s = .ok b) →
      (k r).Looks S env watch T Q (if watch _ q then some s else seen)
  | seen, .op (.ask q) k => ∀ n, (k (env.answer n q)).Looks S env watch T Q seen
  | seen, .op (.emit _) k => ∀ u, (k u).Looks S env watch T Q seen
  | seen, .op .begin k => T seen (.op .begin k)
  | _, .op _ _ => False

/-- Operations that change nothing where no transaction is open. -/
def idle : ∀ β : Type, DbOp Rd Wr Ask ε Out β → Prop
  | _, .write _ _ => False
  | _, .begin => False
  | _, _ => True

/-- Reads that are not watched, questions and effects. -/
def unwatched (watch : ∀ β : Type, Rd β → Bool) : ∀ β : Type, DbOp Rd Wr Ask ε Out β → Prop
  | _, .read _ q => watch _ q = false
  | _, .ask _ => True
  | _, .emit _ => True
  | _, _ => False

section Rules

variable {S : Store Rd Wr ε σ} {env : Env Ask} {w : World σ Out}
  {watch : ∀ β : Type, Rd β → Bool} {T : Option σ → Prog (DbOp Rd Wr Ask ε Out) α → Prop}
  {Q : α → Prop}

theorem observed_turn_eq_some [DecidableEq ι] {t t' : Observed Rd Wr Ask ε Out σ α ι} {i : ι} :
    t.turn S env watch i = some t' ↔
      (∃ β, ∃ o : DbOp Rd Wr Ask ε Out β, ∃ k, t.sys.procs i = .op o k) ∧
      t' = ⟨⟨Function.update t.sys.procs i ((t.sys.procs i).burst S env t.sys.world).1,
        ((t.sys.procs i).burst S env t.sys.world).2⟩, t.look watch i⟩ := by
  rw [Observed.turn, Option.map_eq_some_iff]
  constructor
  · rintro ⟨sys, hsys, rfl⟩
    obtain ⟨hop, rfl⟩ := turn_eq_some.mp hsys
    exact ⟨hop, rfl⟩
  · rintro ⟨hop, rfl⟩
    exact ⟨_, turn_eq_some.mpr ⟨hop, rfl⟩, rfl⟩

theorem look_self [DecidableEq ι] (t : Observed Rd Wr Ask ε Out σ α ι) (i : ι) :
    t.look watch i i =
      if (t.sys.procs i).observes watch then some t.sys.world.db else t.seen i := by
  unfold Observed.look
  split
  · exact Function.update_self i _ _
  · rfl

theorem look_of_ne [DecidableEq ι] (t : Observed Rd Wr Ask ε Out σ α ι) {i j : ι} (h : j ≠ i) :
    t.look watch i j = t.seen j := by
  unfold Observed.look
  split
  · exact Function.update_of_ne h _ _
  · rfl

/-- An operation that is idle leaves a closed store as it is. -/
theorem step_idle (o : DbOp Rd Wr Ask ε Out β) (ho : idle β o) (hw : w.txn = none) :
    (step S env o w).2.txn = none ∧ (step S env o w).2.db = w.db := by
  cases o with
  | read c q =>
      simp only [step]
      split <;> exact ⟨hw, rfl⟩
  | write c q => exact ho.elim
  | begin => exact ho.elim
  | commit =>
      simp only [step]
      split
      · exact ⟨rfl, rfl⟩
      · exact ⟨hw, rfl⟩
      · rename_i hs
        rw [hw] at hs
        cases hs
  | rollback => exact ⟨rfl, rfl⟩
  | ask q => exact ⟨hw, rfl⟩
  | emit o => exact ⟨hw, rfl⟩

/-- A step of an idle program. -/
theorem burst_idle {x : Prog (DbOp Rd Wr Ask ε Out) α} (hx : x.Every anyAnswer idle Q)
    (hw : w.txn = none) :
    (x.burst S env w).1.Every anyAnswer idle Q ∧ (x.burst S env w).2.db = w.db := by
  cases x with
  | ret a => exact ⟨hx, rfl⟩
  | op o k =>
      obtain ⟨htxn, hdb⟩ : (step S env o w).2.txn = none ∧ (step S env o w).2.db = w.db :=
        step_idle o hx.1 hw
      rw [burst_op htxn]
      exact ⟨hx.2 _ trivial, hdb⟩

/-- A read answers with what the store holds, if it answers. -/
theorem eval_of_step_read {c : Conn} {q : Rd β} (hw : w.txn = none) {b : β}
    (h : (step S env (.read c q : DbOp Rd Wr Ask ε Out _) w).1 = .ok b) :
    S.eval q w.db = .ok b := by
  have hstep : step S env (.read c q : DbOp Rd Wr Ask ε Out _) w =
      (.ok b, (step S env (.read c q : DbOp Rd Wr Ask ε Out _) w).2) := Prod.ext h rfl
  obtain ⟨-, s, hs, heval, -⟩ := step_read_eq_ok.mp hstep
  cases c with
  | pool =>
      obtain rfl := Option.some.inj hs
      exact heval
  | txn =>
      rw [World.view_txn, hw] at hs
      cases hs

/-- A step of a program that looks, unless it opens its transaction. -/
theorem Prog.Looks.burst {seen : Option σ} {x : Prog (DbOp Rd Wr Ask ε Out) α}
    (hx : x.Looks S env watch T Q seen) (hw : w.txn = none) :
    x.opens = true ∧ T seen x ∨ x.opens = false ∧
      (x.burst S env w).1.Looks S env watch T Q
        (if x.observes watch then some w.db else seen) ∧ (x.burst S env w).2.db = w.db := by
  cases x with
  | ret a => exact Or.inr ⟨rfl, hx, rfl⟩
  | op o k =>
      cases o with
      | read c q =>
          let o : DbOp Rd Wr Ask ε Out _ := .read c q
          obtain ⟨htxn, hdb⟩ : (step S env o w).2.txn = none ∧ (step S env o w).2.db = w.db :=
            step_idle o trivial hw
          rw [burst_op htxn]
          exact Or.inr ⟨rfl, hx w.db _ fun b hb => eval_of_step_read hw hb, hdb⟩
      | write c q => exact hx.elim
      | begin => exact Or.inl ⟨rfl, hx⟩
      | commit => exact hx.elim
      | rollback => exact hx.elim
      | ask q =>
          have htxn : (step S env (.ask q : DbOp Rd Wr Ask ε Out _) w).2.txn = none := hw
          rw [burst_op htxn]
          exact Or.inr ⟨rfl, hx w.tick, rfl⟩
      | emit o =>
          have htxn : (step S env (.emit o : DbOp Rd Wr Ask ε Out _) w).2.txn = none := hw
          rw [burst_op htxn]
          exact Or.inr ⟨rfl, hx (), rfl⟩

theorem Prog.Looks.of_opens {seen : Option σ} {x : Prog (DbOp Rd Wr Ask ε Out) α}
    (hx : x.opens = true) (h : T seen x) : x.Looks S env watch T Q seen := by
  cases x with
  | ret a => cases hx
  | op o k =>
      cases o with
      | begin => exact h
      | _ => cases hx

/-- An idle program opens no transaction. -/
theorem opens_of_idle {x : Prog (DbOp Rd Wr Ask ε Out) α} (hx : x.Every anyAnswer idle Q) :
    x.opens = false := by
  cases x with
  | ret a => rfl
  | op o k =>
      cases o with
      | begin => exact hx.1.elim
      | _ => rfl

section Turn

variable [DecidableEq ι] {t t' : Observed Rd Wr Ask ε Out σ α ι} {i j : ι}

/-- A step leaves the other programs, and what they have seen. -/
theorem turn_of_ne (h : t.turn S env watch i = some t') (hj : j ≠ i) :
    t'.sys.procs j = t.sys.procs j ∧ t'.seen j = t.seen j := by
  obtain ⟨-, rfl⟩ := observed_turn_eq_some.mp h
  exact ⟨Function.update_of_ne hj _ _, look_of_ne t hj⟩

theorem turn_self (h : t.turn S env watch i = some t') :
    t'.sys.procs i = ((t.sys.procs i).burst S env t.sys.world).1 ∧
      t'.sys.world = ((t.sys.procs i).burst S env t.sys.world).2 ∧
      t'.seen i = if (t.sys.procs i).observes watch then some t.sys.world.db else t.seen i := by
  obtain ⟨-, rfl⟩ := observed_turn_eq_some.mp h
  exact ⟨Function.update_self i _ _, rfl, look_self t i⟩

theorem turn_txn (h : t.turn S env watch i = some t') : t'.sys.world.txn = none := by
  rw [(turn_self h).2.1]
  exact burst_txn _ _

/-- A step of an idle program. -/
theorem turn_idle (h : t.turn S env watch i = some t') (htxn : t.sys.world.txn = none)
    (hidle : (t.sys.procs i).Every anyAnswer idle Q) :
    (t'.sys.procs i).Every anyAnswer idle Q ∧ t'.sys.world.db = t.sys.world.db := by
  obtain ⟨hproc, hworld, -⟩ := turn_self h
  rw [hproc, hworld]
  exact burst_idle hidle htxn

/-- A step of a program that looks, unless it opens its transaction. -/
theorem turn_looks (h : t.turn S env watch i = some t') (htxn : t.sys.world.txn = none)
    (hlooks : (t.sys.procs i).Looks S env watch T Q (t.seen i)) :
    (t.sys.procs i).opens = true ∧ T (t.seen i) (t.sys.procs i) ∨
      (t.sys.procs i).opens = false ∧ (t'.sys.procs i).Looks S env watch T Q (t'.seen i) ∧
        t'.sys.world.db = t.sys.world.db := by
  obtain ⟨hproc, hworld, hseen⟩ := turn_self h
  rw [hproc, hworld, hseen]
  exact hlooks.burst htxn

end Turn

/-- Look on after a part that only looks. -/
theorem Prog.Looks.bind {f : β → Prog (DbOp Rd Wr Ask ε Out) α} {R : β → Prop}
    (hf : ∀ b seen, R b → (f b).Looks S env watch T Q seen) :
    ∀ {x : Prog (DbOp Rd Wr Ask ε Out) β} {seen : Option σ},
      x.Every (answersFrom S env fun _ => True) (writesIn Call.noWrite) R →
        (x >>= f).Looks S env watch T Q seen
  | .ret b, seen, hx => hf b seen hx
  | .op (.read _ _) _, _, hx => fun s r hr =>
      Prog.Looks.bind hf (hx.2 r fun b hb => ⟨s, trivial, hr b hb⟩)
  | .op (.ask _) _, _, hx => fun n => Prog.Looks.bind hf (hx.2 _ ⟨n, rfl⟩)
  | .op (.emit _) _, _, hx => fun u => Prog.Looks.bind hf (hx.2 u trivial)
  | .op (.write _ _) _, _, hx => hx.1.elim
  | .op .begin _, _, hx => hx.1.elim
  | .op .commit _, _, hx => hx.1.elim
  | .op .rollback _, _, hx => hx.1.elim

/-- A part without a watched read does not change what was seen. -/
theorem Prog.Looks.bind_unwatched {f : β → Prog (DbOp Rd Wr Ask ε Out) α} {R : β → Prop}
    {seen : Option σ} (hf : ∀ b, R b → (f b).Looks S env watch T Q seen) :
    ∀ {x : Prog (DbOp Rd Wr Ask ε Out) β}, x.Every anyAnswer (unwatched watch) R →
      (x >>= f).Looks S env watch T Q seen
  | .ret b, hx => hf b hx
  | .op (.read _ q) _, hx => fun s r _ => by
      have hq : watch _ q = false := hx.1
      rw [hq]
      exact Prog.Looks.bind_unwatched hf (hx.2 r trivial)
  | .op (.ask _) _, hx => fun n => Prog.Looks.bind_unwatched hf (hx.2 _ trivial)
  | .op (.emit _) _, hx => fun u => Prog.Looks.bind_unwatched hf (hx.2 u trivial)
  | .op (.write _ _) _, hx => hx.1.elim
  | .op .begin _, hx => hx.1.elim
  | .op .commit _, hx => hx.1.elim
  | .op .rollback _, hx => hx.1.elim

end Rules

/-! ## The transaction -/

section Transaction

variable {S : Store Rd Wr ε σ} {env : Env Ask} {w : World σ Out} {η : Type}

/-- Where a transaction is open, the program runs on. -/
theorem burst_op_open {o : DbOp Rd Wr Ask ε Out β} {k : β → Prog (DbOp Rd Wr Ask ε Out) α}
    (h : (step S env o w).2.txn ≠ none) :
    (Prog.op o k).burst S env w = (k (step S env o w).1).burst S env (step S env o w).2 := by
  rw [Prog.burst, if_neg]
  rwa [Option.isNone_iff_eq_none]

/-- A part that runs inside an open transaction is not interrupted. -/
theorem burst_bind_open {W : Conn → ∀ β : Type, Wr β → Prop}
    (hW : ∀ (β : Type) (q : Wr β), ¬ W .pool β q) {R : β → Prop}
    {f : β → Prog (DbOp Rd Wr Ask ε Out) α} :
    ∀ {x : Prog (DbOp Rd Wr Ask ε Out) β} {w : World σ Out}, x.Every anyAnswer (writesIn W) R →
      w.txn ≠ none →
      (x >>= f).burst S env w = (f (x.run S env w).1).burst S env (x.run S env w).2 ∧
        (x.run S env w).2.txn ≠ none ∧ (x.run S env w).2.db = w.db
  | .ret b, w, _, htxn => ⟨rfl, htxn, rfl⟩
  | .op o k, w, hx, htxn => by
      obtain ⟨hopen, hdb⟩ : (step S env o w).2.txn ≠ none ∧ (step S env o w).2.db = w.db :=
        Call.step_open hW o hx.1 htxn
      obtain ⟨hburst, hopen', hdb'⟩ := burst_bind_open hW (hx.2 (step S env o w).1 trivial) hopen
      refine ⟨?_, hopen', hdb'.trans hdb⟩
      rw [Prog.op_bind, burst_op_open hopen, hburst, Prog.run_op]

/-- What is left of a transaction whose body has returned: the commit and what follows it, the
rollback of whatever is still open, and the program around it. -/
def finishTx (m : ε → η) (g : α → Call (DbOp Rd Wr Ask ε Out) η β)
    (h : Except η β → Prog (DbOp Rd Wr Ask ε Out) γ) : Except η α → Prog (DbOp Rd Wr Ask ε Out) γ
  | .ok a => (Call.mapErr m (Call.attempt .commit) >>= fun _ => g a).prog >>= fun r =>
      .op .rollback fun _ => h r
  | .error e => .op .rollback fun _ => h (.error e)

variable {g : α → Call (DbOp Rd Wr Ask ε Out) η β}
  {h : Except η β → Prog (DbOp Rd Wr Ask ε Out) γ} {F : γ → Prop} {J : σ → Prop}

/-- The step that ends a transaction leaves a program that is idle: it can only fail and the store is
as it was, or it has committed. -/
theorem burst_finishTx (hg : ∀ a, (g a).prog.Every anyAnswer idle fun _ => True)
    (hfail : ∀ e, (h (.error e)).Every anyAnswer idle F)
    (hidle : ∀ r, (h r).Every anyAnswer idle fun _ => True) (m : ε → η) {b : Except η α}
    (hopen : w.txn ≠ none) (hJ : ∀ a, b = .ok a → ∀ s, w.txn = some s → J s) :
    (((finishTx m g h b).burst S env w).1.Every anyAnswer idle F ∧
        ((finishTx m g h b).burst S env w).2.db = w.db) ∨
      (((finishTx m g h b).burst S env w).1.Every anyAnswer idle fun _ => True) ∧
        J ((finishTx m g h b).burst S env w).2.db := by
  cases b with
  | error e => exact Or.inl ⟨hfail e, rfl⟩
  | ok a =>
      obtain ⟨s, hs⟩ := Option.ne_none_iff_exists'.mp hopen
      have hcommit : finishTx m g h (.ok a) = .op .commit fun r => match r with
          | .ok _ => (g a).prog >>= fun r => .op .rollback fun _ => h r
          | .error e => .op .rollback fun _ => h (.error (m e)) := by
        refine congrArg (Prog.op (DbOp.commit : DbOp Rd Wr Ask ε Out _)) (funext fun r => ?_)
        cases r <;> rfl
      rw [hcommit]
      cases hfault : env.fault w.tick with
      | some e =>
          have hstep : step S env (.commit : DbOp Rd Wr Ask ε Out _) w =
              (.error (S.failed e), { w.tock with txn := none }) := by
            simp only [step, hfault]
          rw [burst_op (congrArg (·.2.txn) hstep), hstep]
          exact Or.inl ⟨⟨trivial, fun _ _ => hfail _⟩, rfl⟩
      | none =>
          have hstep : step S env (.commit : DbOp Rd Wr Ask ε Out _) w =
              (.ok (), { w.tock with db := s, txn := none }) := by
            simp only [step, hfault, hs]
          rw [burst_op (congrArg (·.2.txn) hstep), hstep]
          have hrest : ((g a).prog >>= fun r => .op .rollback fun _ => h r).Every anyAnswer idle
              fun _ => True := by
            refine Prog.Every.bind (fun r _ => ?_) (hg a)
            exact ⟨trivial, fun _ _ => hidle r⟩
          exact Or.inr ⟨hrest, hJ a rfl s hs⟩

/-- What the step that opens a transaction can do: the program that is left is idle, and either can
only fail, with the store as it was, or has committed what the body made of the store. -/
theorem burst_transaction {W : Conn → ∀ β : Type, Wr β → Prop}
    (hW : ∀ (β : Type) (q : Wr β), ¬ W .pool β q) {y : Call (DbOp Rd Wr Ask ε Out) η α}
    {E : η → Prop} {P : α → Prop} (hy : y.Every anyAnswer (writesIn W) E P) {s : σ}
    (ht : Call.Triple S env (fun w => w.txn = some s) y (fun _ w => ∀ s', w.txn = some s' → J s')
      fun _ _ => True)
    (hg : ∀ a, (g a).prog.Every anyAnswer idle fun _ => True)
    (hfail : ∀ e, (h (.error e)).Every anyAnswer idle F)
    (hidle : ∀ r, (h r).Every anyAnswer idle fun _ => True) (m m' : ε → η)
    (hw : w.txn = none) (hs : w.db = s) {r : Prog (DbOp Rd Wr Ask ε Out) γ × World σ Out}
    (hr : ((Call.mapErr m (Call.attempt .begin) >>= fun _ => Call.deferRollback
      (y >>= fun a => Call.mapErr m' (Call.attempt .commit) >>= fun _ => g a)).prog >>= h).burst
        S env w = r) :
    r.1.Every anyAnswer idle F ∧ r.2.db = s ∨
      (r.1.Every anyAnswer idle fun _ => True) ∧ J r.2.db := by
  subst hr
  obtain rfl := hs
  have hbegin : (Call.mapErr m (Call.attempt .begin) >>= fun _ => Call.deferRollback
      (y >>= fun a => Call.mapErr m' (Call.attempt .commit) >>= fun _ => g a)).prog >>= h =
        .op .begin fun r => match r with
          | .ok _ => y.prog >>= finishTx m' g h
          | .error e => h (.error (m e)) := by
    refine congrArg (Prog.op (DbOp.begin : DbOp Rd Wr Ask ε Out _)) (funext fun r => ?_)
    have hbody : (Call.deferRollback (y >>= fun a =>
        Call.mapErr m' (Call.attempt .commit) >>= fun _ => g a)).prog >>= h =
          y.prog >>= finishTx m' g h := by
      refine (Prog.bind_assoc _ _ _).trans ((Prog.bind_assoc _ _ _).trans ?_)
      refine congrArg (Prog.bind y.prog) (funext fun b => ?_)
      cases b <;> rfl
    cases r with
    | error e => rfl
    | ok _ => exact hbody
  rw [hbegin]
  cases hfault : env.fault w.tick with
  | some e =>
      have hstep : step S env (.begin : DbOp Rd Wr Ask ε Out _) w =
          (.error (S.failed e), w.tock) := by
        simp only [step, hfault]
      rw [burst_op ((congrArg (·.2.txn) hstep).trans hw), hstep]
      exact Or.inl ⟨hfail _, rfl⟩
  | none =>
      have hstep : step S env (.begin : DbOp Rd Wr Ask ε Out _) w =
          (.ok (), { w.tock with txn := some w.db }) := by
        simp only [step, hfault]
      have hopen : ({ w.tock with txn := some w.db } : World σ Out).txn ≠ none :=
        Option.some_ne_none w.db
      obtain ⟨hburst, hopen', hdb⟩ : (y.prog >>= finishTx m' g h).burst S env _ = _ ∧ _ ∧ _ :=
        burst_bind_open hW hy hopen
      have hend : (_ ∧ ((finishTx m' g h _).burst S env _).2.db = _) ∨ _ :=
        burst_finishTx hg hfail hidle m' hopen'
        fun a ha => ht.of_run_ok (w := { w.tock with txn := some w.db }) rfl (Prod.ext ha rfl)
      have hnext : (step S env (.begin : DbOp Rd Wr Ask ε Out _) w).2.txn ≠ none := by
        rw [hstep]
        exact hopen
      rw [burst_op_open hnext, hstep]
      rw [Call.run, ← hburst, hdb] at hend
      exact hend

end Transaction

end TxnLib
