import OcfIms.LibObserved

/-!
# Up to an operation of note

Most of what a program does on a shared store concerns nobody else: it reads, asks and decides, and
then performs the one operation that counts, a read whose answer it goes on with or a write.
`Prog.Until` follows a program up to such an operation, whatever the store turns into on the way.
What the operation does is for the invariant of the system to say; a program may then be followed
up to its next one.
-/

namespace TxnLib

variable {Rd Wr Ask : Type → Type} {ε Out σ α β : Type} {S : Store Rd Wr ε σ} {env : Env Ask}

/-- The program is idle up to an operation where `T` holds of it; if it returns before, `Q` holds of
what it returns. -/
def Prog.Until (S : Store Rd Wr ε σ) (env : Env Ask) (T : Prog (DbOp Rd Wr Ask ε Out) α → Prop)
    (Q : α → Prop) : Prog (DbOp Rd Wr Ask ε Out) α → Prop
  | .ret a => Q a
  | .op o k => T (.op o k) ∨
    idle _ o ∧ ∀ b, answersFrom S env (fun _ => True) _ o b → (k b).Until S env T Q

variable {T T' : Prog (DbOp Rd Wr Ask ε Out) α → Prop} {Q Q' : α → Prop} {w : World σ Out}

theorem Prog.until_here {o : DbOp Rd Wr Ask ε Out β} {k : β → Prog (DbOp Rd Wr Ask ε Out) α}
    (h : T (.op o k)) : (Prog.op o k).Until S env T Q :=
  Or.inl h

theorem Prog.Until.mono (hT : ∀ x, T x → T' x) (hQ : ∀ a, Q a → Q' a) :
    ∀ {x : Prog (DbOp Rd Wr Ask ε Out) α}, x.Until S env T Q → x.Until S env T' Q'
  | .ret a, h => hQ a h
  | .op _ _, h => h.imp (hT _) fun h => ⟨h.1, fun b hb => Prog.Until.mono hT hQ (h.2 b hb)⟩

/-- After a part that is idle. -/
theorem Prog.Until.bind {f : β → Prog (DbOp Rd Wr Ask ε Out) α} {R : β → Prop}
    (hf : ∀ b, R b → (f b).Until S env T Q) :
    ∀ {x : Prog (DbOp Rd Wr Ask ε Out) β}, x.Every (answersFrom S env fun _ => True) idle R →
      (x >>= f).Until S env T Q
  | .ret b, hx => hf b hx
  | .op _ _, hx => Or.inr ⟨hx.1, fun b hb => Prog.Until.bind hf (hx.2 b hb)⟩

/-- What a step is answered. -/
theorem answersFrom_step (o : DbOp Rd Wr Ask ε Out β) (hw : w.txn = none) :
    answersFrom S env (fun _ => True) β o (step S env o w).1 := by
  cases o with
  | read c q => exact fun b hb => ⟨w.db, trivial, eval_of_step_read hw hb⟩
  | ask q => exact ⟨w.tick, rfl⟩
  | _ => trivial

/-- A step of the program, unless it stands at the operation. -/
theorem Prog.Until.burst {x : Prog (DbOp Rd Wr Ask ε Out) α} (hx : x.Until S env T Q)
    (hw : w.txn = none) :
    T x ∨ (x.burst S env w).1.Until S env T Q ∧ (x.burst S env w).2.db = w.db := by
  cases x with
  | ret a => exact Or.inr ⟨hx, rfl⟩
  | op o k =>
      refine hx.imp_right fun ⟨hidle, hk⟩ => ?_
      obtain ⟨htxn, hdb⟩ : (step S env o w).2.txn = none ∧ (step S env o w).2.db = w.db :=
        step_idle o hidle hw
      rw [burst_op htxn]
      exact ⟨hk _ (answersFrom_step o hw), hdb⟩

/-- A read on the pool, as a step of its own. -/
theorem burst_read_pool (S : Store Rd Wr ε σ) (env : Env Ask) (q : Rd β)
    (k : Except ε β → Prog (DbOp Rd Wr Ask ε Out) α) (hw : w.txn = none) :
    ∃ r, (∀ b, r = .ok b → S.eval q w.db = .ok b) ∧
      ((Prog.op (.read .pool q) k).burst S env w).1 = k r ∧
      ((Prog.op (.read .pool q) k).burst S env w).2.db = w.db := by
  let o : DbOp Rd Wr Ask ε Out _ := .read .pool q
  obtain ⟨htxn, hdb⟩ : (step S env o w).2.txn = none ∧ (step S env o w).2.db = w.db :=
    step_idle o trivial hw
  rw [burst_op htxn]
  exact ⟨_, fun b hb => eval_of_step_read hw hb, rfl, hdb⟩

theorem burst_of_step {o : DbOp Rd Wr Ask ε Out β} {k : β → Prog (DbOp Rd Wr Ask ε Out) α} {b : β}
    {w' : World σ Out} (h : step S env o w = (b, w')) (hw : w'.txn = none) :
    (Prog.op o k).burst S env w = (k b, w') := by
  have htxn : (step S env o w).2.txn = none := by
    rw [h]
    exact hw
  rw [burst_op htxn, h]

/-- A write on the pool fails and leaves the store alone, or does what the store makes of it. -/
theorem step_write_pool (S : Store Rd Wr ε σ) (env : Env Ask) (q : Wr β) (w : World σ Out) :
    (∃ e, step S env (.write .pool q) w = (.error e, w.tock)) ∨
    ∃ b s', S.apply q w.nextId w.db = .ok (b, s') ∧
      step S env (.write .pool q) w = (.ok b, w.store .pool s') := by
  cases hf : env.fault w.tick with
  | some e => exact Or.inl ⟨S.failed e, by simp only [step, hf]⟩
  | none =>
      cases happly : S.apply q w.nextId w.db with
      | error e => exact Or.inl ⟨e, by simp only [step, hf, World.view_pool, happly]⟩
      | ok r => exact Or.inr ⟨r.1, r.2, rfl, by simp only [step, hf, World.view_pool, happly]⟩

/-- A write on the pool, as a step of its own. -/
theorem burst_write_pool (S : Store Rd Wr ε σ) (env : Env Ask) (q : Wr β)
    (k : Except ε β → Prog (DbOp Rd Wr Ask ε Out) α) (hw : w.txn = none) :
    (∃ e, (Prog.op (.write .pool q) k).burst S env w = (k (.error e), w.tock)) ∨
    ∃ b s', S.apply q w.nextId w.db = .ok (b, s') ∧
      (Prog.op (.write .pool q) k).burst S env w = (k (.ok b), w.store .pool s') :=
  (step_write_pool S env q w).imp (fun ⟨e, h⟩ => ⟨e, burst_of_step h hw⟩)
    fun ⟨b, s', happly, h⟩ => ⟨b, s', happly, burst_of_step h hw⟩

/-- Where nothing fails from outside, the store's answer is the write's. -/
theorem burst_write_pool_error {q : Wr β} {k : Except ε β → Prog (DbOp Rd Wr Ask ε Out) α}
    (hq : env.Quiet) (hw : w.txn = none) {e : ε} (h : S.apply q w.nextId w.db = .error e) :
    (Prog.op (.write .pool q) k).burst S env w = (k (.error e), w.tock) :=
  burst_of_step (by simp only [step, hq w.tick, World.view_pool, h]) hw

/-! ## Single steps -/

/-- The next operation of the program, in a store no transaction of which is open before or after. -/
def Prog.Moves (S : Store Rd Wr ε σ) (env : Env Ask) (x : Prog (DbOp Rd Wr Ask ε Out) α)
    (w : World σ Out) (x' : Prog (DbOp Rd Wr Ask ε Out) α) (w' : World σ Out) : Prop :=
  ∃ (β : Type) (o : DbOp Rd Wr Ask ε Out β) (k : β → Prog (DbOp Rd Wr Ask ε Out) α) (b : β),
    x = .op o k ∧ step S env o w = (b, w') ∧ x' = k b ∧ w'.txn = none

section Moves

variable {w' : World σ Out} {x x' : Prog (DbOp Rd Wr Ask ε Out) α}

theorem Prog.Moves.burst (h : x.Moves S env w x' w') : x.burst S env w = (x', w') := by
  obtain ⟨β, o, k, b, rfl, hstep, rfl, htxn⟩ := h
  exact burst_of_step hstep htxn

theorem Prog.Moves.run (h : x.Moves S env w x' w') : x.run S env w = x'.run S env w' := by
  obtain ⟨β, o, k, b, rfl, hstep, rfl, -⟩ := h
  rw [Prog.run_op, hstep]

theorem moves_read_pool (S : Store Rd Wr ε σ) (env : Env Ask) (q : Rd β)
    (k : Except ε β → Prog (DbOp Rd Wr Ask ε Out) α) (hw : w.txn = none) :
    ∃ r, (Prog.op (.read .pool q) k).Moves S env w (k r) w.tock ∧
      (r = S.eval q w.db ∨ ∃ n, env.fault w.tick = some n ∧ r = .error (S.failed n)) := by
  cases hf : env.fault w.tick with
  | some n =>
      refine ⟨.error (S.failed n), ⟨_, _, k, _, rfl, ?_, rfl, hw⟩, Or.inr ⟨n, rfl, rfl⟩⟩
      simp only [step, hf]
  | none =>
      refine ⟨S.eval q w.db, ⟨_, _, k, _, rfl, ?_, rfl, hw⟩, Or.inl rfl⟩
      simp only [step, hf, World.view_pool]

theorem moves_write_pool (S : Store Rd Wr ε σ) (env : Env Ask) (q : Wr β)
    (k : Except ε β → Prog (DbOp Rd Wr Ask ε Out) α) (hw : w.txn = none) :
    (∃ e, (Prog.op (.write .pool q) k).Moves S env w (k (.error e)) w.tock ∧
      (S.apply q w.nextId w.db = .error e ∨
        ∃ n, env.fault w.tick = some n ∧ e = S.failed n)) ∨
    ∃ b s', (Prog.op (.write .pool q) k).Moves S env w (k (.ok b)) (w.store .pool s') ∧
      S.apply q w.nextId w.db = .ok (b, s') := by
  cases hf : env.fault w.tick with
  | some n =>
      refine Or.inl ⟨S.failed n, ⟨_, _, k, _, rfl, ?_, rfl, hw⟩, Or.inr ⟨n, rfl, rfl⟩⟩
      simp only [step, hf]
  | none =>
      cases happly : S.apply q w.nextId w.db with
      | error e =>
          refine Or.inl ⟨e, ⟨_, _, k, _, rfl, ?_, rfl, hw⟩, Or.inl rfl⟩
          simp only [step, hf, World.view_pool, happly]
      | ok r =>
          refine Or.inr ⟨r.1, r.2, ⟨_, _, k, _, rfl, ?_, rfl, hw⟩, rfl⟩
          simp only [step, hf, World.view_pool, happly]

/-- Up to its operation, a program moves without touching the store. -/
theorem Prog.Until.moves (hx : x.Until S env T Q) (hw : w.txn = none) :
    (∃ a, x = .ret a ∧ Q a) ∨ T x ∨
      ∃ x' w', x.Moves S env w x' w' ∧ x'.Until S env T Q ∧ w'.db = w.db := by
  cases x with
  | ret a => exact Or.inl ⟨a, rfl, hx⟩
  | op o k =>
      refine Or.inr (hx.imp_right fun ⟨hidle, hk⟩ => ?_)
      obtain ⟨htxn, hdb⟩ : (step S env o w).2.txn = none ∧ (step S env o w).2.db = w.db :=
        step_idle o hidle hw
      exact ⟨_, _, ⟨_, o, k, _, rfl, rfl, rfl, htxn⟩, hk _ (answersFrom_step o hw), hdb⟩

/-- Alone on the store, a program reaches its operation or returns, and has touched nothing. -/
theorem Prog.Until.run : ∀ {x : Prog (DbOp Rd Wr Ask ε Out) α} {w : World σ Out},
    x.Until S env T Q → w.txn = none →
      Q (x.run S env w).1 ∧ (x.run S env w).2.db = w.db ∨
      ∃ x' w', T x' ∧ x.run S env w = x'.run S env w' ∧ w'.db = w.db ∧ w'.txn = none
  | .ret _, _, hx, _ => Or.inl ⟨hx, rfl⟩
  | .op o k, w, hx, hw => by
      rcases hx with hT | ⟨hidle, hk⟩
      · exact Or.inr ⟨_, w, hT, rfl, rfl, hw⟩
      · obtain ⟨htxn, hdb⟩ : (step S env o w).2.txn = none ∧ (step S env o w).2.db = w.db :=
          step_idle o hidle hw
        have h := Prog.Until.run (hk _ (answersFrom_step o hw)) htxn
        rw [hdb] at h
        exact h

end Moves

/-- A step of a program that only issues some writes keeps what those writes keep. -/
theorem burst_onlyWrites (env : Env Ask) {W : Conn → ∀ β : Type, Wr β → Prop} {D : σ → Prop}
    (hW : ∀ c (β : Type) (q : Wr β) id s b s', W c β q → D s → S.apply q id s = .ok (b, s') → D s')
    {x : Prog (DbOp Rd Wr Ask ε Out) α} (hx : x.Every anyAnswer (onlyWrites W) Q)
    (hw : w.txn = none) (hD : D w.db) :
    (x.burst S env w).1.Every anyAnswer (onlyWrites W) Q ∧ D (x.burst S env w).2.db := by
  have hholds : w.Holds D D := ⟨hD, fun s hs => nomatch hw.symm.trans hs⟩
  obtain ⟨hrest, hkept, -⟩ := burst_every (I := World.Holds D D)
    (fun _ o w hw ho => ⟨(step_onlyWrites hW o hw ho).1, trivial⟩)
    (fun _ hw => ⟨hw.1, fun _ hs => nomatch hs⟩) hx hholds
  exact ⟨hrest, hkept⟩

namespace Call

variable {η η' : Type} {E : η → Prop} {R : β → Prop}

theorem until_bind {T : Prog (DbOp Rd Wr Ask ε Out) (Except η α) → Prop} {Q : Except η α → Prop}
    {x : Call (DbOp Rd Wr Ask ε Out) η β} {f : β → Call (DbOp Rd Wr Ask ε Out) η α}
    (hx : x.Every (answersFrom S env fun _ => True) idle E R) (hE : ∀ e, E e → Q (.error e))
    (hf : ∀ b, R b → (f b).prog.Until S env T Q) : (x >>= f).prog.Until S env T Q := by
  rw [Call.prog_bind]
  refine Prog.Until.bind (fun r hr => ?_) hx
  cases r with
  | ok b => exact hf b hr
  | error e => exact hE e hr

/-- A program without writes is idle. -/
theorem Every.idle_of_noWrite {A : ∀ β : Type, DbOp Rd Wr Ask ε Out β → β → Prop}
    {x : Call (DbOp Rd Wr Ask ε Out) η β} (hx : x.Every A (writesIn noWrite) E R) :
    x.Every A idle E R := by
  refine hx.mono (fun _ _ _ h => h) (fun _ o h => ?_) (fun _ h => h) fun _ h => h
  cases o with
  | write c q => exact h.elim
  | begin => exact h.elim
  | _ => trivial

end Call

end TxnLib
