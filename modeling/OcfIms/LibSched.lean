import OcfIms.LibRun
import OcfIms.LibTriple

/-!
# Programs that share a store

Any number of programs on one store, one operation at a time: a step lets one program perform its
next operation, in any order between the programs. Only a transaction is not interrupted. A store
that locks the rows a transaction writes until it ends orders the transactions that meet, and its
outcome is that of the transactions run one after the other; so a program that opens a transaction
runs on, in the same step, until the transaction is closed. A transaction its program leaves open is
rolled back.

Two rules prove what holds of the store after every run. The first needs an invariant that every
single operation keeps. The second follows each program as if it were alone, but lets the store
change between any two steps to whatever the other programs may make of it; what a transaction does
is then a matter of its triple.
-/

namespace TxnLib

open RunLib

variable {Rd Wr Ask : Type → Type} {ε Out σ α β : Type} {ι : Type}

/-- Perform the next operation, and go on while a transaction is open. -/
def Prog.burst (S : Store Rd Wr ε σ) (env : Env Ask) :
    Prog (DbOp Rd Wr Ask ε Out) α → World σ Out → Prog (DbOp Rd Wr Ask ε Out) α × World σ Out
  | .ret a, w => (.ret a, { w with txn := none })
  | .op o k, w =>
    if (step S env o w).2.txn.isNone then (k (step S env o w).1, (step S env o w).2)
    else (k (step S env o w).1).burst S env (step S env o w).2

/-- What is left of each program, and the store they share. -/
structure Sys (Rd Wr Ask : Type → Type) (ε Out σ α ι : Type) where
  procs : ι → Prog (DbOp Rd Wr Ask ε Out) α
  world : World σ Out

/-- A step of the program `i`; there is none once it has returned. -/
def Sys.turn [DecidableEq ι] (S : Store Rd Wr ε σ) (env : Env Ask)
    (sys : Sys Rd Wr Ask ε Out σ α ι) (i : ι) : Option (Sys Rd Wr Ask ε Out σ α ι) :=
  match sys.procs i with
  | .ret _ => none
  | .op o k =>
    let next := (Prog.op o k).burst S env sys.world
    some ⟨Function.update sys.procs i next.1, next.2⟩

section Rules

variable {S : Store Rd Wr ε σ} {env : Env Ask} {w w' : World σ Out}
  {x : Prog (DbOp Rd Wr Ask ε Out) α} {f : α → Prog (DbOp Rd Wr Ask ε Out) β}

/-- An operation that leaves no transaction open is a step of its own. -/
theorem burst_op {o : DbOp Rd Wr Ask ε Out β} {k : β → Prog (DbOp Rd Wr Ask ε Out) α}
    (h : (step S env o w).2.txn = none) :
    (Prog.op o k).burst S env w = (k (step S env o w).1, (step S env o w).2) := by
  rw [Prog.burst, h]
  rfl

/-- A statement that leaves no transaction open, and what the call does with its answer. -/
theorem burst_attempt_bind {η : Type} {o : DbOp Rd Wr Ask ε Out (Except ε β)} {g : ε → η}
    {y : β → Call (DbOp Rd Wr Ask ε Out) η α} (h : (step S env o w).2.txn = none) :
    (Call.mapErr g (Call.attempt o) >>= y).prog.burst S env w =
      (match (step S env o w).1 with
        | .ok b => (y b).prog
        | .error e => .ret (.error (g e)), (step S env o w).2) := by
  refine (burst_op h).trans ?_
  cases (step S env o w).1 <;> rfl

theorem burst_txn : ∀ (x : Prog (DbOp Rd Wr Ask ε Out) α) (w : World σ Out),
    (x.burst S env w).2.txn = none
  | .ret _, _ => rfl
  | .op o k, w => by
      rw [Prog.burst]
      split
      · exact Option.isNone_iff_eq_none.mp ‹_›
      · exact burst_txn (k (step S env o w).1) (step S env o w).2

theorem turn_eq_some [DecidableEq ι] {sys sys' : Sys Rd Wr Ask ε Out σ α ι} {i : ι} :
    sys.turn S env i = some sys' ↔ (∃ β, ∃ o : DbOp Rd Wr Ask ε Out β, ∃ k, sys.procs i = .op o k) ∧
      sys' = ⟨Function.update sys.procs i ((sys.procs i).burst S env sys.world).1,
        ((sys.procs i).burst S env sys.world).2⟩ := by
  rw [Sys.turn]
  cases hp : sys.procs i with
  | ret a => simp
  | op o k => simp [eq_comm]

/-! ## Invariants of single operations -/

/-- A step of a program all of whose operations keep an invariant. -/
theorem burst_every {A : ∀ β : Type, DbOp Rd Wr Ask ε Out β → β → Prop}
    {P : ∀ β : Type, DbOp Rd Wr Ask ε Out β → Prop} {Q : α → Prop} {I : World σ Out → Prop}
    (hstep : ∀ β (o : DbOp Rd Wr Ask ε Out β) (w : World σ Out), I w → P β o →
      I (step S env o w).2 ∧ A β o (step S env o w).1)
    (hdrop : ∀ w, I w → I { w with txn := none }) :
    ∀ {x : Prog (DbOp Rd Wr Ask ε Out) α} {w : World σ Out}, x.Every A P Q → I w →
      (x.burst S env w).1.Every A P Q ∧ I (x.burst S env w).2
  | .ret _, w, hx, hw => ⟨hx, hdrop w hw⟩
  | .op o _, w, hx, hw => by
      obtain ⟨hI, hA⟩ := hstep _ o w hw hx.1
      rw [Prog.burst]
      split
      · exact ⟨hx.2 _ hA, hI⟩
      · exact burst_every hstep hdrop (hx.2 _ hA) hI

/-- **The invariant rule for interleavings.** What every permitted operation keeps holds after every
run of programs made of permitted operations. -/
theorem every_of_run [DecidableEq ι] {A : ∀ β : Type, DbOp Rd Wr Ask ε Out β → β → Prop}
    {P : ∀ β : Type, DbOp Rd Wr Ask ε Out β → Prop} {Q : α → Prop} {I : World σ Out → Prop}
    (hstep : ∀ β (o : DbOp Rd Wr Ask ε Out β) (w : World σ Out), I w → P β o →
      I (step S env o w).2 ∧ A β o (step S env o w).1)
    (hdrop : ∀ w, I w → I { w with txn := none }) {sys₀ sys : Sys Rd Wr Ask ε Out σ α ι}
    (hprocs : ∀ i, (sys₀.procs i).Every A P Q) (hI : I sys₀.world) {as : List ι}
    (hr : Run (Sys.turn S env) sys₀ as sys) :
    I sys.world ∧ ∀ i, (sys.procs i).Every A P Q := by
  refine hr.invariant (I := fun _ sys => I sys.world ∧ ∀ i, (sys.procs i).Every A P Q)
    ⟨hI, hprocs⟩ ?_
  rintro _ sys i sys' ⟨hI, hprocs⟩ hs
  obtain ⟨-, rfl⟩ := turn_eq_some.mp hs
  obtain ⟨hx, hw⟩ := burst_every hstep hdrop (hprocs i) hI
  refine ⟨hw, fun j => ?_⟩
  by_cases hj : j = i
  · subst hj
    simpa only [Function.update_self] using hx
  · simpa only [Function.update_of_ne hj] using hprocs j

/-- The operations of a program whose writes satisfy `W`, with or without transactions. -/
def onlyWrites (W : Conn → ∀ β : Type, Wr β → Prop) : ∀ β : Type, DbOp Rd Wr Ask ε Out β → Prop
  | _, .write (β := β) c q => W c β q
  | _, _ => True

/-- What reads find in states that satisfy `D`, and what the environment answers. -/
def answersFrom (S : Store Rd Wr ε σ) (env : Env Ask) (D : σ → Prop) :
    ∀ β : Type, DbOp Rd Wr Ask ε Out β → β → Prop
  | _, .read _ q, r => ∀ b, r = .ok b → ∃ s, D s ∧ S.eval q s = .ok b
  | _, .ask q, b => ∃ n, b = env.answer n q
  | _, _, _ => True

/-- The same, and what it means if a read fails: it fails in such a state, or the connection fails it,
or its transaction is over. -/
def answersIn (S : Store Rd Wr ε σ) (env : Env Ask) (D : σ → Prop) :
    ∀ β : Type, DbOp Rd Wr Ask ε Out β → β → Prop
  | _, .read _ q, r => (∃ s, D s ∧ S.eval q s = r) ∨ r = .error S.txDone ∨
      ∃ n, r = .error (S.failed n)
  | _, .ask q, b => ∃ n, b = env.answer n q
  | _, _, _ => True

theorem answersFrom_of_answersIn {D : σ → Prop} {o : DbOp Rd Wr Ask ε Out β} {b : β}
    (h : answersIn S env D β o b) : answersFrom S env D β o b := by
  cases o with
  | read c q =>
      rintro a rfl
      rcases h with h | h | ⟨n, h⟩
      · exact h
      · cases h
      · cases h
  | ask q => exact h
  | _ => trivial

theorem step_answersIn {W : Conn → ∀ β : Type, Wr β → Prop} {D : σ → Prop}
    (hW : ∀ c (β : Type) (q : Wr β) id s b s', W c β q → D s → S.apply q id s = .ok (b, s') → D s')
    (o : DbOp Rd Wr Ask ε Out β) (hw : w.Holds D D) (ho : onlyWrites W β o) :
    (step S env o w).2.Holds D D ∧ answersIn S env D β o (step S env o w).1 := by
  cases o with
  | read c q =>
      simp only [step]
      cases env.fault w.tick with
      | some e => exact ⟨hw, Or.inr (Or.inr ⟨e, rfl⟩)⟩
      | none =>
          cases hs : w.view c with
          | none => exact ⟨hw, Or.inr (Or.inl rfl)⟩
          | some s =>
              have hD : D s := by
                cases c with
                | pool => exact Option.some.inj hs ▸ hw.1
                | txn => exact hw.2 s hs
              exact ⟨hw, Or.inl ⟨s, hD, rfl⟩⟩
  | write c q =>
      exact ⟨Call.step_writesIn (hW .pool) (hW .txn) _ hw ho, trivial⟩
  | begin =>
      simp only [step]
      cases env.fault w.tick with
      | some e => exact ⟨hw, trivial⟩
      | none => exact ⟨⟨hw.1, fun s hs => Option.some.inj hs ▸ hw.1⟩, trivial⟩
  | commit =>
      simp only [step]
      cases env.fault w.tick with
      | some e => exact ⟨⟨hw.1, by rintro s ⟨⟩⟩, trivial⟩
      | none =>
          cases hs : w.txn with
          | none => exact ⟨hw, trivial⟩
          | some s => exact ⟨⟨hw.2 s hs, by rintro s ⟨⟩⟩, trivial⟩
  | rollback => exact ⟨⟨hw.1, by rintro s ⟨⟩⟩, trivial⟩
  | ask q => exact ⟨hw, w.tick, rfl⟩
  | emit o => exact ⟨hw, trivial⟩

theorem step_onlyWrites {W : Conn → ∀ β : Type, Wr β → Prop} {D : σ → Prop}
    (hW : ∀ c (β : Type) (q : Wr β) id s b s', W c β q → D s → S.apply q id s = .ok (b, s') → D s')
    (o : DbOp Rd Wr Ask ε Out β) (hw : w.Holds D D) (ho : onlyWrites W β o) :
    (step S env o w).2.Holds D D ∧ answersFrom S env D β o (step S env o w).1 := by
  obtain ⟨hkept, hanswer⟩ := step_answersIn hW o hw ho
  exact ⟨hkept, answersFrom_of_answersIn hanswer⟩

/-- The same for one program, run to its end. -/
theorem Call.holds_of_every {η : Type} {W : Conn → ∀ β : Type, Wr β → Prop} {D : σ → Prop}
    (hW : ∀ c (β : Type) (q : Wr β) id s b s', W c β q → D s → S.apply q id s = .ok (b, s') → D s')
    {x : Call (DbOp Rd Wr Ask ε Out) η α} {E : η → Prop} {Q : α → Prop}
    (hx : x.Every (answersFrom S env D) (onlyWrites W) E Q) {w : World σ Out} (hw : w.Holds D D) :
    (x.run S env w).2.Holds D D :=
  (Call.run_every (fun _ o _ hw ho => step_onlyWrites hW o hw ho) hx hw).1

section Widen

variable {η : Type} {Rd' Wr' Ask' : Type → Type} {Out' : Type}
  {A : ∀ β : Type, DbOp (fun β => Rd β ⊕ Rd' β) (fun β => Wr β ⊕ Wr' β)
    (fun β => Ask β ⊕ Ask' β) ε (Out ⊕ Out') β → β → Prop}
  {x : Call (DbOp Rd Wr Ask ε Out) η α}

/-- A program that writes nothing writes nothing among more statements. -/
theorem Call.noWrite_widen
    (hx : x.Every anyAnswer (writesIn Call.noWrite) (fun _ => True) fun _ => True) :
    x.widen.Every A (writesIn Call.noWrite) (fun _ => True) fun _ => True := by
  refine Call.every_widen (fun β o ho => ?_) (fun _ _ _ _ => trivial) hx
  cases o with
  | write c q => exact ho.elim
  | begin => exact ho.elim
  | commit => exact ho.elim
  | rollback => exact ho.elim
  | _ => trivial

/-- And so any permitted ones. -/
theorem Call.onlyWrites_widen {W : Conn → ∀ β : Type, Wr β ⊕ Wr' β → Prop}
    (hx : x.Every anyAnswer (writesIn Call.noWrite) (fun _ => True) fun _ => True) :
    x.widen.Every A (onlyWrites W) (fun _ => True) fun _ => True := by
  refine (Call.noWrite_widen hx).mono (fun _ _ _ h => h) (fun β o ho => ?_) (fun _ _ => trivial)
    fun _ _ => trivial
  cases o with
  | write c q => exact ho.elim
  | _ => trivial

end Widen

/-- What every permitted write keeps, of the store and of an open transaction's copy, holds after
every run of programs that issue permitted writes only. -/
theorem holds_of_run [DecidableEq ι] {W : Conn → ∀ β : Type, Wr β → Prop} {D : σ → Prop}
    (hW : ∀ c (β : Type) (q : Wr β) id s b s', W c β q → D s → S.apply q id s = .ok (b, s') → D s')
    {Q : α → Prop} {sys₀ sys : Sys Rd Wr Ask ε Out σ α ι}
    (hprocs : ∀ i, (sys₀.procs i).Every (answersIn S env D) (onlyWrites W) Q)
    (hD : sys₀.world.Holds D D) {as : List ι} (hr : Run (Sys.turn S env) sys₀ as sys) :
    sys.world.Holds D D :=
  (every_of_run (fun _ o _ hw ho => step_answersIn hW o hw ho)
    (fun _ hw => ⟨hw.1, fun _ hs => nomatch hs⟩) hprocs hD hr).1

/-! ## Programs under interference -/

/-- Whatever the other programs make of the store, as long as it satisfies `D`, the program keeps it
satisfying `D` and ends as announced. The store may change wherever no transaction is open. -/
def Prog.Safe (S : Store Rd Wr ε σ) (env : Env Ask) (D : σ → Prop) :
    Prog (DbOp Rd Wr Ask ε Out) α → (α → World σ Out → Prop) → World σ Out → Prop
  | .ret a, Q, w => Q a w
  | .op o k, Q, w =>
    D (step S env o w).2.db ∧
    ((step S env o w).2.txn = none → ∀ w' : World σ Out, w'.txn = none → D w'.db →
      (k (step S env o w).1).Safe S env D Q w') ∧
    ((step S env o w).2.txn ≠ none →
      (k (step S env o w).1).Safe S env D Q (step S env o w).2)

variable {D : σ → Prop} {Q Q' : α → World σ Out → Prop} {R : β → World σ Out → Prop}

theorem Prog.Safe.mono (hQ : ∀ a w, Q a w → Q' a w) :
    ∀ {x : Prog (DbOp Rd Wr Ask ε Out) α} {w : World σ Out}, x.Safe S env D Q w →
      x.Safe S env D Q' w
  | .ret a, w, h => hQ a w h
  | .op _ _, _, h => ⟨h.1, fun hn w' hw' hD => Prog.Safe.mono hQ (h.2.1 hn w' hw' hD),
      fun hs => Prog.Safe.mono hQ (h.2.2 hs)⟩

theorem Prog.Safe.bind (hf : ∀ a w, Q a w → (f a).Safe S env D R w) :
    ∀ {x : Prog (DbOp Rd Wr Ask ε Out) α} {w : World σ Out}, x.Safe S env D Q w →
      (x >>= f).Safe S env D R w
  | .ret a, w, h => hf a w h
  | .op _ _, _, h => ⟨h.1, fun hn w' hw' hD => Prog.Safe.bind hf (h.2.1 hn w' hw' hD),
      fun hs => Prog.Safe.bind hf (h.2.2 hs)⟩

/-- One step of a safe program leaves the store satisfying `D` and a safe program. -/
theorem Prog.Safe.burst :
    ∀ {x : Prog (DbOp Rd Wr Ask ε Out) α} {w : World σ Out},
      x.Safe S env D (fun _ w => D w.db) w → D (x.burst S env w).2.db ∧
        ∀ w' : World σ Out, w'.txn = none → D w'.db →
          (x.burst S env w).1.Safe S env D (fun _ w => D w.db) w'
  | .ret _, _, h => ⟨h, fun _ _ hD => hD⟩
  | .op o k, w, h => by
      rw [Prog.burst]
      split
      · rename_i hn
        exact ⟨h.1, h.2.1 (Option.isNone_iff_eq_none.mp hn)⟩
      · rename_i hs
        exact Prog.Safe.burst (h.2.2 fun hn => hs (Option.isNone_iff_eq_none.mpr hn))

/-- **The interference rule.** If every program is safe from wherever the others may leave the
store, every run leaves it satisfying `D`. -/
theorem safe_of_run [DecidableEq ι] {sys₀ sys : Sys Rd Wr Ask ε Out σ α ι}
    (hprocs : ∀ i, ∀ w : World σ Out, w.txn = none → D w.db →
      (sys₀.procs i).Safe S env D (fun _ w => D w.db) w)
    (htxn : sys₀.world.txn = none) (hD : D sys₀.world.db) {as : List ι}
    (hr : Run (Sys.turn S env) sys₀ as sys) : D sys.world.db := by
  have h : sys.world.txn = none ∧ D sys.world.db ∧ ∀ i, ∀ w : World σ Out, w.txn = none → D w.db →
      (sys.procs i).Safe S env D (fun _ w => D w.db) w := by
    refine hr.invariant (I := fun _ sys => sys.world.txn = none ∧ D sys.world.db ∧
      ∀ i, ∀ w : World σ Out, w.txn = none → D w.db →
        (sys.procs i).Safe S env D (fun _ w => D w.db) w) ⟨htxn, hD, hprocs⟩ ?_
    rintro _ sys i sys' ⟨htxn, hD, hprocs⟩ hs
    obtain ⟨-, rfl⟩ := turn_eq_some.mp hs
    obtain ⟨hdb, hsafe⟩ := (hprocs i sys.world htxn hD).burst
    refine ⟨burst_txn _ _, hdb, fun j w hw hDw => ?_⟩
    by_cases hj : j = i
    · subst hj
      simp only [Function.update_self]
      exact hsafe w hw hDw
    · simp only [Function.update_of_ne hj]
      exact hprocs j w hw hDw
  exact h.2.1

/-! ## Safe calls -/

namespace Call

variable {η η' : Type}

/-- A call that may be interrupted at its start, and leaves the store open to interruption. -/
def Safe (S : Store Rd Wr ε σ) (env : Env Ask) (D : σ → Prop)
    (x : Call (DbOp Rd Wr Ask ε Out) η α) : Prop :=
  ∀ w : World σ Out, w.txn = none → D w.db →
    x.prog.Safe S env D (fun _ w => w.txn = none ∧ D w.db) w

variable {y : Call (DbOp Rd Wr Ask ε Out) η α} {g : α → Call (DbOp Rd Wr Ask ε Out) η β}

theorem Safe.bind (hy : y.Safe S env D) (hg : ∀ a, (g a).Safe S env D) :
    (y >>= g).Safe S env D := by
  intro w hw hD
  rw [prog_bind]
  refine Prog.Safe.bind (fun r w' h => ?_) (hy w hw hD)
  cases r with
  | ok a => exact hg a w' h.1 h.2
  | error e => exact h

theorem Safe.mapErr {m : η → η'} (hy : y.Safe S env D) : (Call.mapErr m y).Safe S env D := by
  intro w hw hD
  exact Prog.Safe.bind (fun _ _ h => h) (hy w hw hD)

/-- A call that leaves transactions alone and whose writes to the pool keep `D`. -/
theorem safe_writesIn {W : Conn → ∀ β : Type, Wr β → Prop}
    (hW : ∀ (β : Type) (q : Wr β) id s b s', W .pool β q → D s → S.apply q id s = .ok (b, s') →
      D s')
    {E : η → Prop} {J : α → Prop} (hy : y.Every anyAnswer (writesIn W) E J) :
    y.Safe S env D := by
  have hprog : ∀ {γ : Type} {z : Prog (DbOp Rd Wr Ask ε Out) γ} {J : γ → Prop},
      z.Every anyAnswer (writesIn W) J → ∀ w : World σ Out, w.txn = none → D w.db →
        z.Safe S env D (fun _ w => w.txn = none ∧ D w.db) w := by
    intro γ z J hz
    induction z with
    | ret a => exact fun w hw hD => ⟨hw, hD⟩
    | op o k ih =>
        intro w hw hD
        have hstep : (step S env o w).2.Holds D fun _ => False :=
          step_writesIn hW (fun _ _ _ _ _ _ _ h => h.elim) o
            ⟨hD, fun s hs => by rw [hw] at hs; cases hs⟩ hz.1
        refine ⟨hstep.1, fun _ w' hw' hD' => ih _ (hz.2 _ trivial) w' hw' hD', fun hsome => ?_⟩
        obtain ⟨s, hs⟩ := Option.ne_none_iff_exists'.mp hsome
        exact (hstep.2 s hs).elim
  exact hprog hy

/-- No write to the pool. -/
def sparesPool : Conn → ∀ β : Type, Wr β → Prop
  | .pool, _, _ => False
  | .txn, _, _ => True

/-- Inside a transaction, a statement leaves it open and the pool alone. -/
theorem step_open {W : Conn → ∀ β : Type, Wr β → Prop}
    (hW : ∀ (β : Type) (q : Wr β), ¬ W .pool β q) (o : DbOp Rd Wr Ask ε Out β)
    (ho : writesIn W β o) (htxn : w.txn ≠ none) :
    (step S env o w).2.txn ≠ none ∧ (step S env o w).2.db = w.db := by
  cases o with
  | read c q =>
      simp only [step]
      split <;> exact ⟨htxn, rfl⟩
  | write c q =>
      cases c with
      | pool => exact (hW _ q ho).elim
      | txn =>
          simp only [step]
          split
          · exact ⟨htxn, rfl⟩
          · exact ⟨htxn, rfl⟩
          · split
            · exact ⟨htxn, rfl⟩
            · exact ⟨by simp, rfl⟩
  | begin => exact ho.elim
  | commit => exact ho.elim
  | rollback => exact ho.elim
  | ask q => exact ⟨htxn, rfl⟩
  | emit o => exact ⟨htxn, rfl⟩

/-- A part of a program that runs inside an open transaction is not interrupted: its triple says
what it does. -/
theorem safe_of_triple {W : Conn → ∀ β : Type, Wr β → Prop}
    (hW : ∀ (β : Type) (q : Wr β), ¬ W .pool β q) {E : η → Prop} {P : α → Prop}
    (hy : y.Every anyAnswer (writesIn W) E P) {I : World σ Out → Prop}
    {J : α → World σ Out → Prop} {K : η → World σ Out → Prop} (ht : Triple S env I y J K)
    {w : World σ Out} (hI : I w) (htxn : w.txn ≠ none) (hD : D w.db) :
    y.prog.Safe S env D
      (fun r w' => Post J K (r, w') ∧ w'.txn ≠ none ∧ w'.db = w.db) w := by
  have hprog : ∀ {γ : Type} {z : Prog (DbOp Rd Wr Ask ε Out) γ} {P : γ → Prop},
      z.Every anyAnswer (writesIn W) P → ∀ w : World σ Out, w.txn ≠ none → D w.db →
        z.Safe S env D
          (fun a w' => (a, w') = z.run S env w ∧ w'.txn ≠ none ∧ w'.db = w.db) w := by
    intro γ z P hz
    induction z with
    | ret a => exact fun w htxn _ => ⟨rfl, htxn, rfl⟩
    | op o k ih =>
        intro w htxn hD
        have hkeep : (step S env o w).2.txn ≠ none ∧ (step S env o w).2.db = w.db :=
          step_open hW o hz.1 htxn
        refine ⟨hkeep.2 ▸ hD, fun hn => absurd hn hkeep.1, fun _ => ?_⟩
        refine Prog.Safe.mono (fun a w' h => ?_) (ih _ (hz.2 _ trivial) _ hkeep.1 (hkeep.2 ▸ hD))
        exact ⟨h.1, h.2.1, h.2.2.trans hkeep.2⟩
  refine Prog.Safe.mono (fun r w' h => ⟨?_, h.2⟩) (hprog hy w htxn hD)
  rw [h.1]
  exact ht w hI

/-- A transaction as the services run it: begin, the body, commit, what follows the commit, and a
rollback of whatever is still open. If the body takes a copy satisfying `D` to one that does, the
others never see anything else. -/
theorem safe_transaction {W : Conn → ∀ β : Type, Wr β → Prop}
    (hW : ∀ (β : Type) (q : Wr β), ¬ W .pool β q) {E : η → Prop} {P : α → Prop}
    (hy : y.Every anyAnswer (writesIn W) E P)
    (ht : Triple S env (World.Holds D D) y (fun _ w => w.Holds D D) fun _ _ => True)
    (hg : ∀ a, (g a).Safe S env D) (m m' : ε → η) :
    (Call.mapErr m (attempt .begin) >>= fun _ => Call.deferRollback
      (y >>= fun a => Call.mapErr m' (attempt .commit) >>= fun _ => g a)).Safe S env D := by
  intro w hw hD
  have hcommit : ∀ a, ∀ w : World σ Out, w.Holds D D → w.txn ≠ none →
      (Call.mapErr m' (attempt .commit) >>= fun _ => g a).prog.Safe S env D
        (fun _ w => D w.db) w := by
    intro a w hw htxn
    obtain ⟨s, hs⟩ := Option.ne_none_iff_exists'.mp htxn
    have hstep : ∀ (r : Except ε Unit) (w' : World σ Out),
        step S env (.commit : DbOp Rd Wr Ask ε Out _) w = (r, w') → w'.txn = none ∧ D w'.db := by
      intro r w' h
      simp only [step, hs] at h
      split at h
      · cases h
        exact ⟨rfl, hw.1⟩
      · rename_i heq
        cases heq
      · rename_i heq
        cases h
        cases heq
        exact ⟨rfl, hw.2 s hs⟩
    obtain ⟨hnone, hdb⟩ := hstep _ _ rfl
    refine ⟨hdb, fun _ w' hw' hD' => ?_, fun hsome => absurd hnone hsome⟩
    generalize (step S env (.commit : DbOp Rd Wr Ask ε Out _) w).1 = r
    cases r with
    | ok _ => exact Prog.Safe.mono (fun _ _ h => h.2) (hg a w' hw' hD')
    | error e => exact hD'
  have hbody : ∀ w : World σ Out, w.Holds D D → w.txn ≠ none →
      (y >>= fun a => Call.mapErr m' (attempt .commit) >>= fun _ => g a).prog.Safe S env D
        (fun _ w => D w.db) w := by
    intro w hw htxn
    rw [prog_bind]
    refine Prog.Safe.bind (fun r w' h => ?_) (safe_of_triple hW hy ht hw htxn hw.1)
    obtain ⟨hpost, htxn', hdb⟩ := h
    cases r with
    | ok a => exact hcommit a w' hpost htxn'
    | error e =>
        change D w'.db
        rw [hdb]
        exact hw.1
  have hrollback : ∀ w : World σ Out, w.Holds D D → w.txn ≠ none →
      (Call.deferRollback (y >>= fun a => Call.mapErr m' (attempt .commit) >>= fun _ => g a)).prog.Safe
        S env D (fun _ w => w.txn = none ∧ D w.db) w := by
    intro w hw htxn
    refine Prog.Safe.bind (fun r w' h => ?_) (hbody w hw htxn)
    exact ⟨h, fun _ w'' hw'' hD'' => ⟨hw'', hD''⟩, fun hsome => absurd rfl hsome⟩
  rw [prog_bind]
  have hbegin : ∀ (r : Except ε Unit) (w' : World σ Out),
      step S env (.begin : DbOp Rd Wr Ask ε Out _) w = (r, w') → D w'.db ∧
        ((∃ e, r = .error e) ∧ w'.txn = none ∨ r = .ok () ∧ w'.txn = some w'.db) := by
    intro r w' h
    simp only [step] at h
    split at h
    · cases h
      exact ⟨hD, .inl ⟨⟨_, rfl⟩, hw⟩⟩
    · cases h
      exact ⟨hD, .inr ⟨rfl, rfl⟩⟩
  obtain ⟨hdb, hcases⟩ := hbegin (step S env (.begin : DbOp Rd Wr Ask ε Out _) w).1
    (step S env (.begin : DbOp Rd Wr Ask ε Out _) w).2 rfl
  refine ⟨hdb, fun hnone w' hw' hD' => ?_, fun hsome => ?_⟩
  · rcases hcases with ⟨⟨e, he⟩, -⟩ | ⟨-, hs⟩
    · rw [he]
      exact ⟨hw', hD'⟩
    · rw [hs] at hnone
      cases hnone
  · rcases hcases with ⟨-, hnone⟩ | ⟨hok, hs⟩
    · exact absurd hnone hsome
    · rw [hok]
      refine hrollback _ ⟨hdb, fun s h => ?_⟩ hsome
      rw [hs] at h
      obtain rfl := Option.some.inj h
      exact hdb

end Call

end Rules

end TxnLib
