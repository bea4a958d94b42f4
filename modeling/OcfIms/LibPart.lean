import OcfIms.LibUntil

/-!
# Programs that play a part

What a program does to the others that share its store may be told by a few stages: what it knows,
and what it still has to do. A part says which operations a program may perform in a stage, and to
which stage each answer leads. A system of programs that play their parts then runs as the stages do,
and an invariant of the stages and the store is kept if each operation that a part permits keeps it.
-/

namespace TxnLib

open RunLib

/-- The operations a program may perform in a stage, each with the stage that its answer leads to. -/
abbrev Part (Op : Type → Type 1) (Φ : Type) : Type 1 := ∀ β : Type, Op β → Φ → (β → Φ) → Prop

/-- From the stage on, the program performs only what its part permits, as long as the answers satisfy
`A`. It may return at any stage. -/
def Prog.Plays {Op : Type → Type 1} {Φ α : Type} (A : ∀ β : Type, Op β → β → Prop) (R : Part Op Φ) :
    Prog Op α → Φ → Prop
  | .ret _, _ => True
  | .op o k, φ => ∃ g, R _ o φ g ∧ ∀ b, A _ o b → (k b).Plays A R (g b)

section Parts

variable {Op : Type → Type 1} {Φ α β : Type} {A : ∀ β : Type, Op β → β → Prop} {R : Part Op Φ}

/-- What follows a program that plays a part, if it plays the part from any stage on. -/
theorem Prog.Plays.bind {f : α → Prog Op β} (hf : ∀ a φ, (f a).Plays A R φ) :
    ∀ {x : Prog Op α} {φ : Φ}, x.Plays A R φ → (x >>= f).Plays A R φ
  | .ret a, φ, _ => hf a φ
  | .op _ _, _, ⟨g, hg, hk⟩ => ⟨g, hg, fun b hb => Prog.Plays.bind hf (hk b hb)⟩

theorem Call.plays_mapErr {η η' : Type} {m : η → η'} {x : Call Op η α} {φ : Φ}
    (hx : x.prog.Plays A R φ) : (Call.mapErr m x).prog.Plays A R φ := by
  have hret : ∀ (r : Except η α) φ, (Prog.ret (r.mapError m) : Prog Op _).Plays A R φ :=
    fun _ _ => trivial
  exact Prog.Plays.bind hret hx

end Parts

section Runs

variable {Rd Wr Ask : Type → Type} {ε Out σ α Φ ι : Type} {S : Store Rd Wr ε σ} {env : Env Ask}
  {A : ∀ β : Type, DbOp Rd Wr Ask ε Out β → β → Prop} {R : ι → Part (DbOp Rd Wr Ask ε Out) Φ}
  {I : (ι → Φ) → World σ Out → Prop}

/-- **The rule for parts.** Every operation that a part permits, where the invariant holds, is answered
as the programs assume, leaves no transaction open and keeps the invariant, at the stages they then
are in. So it holds after every run, and the programs play on from there. -/
theorem plays_of_run [DecidableEq ι]
    (hstep : ∀ i φs w β (o : DbOp Rd Wr Ask ε Out β) g, I φs w → R i β o (φs i) g →
      A β o (step S env o w).1 ∧ (step S env o w).2.txn = none ∧
        I (Function.update φs i (g (step S env o w).1)) (step S env o w).2)
    {sys₀ sys : Sys Rd Wr Ask ε Out σ α ι} {φs₀ : ι → Φ}
    (hprocs : ∀ i, (sys₀.procs i).Plays A (R i) (φs₀ i)) (hI : I φs₀ sys₀.world) {as : List ι}
    (hr : Run (Sys.turn S env) sys₀ as sys) :
    ∃ φs, I φs sys.world ∧ ∀ i, (sys.procs i).Plays A (R i) (φs i) := by
  refine hr.invariant
    (I := fun _ sys => ∃ φs, I φs sys.world ∧ ∀ i, (sys.procs i).Plays A (R i) (φs i))
    ⟨φs₀, hI, hprocs⟩ ?_
  rintro _ sys i sys' ⟨φs, hI, hprocs⟩ hs
  obtain ⟨⟨β, o, k, hop⟩, rfl⟩ := turn_eq_some.mp hs
  have hplays := hprocs i
  rw [hop] at hplays
  obtain ⟨g, hg, hk⟩ := hplays
  obtain ⟨hanswer, htxn, hI'⟩ := hstep i φs sys.world β o g hI hg
  rw [hop, burst_op htxn]
  refine ⟨_, hI', fun j => ?_⟩
  by_cases hj : j = i
  · subst hj
    simpa only [Function.update_self] using hk _ hanswer
  · simpa only [Function.update_of_ne hj] using hprocs j

end Runs

end TxnLib
