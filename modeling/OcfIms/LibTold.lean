import OcfIms.LibTriple

/-!
# What a program tells, and when

The effects of a call in the order it emits them, each with the store that was committed at that
moment. `Runs` puts a successful run and what it told side by side and is taken apart along the
program: a part that only reads tells nothing, a part that writes nothing to the pool tells all it
tells about one store, and `Publishes` names something that a part tells whenever it succeeds.
-/

namespace TxnLib

variable {Rd Wr Ask : Type → Type} {ε Out σ α β γ : Type}

/-- What one operation tells. -/
def DbOp.told (w : World σ Out) : {β : Type} → DbOp Rd Wr Ask ε Out β → List (Out × σ)
  | _, .emit o => [(o, w.db)]
  | _, _ => []

/-- What a program tells, with the store that was committed at the time. -/
def Prog.told (S : Store Rd Wr ε σ) (env : Env Ask) :
    Prog (DbOp Rd Wr Ask ε Out) α → World σ Out → List (Out × σ)
  | .ret _, _ => []
  | .op o k, w => o.told w ++ (k (step S env o w).1).told S env (step S env o w).2

theorem Prog.told_bind {S : Store Rd Wr ε σ} {env : Env Ask}
    (f : α → Prog (DbOp Rd Wr Ask ε Out) β) :
    ∀ (x : Prog (DbOp Rd Wr Ask ε Out) α) (w : World σ Out), (x >>= f).told S env w =
      x.told S env w ++ (f (x.run S env w).1).told S env (x.run S env w).2
  | .ret _, _ => rfl
  | .op o k, w => by
      rw [op_bind, told, told, run_op, List.append_assoc]
      exact congrArg _ (Prog.told_bind f (k (step S env o w).1) (step S env o w).2)

/-- **The invariant rule.** Whatever is told is told by a permitted operation, in a world that
satisfies the invariant. -/
theorem Prog.told_every {S : Store Rd Wr ε σ} {env : Env Ask}
    {A : ∀ β : Type, DbOp Rd Wr Ask ε Out β → β → Prop}
    {P : ∀ β : Type, DbOp Rd Wr Ask ε Out β → Prop} {Q : α → Prop} {I : World σ Out → Prop}
    (hstep : ∀ β (o : DbOp Rd Wr Ask ε Out β) (w : World σ Out), I w → P β o →
      I (step S env o w).2 ∧ A β o (step S env o w).1) :
    ∀ {x : Prog (DbOp Rd Wr Ask ε Out) α} {w : World σ Out}, x.Every A P Q → I w →
      ∀ o s, (o, s) ∈ x.told S env w → P _ (.emit o) ∧ ∃ w₁, I w₁ ∧ w₁.db = s
  | .ret _, _, _, _, _, _, hmem => nomatch hmem
  | .op q k, w, hx, hw, o, s, hmem => by
      rw [told, List.mem_append] at hmem
      rcases hmem with hmem | hmem
      · cases q with
        | emit o' =>
            obtain ⟨rfl, rfl⟩ := Prod.mk.inj (List.mem_singleton.mp hmem)
            exact ⟨hx.1, w, hw, rfl⟩
        | _ => cases hmem
      · have h := hstep _ q w hw hx.1
        exact Prog.told_every hstep (hx.2 _ h.2) h.1 o s hmem

/-- Any operation but telling. -/
def tellsNothing : ∀ β : Type, DbOp Rd Wr Ask ε Out β → Prop
  | _, .emit _ => False
  | _, _ => True

namespace Call

variable {S : Store Rd Wr ε σ} {env : Env Ask} {η η' : Type}

def told (S : Store Rd Wr ε σ) (env : Env Ask) (x : Call (DbOp Rd Wr Ask ε Out) η α)
    (w : World σ Out) : List (Out × σ) :=
  x.prog.told S env w

variable {x : Call (DbOp Rd Wr Ask ε Out) η α} {f : α → Call (DbOp Rd Wr Ask ε Out) η β}
  {w w' : World σ Out} {a : α} {b : β} {t : List (Out × σ)}

theorem told_bind : (x >>= f).told S env w = x.told S env w ++
    match x.run S env w with
    | (.ok a, w₁) => (f a).told S env w₁
    | (.error _, _) => [] := by
  simp only [told, Call.run, prog_bind, Prog.told_bind]
  rcases x.prog.run S env w with ⟨_ | _, _⟩ <;> rfl

theorem told_mapErr (g : η → η') : (mapErr g x).told S env w = x.told S env w := by
  simp only [told, mapErr, prog, ExceptT.mk, Prog.told_bind]
  exact List.append_nil _

theorem told_deferRollback : x.deferRollback.told S env w = x.told S env w := by
  simp only [told, deferRollback, prog, ExceptT.mk, Prog.told_bind]
  exact List.append_nil _

theorem told_emit (o : Out) :
    (perform (.emit o) : Call (DbOp Rd Wr Ask ε Out) η Unit).told S env w = [(o, w.db)] := by
  simp only [told, perform, prog, ExceptT.lift, ExceptT.mk, map_eq_pure_bind, Prog.told_bind]
  rfl

/-! ## Successful runs -/

/-- Run in `w`, the call returns `a`, leaves `w'` and has told `t`. -/
structure Runs (S : Store Rd Wr ε σ) (env : Env Ask) (x : Call (DbOp Rd Wr Ask ε Out) η α)
    (w : World σ Out) (a : α) (w' : World σ Out) (t : List (Out × σ)) : Prop where
  run : x.run S env w = (.ok a, w')
  told : x.told S env w = t

theorem runs_of_run (h : x.run S env w = (.ok a, w')) : Runs S env x w a w' (x.told S env w) :=
  ⟨h, rfl⟩

theorem Runs.bind_inv (h : Runs S env (x >>= f) w b w' t) :
    ∃ a w₁ t₁ t₂, Runs S env x w a w₁ t₁ ∧ Runs S env (f a) w₁ b w' t₂ ∧ t = t₁ ++ t₂ := by
  obtain ⟨hrun, rfl⟩ := h
  obtain ⟨a, w₁, hx, hf⟩ := run_bind_eq_ok.mp hrun
  refine ⟨a, w₁, _, _, runs_of_run hx, runs_of_run hf, ?_⟩
  rw [told_bind, hx]

theorem Runs.mapErr_inv {g : η → η'} (h : Runs S env (mapErr g x) w a w' t) :
    Runs S env x w a w' t := by
  obtain ⟨hrun, rfl⟩ := h
  rw [run_mapErr] at hrun
  refine ⟨?_, (told_mapErr g).symm⟩
  rcases hx : x.run S env w with ⟨_ | a', w₁⟩
  · rw [hx] at hrun
    cases hrun
  · rw [hx] at hrun
    cases hrun
    rfl

theorem Runs.deferRollback_inv (h : Runs S env x.deferRollback w a w' t) :
    ∃ w₁, Runs S env x w a w₁ t ∧ w'.db = w₁.db := by
  obtain ⟨hrun, rfl⟩ := h
  rw [run_deferRollback] at hrun
  rcases hx : x.run S env w with ⟨_ | a', w₁⟩
  · rw [hx] at hrun
    cases hrun
  · rw [hx] at hrun
    cases hrun
    exact ⟨w₁, ⟨hx, told_deferRollback.symm⟩, rfl⟩

theorem every_tellsNothing {A : ∀ β : Type, DbOp Rd Wr Ask ε Out β → β → Prop}
    {W : Conn → ∀ β : Type, Wr β → Prop} {E : η → Prop} {Q : α → Prop}
    (hx : x.Every A (operatesIn (fun _ => False) W) E Q) : x.Every A tellsNothing E Q := by
  refine hx.mono (fun _ _ _ h => h) (fun β o ho => ?_) (fun _ h => h) fun _ h => h
  cases o with
  | emit o => exact ho
  | _ => trivial

/-- A part that emits nothing tells nothing. -/
theorem Runs.quiet {E : η → Prop} {Q : α → Prop} (h : Runs S env x w a w' t)
    (hx : x.Every anyAnswer tellsNothing E Q) : t = [] := by
  obtain ⟨-, rfl⟩ := h
  refine List.eq_nil_iff_forall_not_mem.mpr fun m hm => ?_
  exact (Prog.told_every (I := fun _ => True) (fun _ _ _ _ _ => ⟨trivial, trivial⟩) hx trivial
    m.1 m.2 hm).1

/-- A part that only reads learns what the store holds, leaves it, and tells nothing. -/
theorem Runs.reads {s : σ} {E : η → Prop} {Q : α → Prop}
    (h : Runs S env x w a w' t) (hx : x.Every (truthful S s) readsPool E Q) (hs : w.db = s) :
    Q a ∧ w'.db = s ∧ t = [] := by
  obtain ⟨hrun, rfl⟩ := h
  have hpost := (triple_reads (T := fun _ => True) hx fun _ _ _ _ => trivial).of_run_ok
    ⟨hs, fun _ _ => trivial⟩ hrun
  refine ⟨hpost.2, hpost.1.1, List.eq_nil_iff_forall_not_mem.mpr fun m hm => ?_⟩
  exact (Prog.told_every (I := World.Holds (· = s) fun _ => True)
    (fun _ o _ hw ho => step_readsPool o hw ho) hx ⟨hs, fun _ _ => trivial⟩ m.1 m.2 hm).1

theorem Runs.bind_quiet {E : η → Prop} {Q : α → Prop} (h : Runs S env (x >>= f) w b w' t)
    (hx : x.Every anyAnswer tellsNothing E Q) :
    ∃ a w₁, x.run S env w = (.ok a, w₁) ∧ Runs S env (f a) w₁ b w' t := by
  obtain ⟨a, w₁, t₁, t₂, hx', hf, rfl⟩ := h.bind_inv
  obtain rfl := hx'.quiet hx
  exact ⟨a, w₁, hx'.run, hf⟩

theorem Runs.bind_reads {s : σ} {E : η → Prop} {Q : α → Prop}
    (h : Runs S env (x >>= f) w b w' t) (hx : x.Every (truthful S s) readsPool E Q)
    (hs : w.db = s) : ∃ a w₁, Q a ∧ w₁.db = s ∧ Runs S env (f a) w₁ b w' t := by
  obtain ⟨a, w₁, t₁, t₂, hx', hf, rfl⟩ := h.bind_inv
  obtain ⟨ha, hdb, rfl⟩ := hx'.reads hx hs
  exact ⟨a, w₁, ha, hdb, hf⟩

/-- A part that writes nothing to the pool tells what it may, all of it about one store. -/
theorem Runs.told_one {T : Out → Prop} {E : η → Prop} {Q : α → Prop}
    (h : Runs S env x w a w' t) (hx : x.Every anyAnswer (operatesIn T txnWrites) E Q) :
    w'.db = w.db ∧ ∀ o s, (o, s) ∈ t → T o ∧ s = w.db := by
  obtain ⟨hrun, rfl⟩ := h
  have hstep : ∀ β (o : DbOp Rd Wr Ask ε Out β) (w₁ : World σ Out),
      World.Holds (· = w.db) (fun _ => True) w₁ → operatesIn T txnWrites β o →
        World.Holds (· = w.db) (fun _ => True) (step S env o w₁).2 ∧
          anyAnswer β o (step S env o w₁).1 := by
    intro β o w₁ hw₁ ho
    refine ⟨step_writesIn (W := txnWrites) (fun _ _ _ _ _ _ hq _ _ => hq.elim)
      (fun _ _ _ _ _ _ _ _ _ => trivial) o hw₁ ?_, trivial⟩
    cases o with
    | emit _ => trivial
    | _ => exact ho
  have hkept := run_every hstep hx ⟨rfl, fun _ _ => trivial⟩
  rw [hrun] at hkept
  refine ⟨hkept.1.1, fun o s hmem => ?_⟩
  obtain ⟨ho, w₁, hw₁, rfl⟩ := Prog.told_every hstep hx ⟨rfl, fun _ _ => trivial⟩ o s hmem
  exact ⟨ho, hw₁.1⟩

/-- A part tells only what it may. -/
theorem Runs.told_only {T : Out → Prop} {W : Conn → ∀ β : Type, Wr β → Prop} {E : η → Prop}
    {Q : α → Prop} (h : Runs S env x w a w' t) (hx : x.Every anyAnswer (operatesIn T W) E Q) :
    ∀ m ∈ t, T m.1 := by
  obtain ⟨-, rfl⟩ := h
  intro m hm
  exact (Prog.told_every (I := fun _ => True) (fun _ _ _ _ _ => ⟨trivial, trivial⟩) hx trivial
    m.1 m.2 hm).1

/-! ## Something that is told -/

/-- A call that succeeds has told `o`. -/
def Publishes (S : Store Rd Wr ε σ) (env : Env Ask) (x : Call (DbOp Rd Wr Ask ε Out) η α)
    (o : Out) : Prop :=
  ∀ w a w' t, Runs S env x w a w' t → ∃ s, (o, s) ∈ t

variable {o : Out}

theorem Publishes.bind_left (h : Publishes S env x o) : Publishes S env (x >>= f) o := by
  intro w b w' t hrun
  obtain ⟨a, w₁, t₁, t₂, hx, -, rfl⟩ := hrun.bind_inv
  obtain ⟨s, hmem⟩ := h w a w₁ t₁ hx
  exact ⟨s, List.mem_append_left _ hmem⟩

theorem Publishes.bind_right (h : ∀ a, Publishes S env (f a) o) : Publishes S env (x >>= f) o := by
  intro w b w' t hrun
  obtain ⟨a, w₁, t₁, t₂, -, hf, rfl⟩ := hrun.bind_inv
  obtain ⟨s, hmem⟩ := h a w₁ b w' t₂ hf
  exact ⟨s, List.mem_append_right _ hmem⟩

theorem publishes_emit :
    Publishes S env (perform (.emit o) : Call (DbOp Rd Wr Ask ε Out) η Unit) o := by
  rintro w a w' t ⟨-, rfl⟩
  exact ⟨w.db, by rw [told_emit]; exact List.mem_singleton_self _⟩

theorem publishes_forM {f : γ → Call (DbOp Rd Wr Ask ε Out) η PUnit} {c : γ}
    (h : Publishes S env (f c) o) : ∀ {l : List γ}, c ∈ l → Publishes S env (l.forM f) o
  | a :: l, hc => by
      rcases List.mem_cons.mp hc with rfl | hc
      · exact h.bind_left
      · exact Publishes.bind_right fun _ => publishes_forM h hc

end Call

end TxnLib
