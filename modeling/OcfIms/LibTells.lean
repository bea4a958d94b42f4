import OcfIms.LibTold

/-!
# What a program may tell

`Tells` bounds everything a program tells, in every run, by the store that was committed when it was
told: also a run that fails halfway. Its rules follow the program. A part that only reads first lends
what it learned to the part after it, since the store stays as it was. The last section goes the other
way, for a program that ends well whatever happens: it builds up the run and what the run tells.
-/

namespace TxnLib

variable {Rd Wr Ask : Type → Type} {ε Out σ α β γ : Type}

namespace Call

variable {S : Store Rd Wr ε σ} {env : Env Ask} {η η' : Type}

/-- Started where the store satisfies `D`, the program tells only what satisfies `P` with the store
that is committed at the time. -/
def Tells (S : Store Rd Wr ε σ) (env : Env Ask) (D : σ → Prop) (P : Out → σ → Prop)
    (x : Call (DbOp Rd Wr Ask ε Out) η α) : Prop :=
  ∀ w, D w.db → ∀ o s, (o, s) ∈ x.told S env w → P o s

variable {D : σ → Prop} {P : Out → σ → Prop} {x : Call (DbOp Rd Wr Ask ε Out) η α}
  {f : α → Call (DbOp Rd Wr Ask ε Out) η β}

theorem tells_pure (a : α) : Tells S env D P (pure a : Call (DbOp Rd Wr Ask ε Out) η α) :=
  fun _ _ _ _ hmem => nomatch hmem

theorem tells_emit {o : Out} (h : ∀ s, D s → P o s) :
    Tells S env D P (perform (.emit o) : Call (DbOp Rd Wr Ask ε Out) η Unit) := by
  intro w hw o' s hmem
  rw [told_emit] at hmem
  obtain ⟨rfl, rfl⟩ := Prod.mk.inj (List.mem_singleton.mp hmem)
  exact h w.db hw

theorem tells_throw (e : η) : Tells S env D P (throw e : Call (DbOp Rd Wr Ask ε Out) η α) :=
  fun _ _ _ _ hmem => nomatch hmem

theorem told_of_quiet {o : DbOp Rd Wr Ask ε Out β} (h : tellsNothing β o) (w : World σ Out) :
    o.told w = [] := by
  cases o with
  | emit o => exact h.elim
  | _ => rfl

/-- An operation that emits nothing. -/
theorem tells_perform {o : DbOp Rd Wr Ask ε Out β} (h : tellsNothing β o) :
    Tells S env D P (perform o : Call (DbOp Rd Wr Ask ε Out) η β) := by
  intro w _ o' s hmem
  simp only [told, perform, prog, ExceptT.lift, ExceptT.mk, map_eq_pure_bind, Prog.told_bind] at hmem
  change (o', s) ∈ (o.told w ++ []) ++ [] at hmem
  rw [told_of_quiet h] at hmem
  cases hmem

theorem tells_attempt {o : DbOp Rd Wr Ask ε Out (Except η β)} (h : tellsNothing _ o) :
    Tells S env D P (attempt o) := by
  intro w _ o' s hmem
  change (o', s) ∈ o.told w ++ [] at hmem
  rw [told_of_quiet h] at hmem
  cases hmem

theorem tells_ensure {c : Bool} {e : η} :
    Tells S env D P (ensure c e : Call (DbOp Rd Wr Ask ε Out) η Unit) := by
  cases c
  · exact tells_throw e
  · exact tells_pure ()

theorem tells_ite {c : Prop} [Decidable c] {y : Call (DbOp Rd Wr Ask ε Out) η α}
    (hx : c → Tells S env D P x) (hy : ¬ c → Tells S env D P y) :
    Tells S env D P (if c then x else y) := by
  split
  · rename_i h
    exact hx h
  · rename_i h
    exact hy h

/-- The second part may start in any store. -/
theorem Tells.bind (hx : Tells S env D P x) (hf : ∀ a, Tells S env (fun _ => True) P (f a)) :
    Tells S env D P (x >>= f) := by
  intro w hw o s hmem
  rw [told_bind, List.mem_append] at hmem
  rcases hmem with hmem | hmem
  · exact hx w hw o s hmem
  · rcases hrun : x.run S env w with ⟨_ | a, w₁⟩
    · rw [hrun] at hmem
      cases hmem
    · rw [hrun] at hmem
      exact hf a w₁ trivial o s hmem

theorem Tells.mapErr {g : η → η'} (h : Tells S env D P x) : Tells S env D P (Call.mapErr g x) := by
  intro w hw o s hmem
  rw [told_mapErr] at hmem
  exact h w hw o s hmem

theorem Tells.of_mapErr {g : η → η'} (h : Tells S env D P (Call.mapErr g x)) :
    Tells S env D P x := by
  intro w hw o s hmem
  rw [← told_mapErr g] at hmem
  exact h w hw o s hmem

/-- The first part tells no more than both. -/
theorem Tells.of_bind (h : Tells S env D P (x >>= f)) : Tells S env D P x := by
  intro w hw o s hmem
  refine h w hw o s ?_
  rw [told_bind]
  exact List.mem_append_left _ hmem

theorem Tells.deferRollback (h : Tells S env D P x) : Tells S env D P x.deferRollback := by
  intro w hw o s hmem
  rw [told_deferRollback] at hmem
  exact h w hw o s hmem

theorem tells_forM {g : γ → Call (DbOp Rd Wr Ask ε Out) η PUnit}
    (h : ∀ c, Tells S env (fun _ => True) P (g c)) :
    ∀ l : List γ, Tells S env (fun _ => True) P (l.forM g)
  | [] => tells_pure _
  | c :: l => (h c).bind fun _ => tells_forM h l

/-- A part that emits nothing. -/
theorem tells_quiet {E : η → Prop} {Q : α → Prop} (h : x.Every anyAnswer tellsNothing E Q) :
    Tells S env D P x := by
  intro w _ o s hmem
  exact (Prog.told_every (I := fun _ => True) (fun _ _ _ _ _ => ⟨trivial, trivial⟩) h trivial o s
    hmem).1.elim

/-- A part that only reads leaves the store, and tells nothing. -/
theorem tells_reads_bind {E : η → Prop} {Q : σ → α → Prop}
    (hx : ∀ s, D s → x.Every (truthful S s) readsPool E (Q s))
    (hf : ∀ a, Tells S env (fun s => D s ∧ Q s a) P (f a)) : Tells S env D P (x >>= f) := by
  intro w hw o s hmem
  have hevery := hx w.db hw
  rw [told_bind, List.mem_append] at hmem
  rcases hmem with hmem | hmem
  · exact (Prog.told_every (I := World.Holds (· = w.db) fun _ => True)
      (fun _ o _ hw ho => step_readsPool o hw ho) hevery ⟨rfl, fun _ _ => trivial⟩ o s hmem).1.elim
  · rcases hrun : x.run S env w with ⟨_ | a, w₁⟩
    · rw [hrun] at hmem
      cases hmem
    · rw [hrun] at hmem
      obtain ⟨hQ, hdb, -⟩ := (runs_of_run hrun).reads hevery rfl
      refine hf a w₁ ⟨?_, ?_⟩ o s hmem
      · rwa [hdb]
      · rwa [hdb]

/-! ## A program that knows fewer statements -/

section Widen

variable {Rd' Wr' Ask' : Type → Type} {Out' : Type}
  {eval : ∀ {β : Type}, Rd' β → σ → Except ε β}
  {apply : ∀ {β : Type}, Wr' β → Int → σ → Except ε (β × σ)} {env' : Env fun β => Ask β ⊕ Ask' β}

theorem told_op_widen (o : DbOp Rd Wr Ask ε Out β) (w : World σ Out) (before : List (Out ⊕ Out')) :
    (o.widen : DbOp (fun β => Rd β ⊕ Rd' β) (fun β => Wr β ⊕ Wr' β) (fun β => Ask β ⊕ Ask' β) ε
      (Out ⊕ Out') β).told (w.wide before) = (o.told w).map fun m => (.inl m.1, m.2) := by
  cases o <;> rfl

theorem told_mapOp_widen {before : List (Out ⊕ Out')} :
    ∀ (x : Prog (DbOp Rd Wr Ask ε Out) α) (w : World σ Out),
      (x.mapOp fun _ => DbOp.widen).told (S.extend eval apply) env' (w.wide before) =
        (x.told S env'.narrow w).map fun m => (.inl m.1, m.2)
  | .ret _, _ => rfl
  | .op o k, w => by
      rw [Prog.mapOp, Prog.told, Prog.told, List.map_append, step_widen, told_op_widen]
      exact congrArg _ (told_mapOp_widen _ _)

/-- `P` of what the narrower program tells. -/
def Relayed (P : Out → σ → Prop) (o : Out ⊕ Out') (s : σ) : Prop := ∀ o', o = .inl o' → P o' s

theorem Tells.widen (h : Tells S env'.narrow D P x) :
    Tells (S.extend eval apply) env' D (Relayed P) (x.widen : Call (DbOp (fun β => Rd β ⊕ Rd' β)
      (fun β => Wr β ⊕ Wr' β) (fun β => Ask β ⊕ Ask' β) ε (Out ⊕ Out')) η α) := by
  intro w hw o s hmem
  have htold : (x.prog.mapOp fun _ => DbOp.widen).told (S.extend eval apply) env'
      (w.bare.wide w.out) = (x.prog.told S env'.narrow w.bare).map fun m => (.inl m.1, m.2) :=
    told_mapOp_widen x.prog w.bare
  rw [World.wide_bare] at htold
  have hmem' : (o, s) ∈ (x.prog.mapOp fun _ => DbOp.widen).told (S.extend eval apply) env' w := hmem
  rw [htold, List.mem_map] at hmem'
  obtain ⟨⟨o', s'⟩, hmem', heq⟩ := hmem'
  cases heq
  rintro o'' ho
  cases ho
  exact h w.bare hw o' s' hmem'

end Widen

/-! ## Programs that end well -/

section Forward

variable {w w₁ w' : World σ Out} {a : α} {b : β} {t t₁ t₂ : List (Out × σ)}

theorem runs_pure : Runs S env (pure a : Call (DbOp Rd Wr Ask ε Out) η α) w a w [] := ⟨rfl, rfl⟩

theorem Runs.bind (hx : Runs S env x w a w₁ t₁) (hf : Runs S env (f a) w₁ b w' t₂) :
    Runs S env (x >>= f) w b w' (t₁ ++ t₂) := by
  refine ⟨?_, ?_⟩
  · rw [run_bind_ok hx.run, hf.run]
  · rw [told_bind, hx.told, hx.run]
    exact congrArg _ hf.told

theorem runs_perform (o : DbOp Rd Wr Ask ε Out α) : Runs S env
    (perform o : Call (DbOp Rd Wr Ask ε Out) η α) w (step S env o w).1 (step S env o w).2
    (o.told w) := by
  refine ⟨run_perform o, ?_⟩
  simp only [told, perform, prog, ExceptT.lift, ExceptT.mk, map_eq_pure_bind, Prog.told_bind]
  exact (List.append_nil _).trans (List.append_nil _)

/-- A statement whose error is looked at, and not raised. -/
theorem runs_attempted (o : DbOp Rd Wr Ask ε Out (Except η α)) : Runs S env
    (result (attempt o) : Call (DbOp Rd Wr Ask ε Out) η' _) w (step S env o w).1 (step S env o w).2
    (o.told w) := by
  refine ⟨by rw [run_result, run_attempt], ?_⟩
  simp only [told, result, attempt, prog, ExceptT.lift, ExceptT.mk, map_eq_pure_bind,
    Prog.told_bind]
  exact (List.append_nil _).trans (List.append_nil _)

/-- A loop whose passes end well. `L` speaks of the passes that are over and of what they told. -/
theorem runs_forM {g : γ → Call (DbOp Rd Wr Ask ε Out) η PUnit} {all : List γ}
    {L : List γ → World σ Out → List (Out × σ) → Prop}
    (hg : ∀ done c rest w t, all = done ++ c :: rest → L done w t →
      ∃ w' t', Runs S env (g c) w ⟨⟩ w' t' ∧ L (done ++ [c]) w' (t ++ t')) :
    ∀ (l done : List γ) (w : World σ Out) (t : List (Out × σ)), all = done ++ l → L done w t →
      ∃ w' t', Runs S env (l.forM g) w ⟨⟩ w' t' ∧ L all w' (t ++ t')
  | [], done, w, t, hall, h => by
      rw [List.append_nil] at hall
      subst hall
      exact ⟨w, [], runs_pure, by rwa [List.append_nil]⟩
  | c :: l, done, w, t, hall, h => by
      obtain ⟨w₁, t₁, hrun, h₁⟩ := hg done c l w t hall h
      obtain ⟨w', t₂, hrun₂, h₂⟩ := runs_forM hg l (done ++ [c]) w₁ (t ++ t₁) (by simpa using hall) h₁
      refine ⟨w', t₁ ++ t₂, hrun.bind hrun₂, ?_⟩
      rwa [List.append_assoc] at h₂

end Forward

end Call

end TxnLib
