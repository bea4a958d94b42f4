import OcfIms.LibTriple

/-!
# Two runs of a reading program

What a program that only reads the pool answers in two stores. The two runs start at the same time,
the connection fails the same operations of both, and neither changes its store; they stay in step as
long as what they read is related. A program whose answers are equal in the end does not tell the
stores apart.

The two programs need not be the same: what follows a read may depend on what was read.
-/

namespace TxnLib

variable {Rd Wr Ask : Type → Type} {ε Out σ α β γ δ : Type} {η η' : Type}

/-- The same error, or related values. -/
inductive EndAlike (R : α → β → Prop) : Except η α → Except η β → Prop
  | ok {a : α} {b : β} (h : R a b) : EndAlike R (.ok a) (.ok b)
  | error (e : η) : EndAlike R (.error e) (.error e)

theorem EndAlike.mono {R R' : α → β → Prop} {r : Except η α} {r' : Except η β} (h : EndAlike R r r')
    (hR : ∀ a b, R a b → R' a b) : EndAlike R' r r' := by
  cases h with
  | ok h => exact .ok (hR _ _ h)
  | error e => exact .error e

theorem EndAlike.of_eq {r r' : Except η α} (h : r = r') : EndAlike Eq r r' := by
  subst h
  cases r with
  | ok a => exact .ok rfl
  | error e => exact .error e

theorem endAlike_eq_iff {r r' : Except η α} : EndAlike Eq r r' ↔ r = r' := by
  refine ⟨fun h => ?_, .of_eq⟩
  cases h with
  | ok h => rw [h]
  | error e => rfl

theorem EndAlike.mapError {R : α → β → Prop} {r : Except η α} {r' : Except η β} (h : EndAlike R r r')
    (g : η → η') : EndAlike R (r.mapError g) (r'.mapError g) := by
  cases h with
  | ok h => exact .ok h
  | error e => exact .error (g e)

/-- Environments that fail the same operations. -/
def Env.SameFaults (env env' : Env Ask) : Prop := ∀ n, env.fault n = env'.fault n

/-- The programs that ask nobody, and read what is the same in both stores. -/
def readsSame (S : Store Rd Wr ε σ) (s s' : σ) : ∀ β : Type, DbOp Rd Wr Ask ε Out β → Prop
  | _, .read .pool q => S.eval q s = S.eval q s'
  | _, _ => False

namespace World

/-- Later, with more told, and otherwise the same. -/
def after (w : World σ Out) (t : Nat) (out : List Out) : World σ Out :=
  { w with tick := t, out := w.out ++ out }

@[simp] theorem after_db (w : World σ Out) (t : Nat) (out : List Out) : (w.after t out).db = w.db :=
  rfl

@[simp] theorem after_tick (w : World σ Out) (t : Nat) (out : List Out) :
    (w.after t out).tick = t := rfl

theorem after_nil (w : World σ Out) (t : Nat) : w.after t [] = { w with tick := t } := by
  rw [after, List.append_nil]

theorem after_after (w : World σ Out) (t t' : Nat) (out out' : List Out) :
    (w.after t out).after t' out' = w.after t' (out ++ out') := by
  simp only [after, List.append_assoc]

end World

namespace Call

section Twin

variable {S : Store Rd Wr ε σ} {env env' : Env Ask} {s s' : σ} {R : α → β → Prop}
  {Q : γ → δ → Prop} {x : Call (DbOp Rd Wr Ask ε Out) η α} {y : Call (DbOp Rd Wr Ask ε Out) η β}

/-- Started at the same time, `x` in the store `s` and `y` in the store `s'`, the two take equally
long, leave their stores alone, tell the same, and end alike. -/
def Twin (S : Store Rd Wr ε σ) (env env' : Env Ask) (s s' : σ)
    (x : Call (DbOp Rd Wr Ask ε Out) η α) (y : Call (DbOp Rd Wr Ask ε Out) η β)
    (R : α → β → Prop) : Prop :=
  ∀ w w' : World σ Out, w.db = s → w'.db = s' → w.tick = w'.tick → ∃ r r' t out,
    x.run S env w = (r, w.after t out) ∧ y.run S env' w' = (r', w'.after t out) ∧ EndAlike R r r'

theorem Twin.alike (h : Twin S env env' s s' x y R) {w w' : World σ Out} (hs : w.db = s)
    (hs' : w'.db = s') (ht : w.tick = w'.tick) :
    EndAlike R (x.run S env w).1 (y.run S env' w').1 := by
  obtain ⟨r, r', t, out, hx, hy, hr⟩ := h w w' hs hs' ht
  rw [hx, hy]
  exact hr

theorem Twin.mono {R' : α → β → Prop} (h : Twin S env env' s s' x y R)
    (hR : ∀ a b, R a b → R' a b) : Twin S env env' s s' x y R' := by
  intro w w' hs hs' ht
  obtain ⟨r, r', t, out, hx, hy, hr⟩ := h w w' hs hs' ht
  exact ⟨r, r', t, out, hx, hy, hr.mono hR⟩

theorem twin_pure {a : α} {b : β} (h : R a b) :
    Twin S env env' s s' (pure a : Call (DbOp Rd Wr Ask ε Out) η α) (pure b) R := by
  intro w w' _ _ ht
  refine ⟨.ok a, .ok b, w.tick, [], ?_, ?_, .ok h⟩
  · rw [World.after_nil]
    rfl
  · rw [World.after_nil, ht]
    rfl

theorem twin_throw (e : η) :
    Twin S env env' s s' (throw e : Call (DbOp Rd Wr Ask ε Out) η α) (throw e) R := by
  intro w w' _ _ ht
  refine ⟨.error e, .error e, w.tick, [], ?_, ?_, .error e⟩
  · rw [World.after_nil]
    rfl
  · rw [World.after_nil, ht]
    rfl

theorem Twin.bind {f : α → Call (DbOp Rd Wr Ask ε Out) η γ}
    {g : β → Call (DbOp Rd Wr Ask ε Out) η δ} (hx : Twin S env env' s s' x y R)
    (hf : ∀ a b, R a b → Twin S env env' s s' (f a) (g b) Q) :
    Twin S env env' s s' (x >>= f) (y >>= g) Q := by
  intro w w' hs hs' ht
  obtain ⟨r, r', t, out, hrun, hrun', hr⟩ := hx w w' hs hs' ht
  cases hr with
  | error e => exact ⟨_, _, t, out, run_bind_error hrun, run_bind_error hrun', .error e⟩
  | ok h =>
      obtain ⟨u, u', t', out', hu, hu', hend⟩ := hf _ _ h (w.after t out) (w'.after t out) hs hs' rfl
      rw [World.after_after] at hu hu'
      exact ⟨u, u', t', out ++ out', (run_bind_ok hrun).trans hu, (run_bind_ok hrun').trans hu',
        hend⟩

theorem Twin.mapErr (g : η → η') (h : Twin S env env' s s' x y R) :
    Twin S env env' s s' (mapErr g x) (mapErr g y) R := by
  intro w w' hs hs' ht
  obtain ⟨r, r', t, out, hx, hy, hr⟩ := h w w' hs hs' ht
  refine ⟨r.mapError g, r'.mapError g, t, out, ?_, ?_, hr.mapError g⟩
  · rw [run_mapErr, hx]
  · rw [run_mapErr, hy]

theorem Twin.result (h : Twin S env env' s s' x y R) :
    Twin S env env' s s' (result x : Call (DbOp Rd Wr Ask ε Out) η' (Except η α)) (result y)
      (EndAlike R) := by
  intro w w' hs hs' ht
  obtain ⟨r, r', t, out, hx, hy, hr⟩ := h w w' hs hs' ht
  refine ⟨.ok r, .ok r', t, out, ?_, ?_, .ok hr⟩
  · rw [run_result, hx]
  · rw [run_result, hy]

theorem twin_ensure {c c' : Bool} (h : c = c') (e : η) :
    Twin S env env' s s' (ensure c e : Call (DbOp Rd Wr Ask ε Out) η Unit) (ensure c' e)
      fun _ _ => c = true := by
  subst h
  cases c with
  | true => exact twin_pure rfl
  | false => exact twin_throw e

theorem twin_ite {c c' : Prop} [Decidable c] [Decidable c'] (h : c ↔ c')
    {x₁ x₂ : Call (DbOp Rd Wr Ask ε Out) η α} {y₁ y₂ : Call (DbOp Rd Wr Ask ε Out) η β}
    (hpos : c → Twin S env env' s s' x₁ y₁ R) (hneg : ¬ c → Twin S env env' s s' x₂ y₂ R) :
    Twin S env env' s s' (if c then x₁ else x₂) (if c' then y₁ else y₂) R := by
  by_cases hc : c
  · rw [if_pos hc, if_pos (h.mp hc)]
    exact hpos hc
  · rw [if_neg hc, if_neg (fun hc' => hc (h.mpr hc'))]
    exact hneg hc

/-- A read that answers alike. -/
theorem twin_read (hf : env.SameFaults env') {q : Rd α} {q' : Rd β}
    {R : α → β → Prop} (h : EndAlike R (S.eval q s) (S.eval q' s')) :
    Twin S env env' s s' (attempt (.read .pool q) : Call (DbOp Rd Wr Ask ε Out) ε α)
      (attempt (.read .pool q')) R := by
  intro w w' hs hs' ht
  subst hs hs'
  have hf' : env'.fault w'.tick = env.fault w.tick := by rw [ht, hf]
  cases hfault : env.fault w.tick with
  | some e =>
      rw [hfault] at hf'
      refine ⟨.error (S.failed e), .error (S.failed e), w.tick + 1, [], ?_, ?_, .error _⟩
      · simp only [run_attempt, step, hfault, World.after_nil]
        rfl
      · simp only [run_attempt, step, hf', ht, World.after_nil]
        rfl
  | none =>
      rw [hfault] at hf'
      refine ⟨S.eval q w.db, S.eval q' w'.db, w.tick + 1, [], ?_, ?_, h⟩
      · rw [run_attempt, step_read q hfault (World.view_pool w), World.after_nil]
        rfl
      · rw [run_attempt, step_read q' hf' (World.view_pool w'), World.after_nil, ht]
        rfl

theorem twin_ask {β : Type} {q : Ask β} {R : β → β → Prop}
    (h : ∀ n, R (env.answer n q) (env'.answer n q)) :
    Twin S env env' s s' (perform (.ask q) : Call (DbOp Rd Wr Ask ε Out) η β)
      (perform (.ask q)) R := by
  intro w w' _ _ ht
  refine ⟨.ok _, .ok _, w.tick + 1, [], ?_, ?_, .ok (h w.tick)⟩
  · rw [World.after_nil]
    rfl
  · rw [World.after_nil, ht]
    rfl

/-- Both tell the same. -/
theorem twin_emit (o : Out) :
    Twin S env env' s s' (perform (.emit o) : Call (DbOp Rd Wr Ask ε Out) η Unit) (perform (.emit o))
      fun _ _ => True := by
  intro w w' _ _ ht
  refine ⟨.ok (), .ok (), w.tick, [o], rfl, ?_, .ok trivial⟩
  rw [ht]
  rfl

end Twin

/-! ## Programs that cannot tell -/

section Same

variable {S : Store Rd Wr ε σ} {env env' : Env Ask} {s s' : σ}

theorem run_readsSame (hf : env.SameFaults env') {x : Prog (DbOp Rd Wr Ask ε Out) α}
    {Q : α → Prop} {w w' : World σ Out} (hx : x.Every anyAnswer (readsSame S s s') Q)
    (hs : w.db = s) (hs' : w'.db = s') (ht : w.tick = w'.tick) :
    ∃ r t out, x.run S env w = (r, w.after t out) ∧ x.run S env' w' = (r, w'.after t out) := by
  induction x generalizing w w' with
  | ret a =>
      refine ⟨a, w.tick, [], ?_, ?_⟩
      · rw [World.after_nil]
        rfl
      · rw [World.after_nil, ht]
        rfl
  | op o k ih =>
      cases o with
      | read c q =>
          cases c with
          | txn => exact hx.1.elim
          | pool =>
              have hq : S.eval q s = S.eval q s' := hx.1
              obtain ⟨r, r', t, out, hrun, hrun', hr⟩ :=
                twin_read hf (.of_eq hq) w w' hs hs' ht
              obtain rfl := endAlike_eq_iff.mp hr
              rw [run_attempt] at hrun hrun'
              have hs₁ : (w.after t out).db = s := hs
              have hs₁' : (w'.after t out).db = s' := hs'
              obtain ⟨u, t', out', hu, hu'⟩ := ih r (hx.2 r trivial) hs₁ hs₁' rfl
              rw [World.after_after] at hu hu'
              refine ⟨u, t', out ++ out', ?_, ?_⟩
              · rw [Prog.run_op, hrun, hu]
              · rw [Prog.run_op, hrun', hu']
      | _ => exact hx.1.elim

/-- A program that reads what is the same in both stores answers the same. -/
theorem twin_of_every (hf : env.SameFaults env') {x : Call (DbOp Rd Wr Ask ε Out) η α}
    {E : η → Prop} {Q : α → Prop} (hx : x.Every anyAnswer (readsSame S s s') E Q) :
    Twin S env env' s s' x x Eq := by
  intro w w' hs hs' ht
  obtain ⟨r, t, out, hrun, hrun'⟩ := run_readsSame hf hx hs hs' ht
  exact ⟨r, r, t, out, hrun, hrun', .of_eq rfl⟩

/-- Such a program does so where there are more statements. -/
theorem readsSame_widen {Rd' Wr' Ask' : Type → Type} {Out' : Type} {E : η → Prop} {Q : α → Prop}
    {eval : ∀ {β : Type}, Rd' β → σ → Except ε β}
    {apply : ∀ {β : Type}, Wr' β → Int → σ → Except ε (β × σ)}
    {x : Call (DbOp Rd Wr Ask ε Out) η α} (hx : x.Every anyAnswer (readsSame S s s') E Q) :
    (x.widen : Call (DbOp (fun β => Rd β ⊕ Rd' β) (fun β => Wr β ⊕ Wr' β)
      (fun β => Ask β ⊕ Ask' β) ε (Out ⊕ Out')) η α).Every anyAnswer
        (readsSame (S.extend eval apply) s s') E Q := by
  refine every_widen (fun β o ho => ?_) (fun _ _ _ _ => trivial) hx
  cases o with
  | read c q =>
      cases c with
      | txn => exact ho.elim
      | pool => exact ho
  | _ => exact ho.elim

/-- Two runs of a program that knows fewer statements. -/
theorem Twin.widen {Rd' Wr' Ask' : Type → Type} {Out' α β : Type}
    {env env' : Env fun β => Ask β ⊕ Ask' β} {R : α → β → Prop}
    {eval : ∀ {β : Type}, Rd' β → σ → Except ε β}
    {apply : ∀ {β : Type}, Wr' β → Int → σ → Except ε (β × σ)}
    {x : Call (DbOp Rd Wr Ask ε Out) η α} {y : Call (DbOp Rd Wr Ask ε Out) η β}
    (h : Twin S env.narrow env'.narrow s s' x y R) :
    Twin (S.extend eval apply) env env' s s'
      (x.widen : Call (DbOp (fun β => Rd β ⊕ Rd' β) (fun β => Wr β ⊕ Wr' β)
        (fun β => Ask β ⊕ Ask' β) ε (Out ⊕ Out')) η α) y.widen R := by
  intro w w' hs hs' ht
  obtain ⟨r, r', t, out, hx, hy, hr⟩ := h w.bare w'.bare hs hs' ht
  have hwide : ∀ v : World σ (Out ⊕ Out'), (v.bare.after t out).wide v.out =
      v.after t (out.map .inl) := fun _ => rfl
  refine ⟨r, r', t, out.map .inl, ?_, ?_, hr⟩
  · rw [run_widen, hx, hwide]
  · rw [run_widen, hy, hwide]

end Same

end Call

end TxnLib
