import OcfIms.LibTxn

/-!
# Triples

Hoare triples for calls against a transactional store, with one postcondition for the values a call
returns and one for the errors it ends with. The rules follow the program: composition, conditions,
loops, one rule for each kind of operation. A part of a program that only issues writes of a certain
kind needs no stepping through: `triple_writesIn` turns what such writes preserve, on the pool and
inside the transaction, into a triple.
-/

namespace TxnLib

variable {Rd Wr Ask : Type → Type} {ε Out σ α β γ : Type}

/-- The operations of a program that tells what satisfies `T`, writes what satisfies `W` and leaves
transactions to others. -/
def operatesIn (T : Out → Prop) (W : Conn → ∀ β : Type, Wr β → Prop) :
    ∀ β : Type, DbOp Rd Wr Ask ε Out β → Prop
  | _, .write (β := β) c q => W c β q
  | _, .emit o => T o
  | _, .begin => False
  | _, .commit => False
  | _, .rollback => False
  | _, _ => True

/-- The operations of a program whose writes satisfy `W` and that leaves transactions to others. -/
def writesIn (W : Conn → ∀ β : Type, Wr β → Prop) : ∀ β : Type, DbOp Rd Wr Ask ε Out β → Prop :=
  operatesIn (fun _ => True) W

/-- The operations of a program that only looks at the pool and asks questions. -/
def readsPool : ∀ β : Type, DbOp Rd Wr Ask ε Out β → Prop
  | _, .read .pool _ => True
  | _, .ask _ => True
  | _, _ => False

/-- Reads on the pool answer what the store holds, unless the connection fails them. -/
def truthful (S : Store Rd Wr ε σ) (s : σ) : ∀ β : Type, DbOp Rd Wr Ask ε Out β → β → Prop
  | _, .read .pool q, r => r = S.eval q s ∨ ∃ n, r = .error (S.failed n)
  | _, _, _ => True

/-- Any answer. -/
def anyAnswer : ∀ β : Type, DbOp Rd Wr Ask ε Out β → β → Prop := fun _ _ _ => True

/-- Any operation. -/
def anyOp : ∀ β : Type, DbOp Rd Wr Ask ε Out β → Prop := fun _ _ => True

/-- What the store and an open transaction's copy of it satisfy. -/
def World.Holds (D T : σ → Prop) (w : World σ Out) : Prop := D w.db ∧ ∀ s, w.txn = some s → T s

/-- What a statement on this connection finds. -/
def World.At (c : Conn) (R : σ → Prop) (w : World σ Out) : Prop := ∀ s, w.view c = some s → R s

namespace Call

variable {S : Store Rd Wr ε σ} {env : Env Ask} {η η' : Type}

/-- One postcondition for returns, one for errors. -/
def Post (J : α → World σ Out → Prop) (K : η → World σ Out → Prop) :
    Except η α × World σ Out → Prop
  | (.ok a, w) => J a w
  | (.error e, w) => K e w

/-- Started in a world satisfying `I`, the call ends as the postconditions say. -/
def Triple (S : Store Rd Wr ε σ) (env : Env Ask) (I : World σ Out → Prop)
    (x : Call (DbOp Rd Wr Ask ε Out) η α) (J : α → World σ Out → Prop)
    (K : η → World σ Out → Prop) : Prop :=
  ∀ w, I w → Post J K (x.run S env w)

variable {x : Call (DbOp Rd Wr Ask ε Out) η α} {f : α → Call (DbOp Rd Wr Ask ε Out) η β}
  {I I' : World σ Out → Prop} {J J' : α → World σ Out → Prop} {K K' : η → World σ Out → Prop}
  {w w' : World σ Out}

theorem Triple.of_run_ok {a : α} (h : Triple S env I x J K) (hI : I w)
    (hrun : x.run S env w = (.ok a, w')) : J a w' := by
  have hpost := h w hI
  rw [hrun] at hpost
  exact hpost

theorem Triple.of_run_error {e : η} (h : Triple S env I x J K) (hI : I w)
    (hrun : x.run S env w = (.error e, w')) : K e w' := by
  have hpost := h w hI
  rw [hrun] at hpost
  exact hpost

theorem triple_pure {a : α} (h : ∀ w, I w → J a w) : Triple S env I (pure a) J K :=
  fun w hI => h w hI

theorem triple_throw {e : η} (h : ∀ w, I w → K e w) : Triple S env I (throw e) J K :=
  fun w hI => h w hI

theorem Triple.bind {L : β → World σ Out → Prop} (hx : Triple S env I x J K)
    (hf : ∀ a, Triple S env (J a) (f a) L K) : Triple S env I (x >>= f) L K := by
  intro w hI
  have hpost := hx w hI
  rw [run_bind]
  rcases hrun : x.run S env w with ⟨_ | a, w₁⟩
  · rw [hrun] at hpost
    exact hpost
  · rw [hrun] at hpost
    exact hf a w₁ hpost

theorem Triple.conseq (h : Triple S env I x J K) (hI : ∀ w, I' w → I w)
    (hJ : ∀ a w, J a w → J' a w) (hK : ∀ e w, K e w → K' e w) : Triple S env I' x J' K' := by
  intro w hw
  have hpost := h w (hI w hw)
  rcases hrun : x.run S env w with ⟨_ | a, w₁⟩
  · rw [hrun] at hpost
    exact hK _ w₁ hpost
  · rw [hrun] at hpost
    exact hJ a w₁ hpost

/-- A fact that does not depend on the world may be assumed. -/
theorem Triple.of_fact {p : Prop} (hp : ∀ w, I w → p) (h : p → Triple S env I x J K) :
    Triple S env I x J K :=
  fun w hI => h (hp w hI) w hI

theorem Triple.and (h : Triple S env I x J K) (h' : Triple S env I' x J' K') :
    Triple S env (fun w => I w ∧ I' w) x (fun a w => J a w ∧ J' a w) fun e w => K e w ∧ K' e w := by
  intro w hw
  have hpost := h w hw.1
  have hpost' := h' w hw.2
  rcases hrun : x.run S env w with ⟨_ | a, w₁⟩
  · rw [hrun] at hpost hpost'
    exact ⟨hpost, hpost'⟩
  · rw [hrun] at hpost hpost'
    exact ⟨hpost, hpost'⟩

theorem Triple.mapErr {g : η → η'} {K : η' → World σ Out → Prop}
    (h : Triple S env I x J fun e w => K (g e) w) : Triple S env I (mapErr g x) J K := by
  intro w hI
  have hpost := h w hI
  rw [run_mapErr]
  rcases hrun : x.run S env w with ⟨_ | a, w₁⟩
  · rw [hrun] at hpost
    exact hpost
  · rw [hrun] at hpost
    exact hpost

/-- The result of a call, as a value: nothing that follows fails for it. -/
theorem Triple.result {K' : η' → World σ Out → Prop} (h : Triple S env I x J K) :
    Triple S env I (result x : Call _ η' _) (fun r w => Post J K (r, w)) K' := by
  intro w hI
  rw [run_result]
  exact h w hI

theorem triple_ensure {c : Bool} {e : η} {J : Unit → World σ Out → Prop}
    (hJ : ∀ w, I w → c = true → J () w) (hK : ∀ w, I w → c = false → K e w) :
    Triple S env I (ensure c e) J K := by
  intro w hI
  cases c with
  | true => exact hJ w hI rfl
  | false => exact hK w hI rfl

theorem triple_ite {c : Prop} [Decidable c] {y : Call (DbOp Rd Wr Ask ε Out) η α}
    (hx : c → Triple S env I x J K) (hy : ¬ c → Triple S env I y J K) :
    Triple S env I (if c then x else y) J K := by
  split
  · exact hx ‹_›
  · exact hy ‹_›

/-- A loop that runs an abstract state `v` along: each pass does to it what `g` says. -/
theorem triple_forM_fold {γ τ : Type} {f : γ → Call (DbOp Rd Wr Ask ε Out) η PUnit} {g : τ → γ → τ}
    {L : τ → World σ Out → Prop} (hf : ∀ v a, Triple S env (L v) (f a) (fun _ => L (g v a)) K) :
    ∀ (l : List γ) (v : τ), Triple S env (L v) (l.forM f) (fun _ => L (l.foldl g v)) K
  | [], _ => triple_pure fun _ h => h
  | a :: l, v => (hf v a).bind fun _ => triple_forM_fold hf l (g v a)

/-- A loop whose passes keep what they start from. -/
theorem triple_forM {γ : Type} {f : γ → Call (DbOp Rd Wr Ask ε Out) η PUnit}
    (hf : ∀ a, Triple S env I (f a) (fun _ => I) K) (l : List γ) :
    Triple S env I (l.forM f) (fun _ => I) K :=
  triple_forM_fold (g := fun u _ => u) (L := fun _ => I) (fun _ a => hf a) l ()

/-- The same for a loop that collects what its passes return. -/
theorem triple_concatMap_fold {γ δ τ : Type} {f : γ → Call (DbOp Rd Wr Ask ε Out) η (List δ)}
    {g : τ → γ → τ} {L : τ → World σ Out → Prop}
    (hf : ∀ v a, Triple S env (L v) (f a) (fun _ => L (g v a)) K) :
    ∀ (l : List γ) (v : τ),
      Triple S env (L v) (concatMap f l) (fun _ => L (l.foldl g v)) K
  | [], _ => triple_pure fun _ h => h
  | a :: l, v => (hf v a).bind fun _ => (triple_concatMap_fold hf l (g v a)).bind fun _ =>
      triple_pure fun _ h => h

/-- A loop that runs along what its passes return. -/
theorem triple_concatMap_collect {γ δ : Type} {f : γ → Call (DbOp Rd Wr Ask ε Out) η (List δ)}
    {L : List δ → World σ Out → Prop}
    (hf : ∀ v a, Triple S env (L v) (f a) (fun r => L (v ++ r)) K) :
    ∀ (l : List γ) (v : List δ), Triple S env (L v) (concatMap f l) (fun r => L (v ++ r)) K
  | [], v => triple_pure fun w h => by rwa [List.append_nil]
  | a :: l, v => (hf v a).bind fun r => (triple_concatMap_collect hf l (v ++ r)).bind fun r' =>
      triple_pure fun w h => by rwa [← List.append_assoc]

theorem triple_concatMap {γ δ : Type} {f : γ → Call (DbOp Rd Wr Ask ε Out) η (List δ)}
    (hf : ∀ a, Triple S env I (f a) (fun _ => I) K) (l : List γ) :
    Triple S env I (concatMap f l) (fun _ => I) K :=
  triple_concatMap_fold (g := fun u _ => u) (L := fun _ => I) (fun _ a => hf a) l ()

theorem triple_deferRollback (h : Triple S env I x (fun a w => J a { w with txn := none })
    fun e w => K e { w with txn := none }) : Triple S env I x.deferRollback J K := by
  intro w hI
  have hpost := h w hI
  rw [run_deferRollback]
  rcases hrun : x.run S env w with ⟨_ | a, w₁⟩
  · rw [hrun] at hpost
    exact hpost
  · rw [hrun] at hpost
    exact hpost

/-! ## Operations -/

section Operations

variable {c : Conn} {J : β → World σ Out → Prop} {K : ε → World σ Out → Prop}

theorem triple_write {q : Wr β}
    (hJ : ∀ w s b s', I w → w.view c = some s → S.apply q w.nextId s = .ok (b, s') →
      J b (w.store c s'))
    (hK : ∀ w e, I w → K e w.tock) :
    Triple S env I (attempt (.write c q) : Call (DbOp Rd Wr Ask ε Out) ε β) J K := by
  intro w hI
  rw [run_attempt]
  simp only [step]
  cases env.fault w.tick with
  | some e => exact hK w _ hI
  | none =>
      cases hs : w.view c with
      | none => exact hK w _ hI
      | some s =>
          dsimp only
          cases hq : S.apply q w.nextId s with
          | error e => exact hK w e hI
          | ok r => exact hJ w s r.1 r.2 hI hs hq

theorem triple_begin {J : Unit → World σ Out → Prop}
    (hJ : ∀ w, I w → J () { w.tock with txn := some w.db }) (hK : ∀ w e, I w → K e w.tock) :
    Triple S env I (attempt .begin : Call (DbOp Rd Wr Ask ε Out) ε Unit) J K := by
  intro w hI
  rw [run_attempt]
  simp only [step]
  cases env.fault w.tick with
  | some e => exact hK w _ hI
  | none => exact hJ w hI

/-- A commit that fails leaves no transaction behind. -/
theorem triple_commit {J : Unit → World σ Out → Prop}
    (hJ : ∀ w s, I w → w.txn = some s → J () { w.tock with db := s, txn := none })
    (hK : ∀ w e, I w → K e { w.tock with txn := none }) :
    Triple S env I (attempt .commit : Call (DbOp Rd Wr Ask ε Out) ε Unit) J K := by
  intro w hI
  rw [run_attempt]
  simp only [step]
  cases env.fault w.tick with
  | some e => exact hK w _ hI
  | none =>
      cases hs : w.txn with
      | none =>
          have h := hK w S.txDone hI
          have hw : { w.tock with txn := none } = w.tock := by
            rw [← hs]
            rfl
          rw [hw] at h
          exact h
      | some s => exact hJ w s hI hs

end Operations

theorem triple_rollback {J : Unit → World σ Out → Prop}
    (h : ∀ w, I w → J () { w with txn := none }) :
    Triple S env I (perform .rollback : Call (DbOp Rd Wr Ask ε Out) η Unit) J K := by
  intro w hI
  rw [run_perform]
  exact h w hI

theorem triple_ask {q : Ask β} {J : β → World σ Out → Prop} (h : ∀ w b, I w → J b w.tock) :
    Triple S env I (perform (.ask q) : Call (DbOp Rd Wr Ask ε Out) η β) J K := by
  intro w hI
  rw [run_perform]
  exact h w _ hI

/-! ## Programs whose writes are all of one kind -/

theorem every_any {A : ∀ β : Type, DbOp Rd Wr Ask ε Out β → β → Prop}
    (x : Call (DbOp Rd Wr Ask ε Out) η α) : x.Every A anyOp (fun _ => True) fun _ => True :=
  Prog.every_of_forall (fun _ _ => trivial) (fun r => by cases r <;> trivial) x.prog

/-- A program that keeps an invariant and returns what its contract says. -/
theorem triple_every {A : ∀ β : Type, DbOp Rd Wr Ask ε Out β → β → Prop}
    {P : ∀ β : Type, DbOp Rd Wr Ask ε Out β → Prop} {E : η → Prop} {Q : α → Prop}
    (hstep : ∀ β (o : DbOp Rd Wr Ask ε Out β) (w : World σ Out), I w → P β o →
      I (step S env o w).2 ∧ A β o (step S env o w).1)
    (hx : x.Every A P E Q) :
    Triple S env I x (fun a w => I w ∧ Q a) fun e w => I w ∧ E e := by
  intro w hI
  have h := run_every hstep hx hI
  rcases hrun : x.run S env w with ⟨_ | a, w₁⟩
  · rw [hrun] at h
    exact h
  · rw [hrun] at h
    exact h

/-- The operations permitted by `writesIn` keep what their writes keep. -/
theorem step_writesIn {W : Conn → ∀ β : Type, Wr β → Prop} {D T : σ → Prop}
    (hD : ∀ (β : Type) (q : Wr β) id s b s', W .pool β q → D s → S.apply q id s = .ok (b, s') → D s')
    (hT : ∀ (β : Type) (q : Wr β) id s b s', W .txn β q → T s → S.apply q id s = .ok (b, s') → T s')
    (o : DbOp Rd Wr Ask ε Out β) (hw : w.Holds D T) (ho : writesIn W β o) :
    (step S env o w).2.Holds D T := by
  cases o with
  | read c q =>
      simp only [step]
      cases env.fault w.tick with
      | some e => exact hw
      | none => cases w.view c <;> exact hw
  | write c q =>
      simp only [step]
      cases env.fault w.tick with
      | some e => exact hw
      | none =>
          cases hs : w.view c with
          | none => exact hw
          | some s =>
              dsimp only
              cases hq : S.apply q w.nextId s with
              | error e => exact hw
              | ok r =>
                  cases c with
                  | pool =>
                      rw [World.view_pool, Option.some.injEq] at hs
                      subst hs
                      exact ⟨hD _ q _ _ r.1 r.2 ho hw.1 hq, hw.2⟩
                  | txn =>
                      refine ⟨hw.1, fun s' hs' => ?_⟩
                      rw [World.store_txn_txn, Option.some.injEq] at hs'
                      subst hs'
                      exact hT _ q _ s r.1 r.2 ho (hw.2 s hs) hq
  | begin => exact ho.elim
  | commit => exact ho.elim
  | rollback => exact ho.elim
  | ask q => exact hw
  | emit o => exact hw

/-- **The frame rule.** What the permitted writes keep, a program made of them keeps. -/
theorem triple_writesIn {W : Conn → ∀ β : Type, Wr β → Prop} {D T : σ → Prop}
    (hD : ∀ (β : Type) (q : Wr β) id s b s', W .pool β q → D s → S.apply q id s = .ok (b, s') → D s')
    (hT : ∀ (β : Type) (q : Wr β) id s b s', W .txn β q → T s → S.apply q id s = .ok (b, s') → T s')
    {E : η → Prop} {Q : α → Prop} (hx : x.Every anyAnswer (writesIn W) E Q)
    (hK : ∀ e w, w.Holds D T → E e → K e w) :
    Triple S env (World.Holds D T) x (fun a w => w.Holds D T ∧ Q a) K :=
  (triple_every (fun _ o _ hw ho => ⟨step_writesIn hD hT o hw ho, trivial⟩) hx).conseq
    (fun _ h => h) (fun _ _ h => h) fun e w h => hK e w h.1 h.2

theorem step_readsPool {s : σ} {T : σ → Prop} (o : DbOp Rd Wr Ask ε Out β)
    (hw : w.Holds (· = s) T) (ho : readsPool β o) :
    (step S env o w).2.Holds (· = s) T ∧ truthful S s β o (step S env o w).1 := by
  cases o with
  | read c q =>
      cases c with
      | txn => exact ho.elim
      | pool =>
          simp only [step, World.view_pool]
          cases env.fault w.tick with
          | some e => exact ⟨hw, Or.inr ⟨e, rfl⟩⟩
          | none =>
              refine ⟨hw, Or.inl ?_⟩
              rw [← hw.1]
  | ask q => exact ⟨hw, trivial⟩
  | write c q => exact ho.elim
  | begin => exact ho.elim
  | commit => exact ho.elim
  | rollback => exact ho.elim
  | emit o => exact ho.elim

/-- A program that only reads learns what the store holds, and leaves it. -/
theorem triple_reads {s : σ} {T : σ → Prop} {E : η → Prop} {Q : α → Prop}
    (hx : x.Every (truthful S s) readsPool E Q) (hK : ∀ e w, w.Holds (· = s) T → E e → K e w) :
    Triple S env (World.Holds (· = s) T) x (fun a w => w.Holds (· = s) T ∧ Q a) K :=
  (triple_every (fun _ o _ hw ho => step_readsPool o hw ho) hx).conseq
    (fun _ h => h) (fun _ _ h => h) fun e w h => hK e w h.1 h.2

/-- A program that only reads does so where there are more statements. -/
theorem every_widen_reads {Rd' Wr' Ask' : Type → Type} {Out' : Type} {s : σ} {E : η → Prop}
    {Q : α → Prop} {eval : ∀ {β : Type}, Rd' β → σ → Except ε β}
    {apply : ∀ {β : Type}, Wr' β → Int → σ → Except ε (β × σ)}
    (hx : x.Every (truthful S s) readsPool E Q) :
    (x.widen : Call (DbOp (fun β => Rd β ⊕ Rd' β) (fun β => Wr β ⊕ Wr' β)
      (fun β => Ask β ⊕ Ask' β) ε (Out ⊕ Out')) η α).Every
        (truthful (S.extend eval apply) s) readsPool E Q := by
  refine every_widen (fun β o ho => ?_) (fun β o b hb => ?_) hx
  · cases o with
    | read c q =>
        cases c with
        | pool => trivial
        | txn => exact ho.elim
    | ask q => trivial
    | _ => exact ho.elim
  · cases o with
    | read c q =>
        cases c with
        | pool => exact hb
        | txn => trivial
    | _ => trivial

/-- Composition, where the first half also established a fact about what it returned. -/
theorem Triple.bind_fact {L : β → World σ Out → Prop} {M : World σ Out → Prop} {Q : α → Prop}
    (hx : Triple S env I x (fun a w => M w ∧ Q a) K)
    (hf : ∀ a, Q a → Triple S env M (f a) L K) : Triple S env I (x >>= f) L K :=
  hx.bind fun a => Triple.of_fact (fun _ h => h.2) fun hq =>
    (hf a hq).conseq (fun _ h => h.1) (fun _ _ h => h) fun _ _ h => h

/-! ## Single operations, in terms of what the store and its copy satisfy -/

section Holds

variable {D D' T T' : σ → Prop} {K : ε → World σ Out → Prop}

theorem triple_write_pool {q : Wr β}
    (hq : ∀ id s b s', D s → S.apply q id s = .ok (b, s') → D' s')
    (hK : ∀ e w, w.Holds D T → K e w) :
    Triple S env (World.Holds D T) (attempt (.write .pool q) : Call (DbOp Rd Wr Ask ε Out) ε β)
      (fun _ w => w.Holds D' T) K := by
  refine triple_write (fun w s b s' hw hs happ => ?_) fun w e hw => hK e _ hw
  rw [World.view_pool, Option.some.injEq] at hs
  subst hs
  exact ⟨hq _ _ b s' hw.1 happ, hw.2⟩

theorem triple_write_txn {q : Wr β}
    (hq : ∀ id s b s', T s → S.apply q id s = .ok (b, s') → T' s')
    (hK : ∀ e w, w.Holds D T → K e w) :
    Triple S env (World.Holds D T) (attempt (.write .txn q) : Call (DbOp Rd Wr Ask ε Out) ε β)
      (fun _ w => w.Holds D T') K := by
  refine triple_write (fun w s b s' hw hs happ => ⟨hw.1, fun s₁ hs₁ => ?_⟩) fun w e hw => hK e _ hw
  rw [World.store_txn_txn, Option.some.injEq] at hs₁
  subst hs₁
  exact hq _ s b s' (hw.2 s hs) happ

theorem triple_begin_holds (hK : ∀ e w, w.Holds D T → K e w) :
    Triple S env (World.Holds D T) (attempt .begin : Call (DbOp Rd Wr Ask ε Out) ε Unit)
      (fun _ w => w.Holds D D) K := by
  refine triple_begin (fun w hw => ⟨hw.1, fun s hs => ?_⟩) fun w e hw => hK e _ hw
  rw [← Option.some.inj hs]
  exact hw.1

theorem triple_commit_holds (hK : ∀ e w, w.Holds D T → K e w) :
    Triple S env (World.Holds D T) (attempt .commit : Call (DbOp Rd Wr Ask ε Out) ε Unit)
      (fun _ w => w.Holds T T) K := by
  refine triple_commit (fun w s hw hs => ⟨hw.2 s hs, fun s₁ hs₁ => nomatch hs₁⟩) fun w e hw => ?_
  exact hK e _ ⟨hw.1, fun s hs => nomatch hs⟩

end Holds

/-! ## Single operations, in terms of what one connection finds

Enough for what a call does when it succeeds: there the copy a commit installs is all that counts. -/

section At

variable {c : Conn} {R : σ → Prop} {K : ε → World σ Out → Prop}

theorem triple_write_at {q : Wr β} {R' : β → σ → Prop}
    (hq : ∀ id s b s', R s → S.apply q id s = .ok (b, s') → R' b s')
    (hK : ∀ e w, K e w) :
    Triple S env (World.At c R) (attempt (.write c q) : Call (DbOp Rd Wr Ask ε Out) ε β)
      (fun b w => w.At c (R' b)) K := by
  refine triple_write (fun w s b s' hw hs happ s₁ hs₁ => ?_) fun _ _ _ => hK _ _
  rw [World.store_view, Option.some.injEq] at hs₁
  subst hs₁
  exact hq _ s b s' (hw s hs) happ

theorem triple_begin_at (hK : ∀ e w, K e w) :
    Triple S env (World.At .pool R) (attempt .begin : Call (DbOp Rd Wr Ask ε Out) ε Unit)
      (fun _ w => w.At .txn R) K := by
  refine triple_begin (fun w hw s hs => ?_) fun _ _ _ => hK _ _
  rw [← Option.some.inj hs]
  exact hw w.db rfl

theorem triple_commit_at (hK : ∀ e w, K e w) :
    Triple S env (World.At .txn R) (attempt .commit : Call (DbOp Rd Wr Ask ε Out) ε Unit)
      (fun _ w => w.At .pool R) K := by
  refine triple_commit (fun w s hw hs s₁ hs₁ => ?_) fun _ _ _ => hK _ _
  rw [← Option.some.inj hs₁]
  exact hw s hs

/-- The frame rule, on one connection. -/
theorem triple_at_writesIn {W : Conn → ∀ β : Type, Wr β → Prop} {E : η → Prop} {Q : α → Prop}
    {K : η → World σ Out → Prop}
    (hR : ∀ (β : Type) (q : Wr β) id s b s', W c β q → R s → S.apply q id s = .ok (b, s') → R s')
    (hx : x.Every anyAnswer (writesIn W) E Q) (hK : ∀ e w, K e w) :
    Triple S env (World.At c R) x (fun a w => w.At c R ∧ Q a) K := by
  cases c with
  | pool =>
      refine (triple_writesIn (D := R) (T := fun _ => True) hR (fun _ _ _ _ _ _ _ _ _ => trivial) hx
        fun e w _ _ => hK e w).conseq (fun w hw => ⟨hw w.db rfl, fun _ _ => trivial⟩)
        (fun a w h => ⟨fun s hs => ?_, h.2⟩) fun _ _ h => h
      rw [← Option.some.inj hs]
      exact h.1.1
  | txn =>
      exact (triple_writesIn (D := fun _ => True) (T := R)
        (fun _ _ _ _ _ _ _ _ _ => trivial) hR hx fun e w _ _ => hK e w).conseq
        (fun w hw => ⟨trivial, hw⟩) (fun a w h => ⟨h.1.2, h.2⟩) fun _ _ h => h

/-- No write at all. -/
def noWrite : Conn → ∀ β : Type, Wr β → Prop := fun _ _ _ => False

/-- A program without writes keeps whatever the connection finds. -/
theorem triple_noWrite {E : η → Prop} {Q : α → Prop} {K : η → World σ Out → Prop}
    (hx : x.Every anyAnswer (writesIn noWrite) E Q) (hK : ∀ e w, K e w) :
    Triple S env (World.At c R) x (fun a w => w.At c R ∧ Q a) K :=
  triple_at_writesIn (fun _ _ _ _ _ _ hq _ _ => hq.elim) hx hK

/-- A call on the pool may be followed from each state by itself. -/
theorem Triple.of_pool {x : Call (DbOp Rd Wr Ask ε Out) η α} {J : α → World σ Out → Prop}
    {K : η → World σ Out → Prop} (h : ∀ s, R s → Triple S env (World.At .pool (· = s)) x J K) :
    Triple S env (World.At .pool R) x J K :=
  fun w hw => h w.db (hw w.db rfl) w fun _ hs => (Option.some.inj hs).symm

/-- What a reading program returns is true of the store it is followed in. -/
theorem triple_reads_bind {E : η → Prop} {Q : σ → α → Prop} {L : β → World σ Out → Prop}
    {K : η → World σ Out → Prop} (hx : ∀ s, R s → x.Every (truthful S s) readsPool E (Q s))
    (hf : ∀ s a, R s → Q s a → Triple S env (World.At .pool R) (f a) L K) (hK : ∀ e w, K e w) :
    Triple S env (World.At .pool R) (x >>= f) L K := by
  intro w hw
  have hR : R w.db := hw w.db rfl
  have hreads : Triple S env (World.Holds (· = w.db) fun _ => True) (x >>= f) L K := by
    refine Triple.bind_fact (triple_reads (hx w.db hR) fun e w' _ _ => hK e w') fun a ha => ?_
    refine (hf w.db a hR ha).conseq (fun w' hw' s hs => ?_) (fun _ _ h => h) fun _ _ h => h
    rw [← Option.some.inj hs, hw'.1]
    exact hR
  exact hreads w ⟨rfl, fun _ _ => trivial⟩

end At

/-! ## Failed calls

What the store looks like after a call that ended with an error. -/

section Failed

variable {P : σ → Prop} {s : σ}

/-- If the call, started in `w`, ends with an error, the store it leaves satisfies `P`. -/
def FailsTo (S : Store Rd Wr ε σ) (env : Env Ask) (w : World σ Out)
    (x : Call (DbOp Rd Wr Ask ε Out) η α) (P : σ → Prop) : Prop :=
  ∀ e w', x.run S env w = (.error e, w') → P w'.db

theorem Triple.failsTo {J : α → World σ Out → Prop} (h : Triple S env I x J fun _ w => P w.db)
    (hI : I w) : FailsTo S env w x P :=
  fun _ _ hrun => h.of_run_error hI hrun

/-- What a failed call leaves behind: something if its first write landed, and nothing if not. -/
def Torn (same : σ → σ → Prop) (lands : Prop) (before after : σ) : Prop :=
  (lands → ¬ same before after) ∧ (¬ lands → after = before)

section Torn

variable {same : σ → σ → Prop} {lands : Prop} {s' : σ}

theorem torn_of_not (h : ¬ lands) : Torn same lands s s :=
  ⟨fun hl => (h hl).elim, fun _ => rfl⟩

theorem torn_of (h : lands) (hdiffer : ¬ same s s') : Torn same lands s s' :=
  ⟨fun _ => hdiffer, fun hl => (hl h).elim⟩

theorem Torn.iff (h : Torn same lands s s') (hrefl : same s s) : same s s' ↔ ¬ lands := by
  refine ⟨fun hsame hl => h.1 hl hsame, fun hl => ?_⟩
  rw [h.2 hl]
  exact hrefl

theorem Torn.congr {lands' : Prop} (h : Torn same lands s s') (hl : lands ↔ lands') :
    Torn same lands' s s' := by
  rw [← hl]
  exact h

end Torn

theorem FailsTo.widen {Rd' Wr' Ask' : Type → Type} {Out' : Type}
    {eval : ∀ {β : Type}, Rd' β → σ → Except ε β}
    {apply : ∀ {β : Type}, Wr' β → Int → σ → Except ε (β × σ)}
    {env : Env fun β => Ask β ⊕ Ask' β} {w : World σ (Out ⊕ Out')}
    (h : FailsTo S env.narrow w.bare x P) : FailsTo (S.extend eval apply) env w x.widen P := by
  intro e w' hrun
  rw [run_widen, Prod.mk.injEq] at hrun
  rw [← hrun.2]
  exact h e _ (Prod.ext hrun.1 rfl)

/-- The gates let the call pass, unless one of their statements fails. -/
theorem Reaches.failsTo {y : Call (DbOp Rd Wr Ask ε Out) η α} {k : Nat}
    (hx : Reaches S env w.db x k y) (hfault : ¬ env.QuietFor w.tick k → P w.db)
    (hy : env.QuietFor w.tick k → FailsTo S env { w with tick := w.tick + k } y P) :
    FailsTo S env w x P := by
  intro e w' hrun
  by_cases hq : env.QuietFor w.tick k
  · rw [(hx w rfl).1 hq] at hrun
    exact hy hq e w' hrun
  · obtain ⟨e', t, hrun'⟩ := (hx w rfl).2 hq
    rw [hrun'] at hrun
    cases hrun
    exact hfault hq

/-- A call that only reads leaves the store as it was. -/
theorem Reads.failsTo {r : Except η α} {k : Nat} (hx : x.Reads S env w.db r k) (h : P w.db) :
    FailsTo S env w x P := by
  intro e' w' hrun
  by_cases hq : env.QuietFor w.tick k
  · rw [(hx w rfl).1 hq, Prod.mk.injEq] at hrun
    rw [← hrun.2]
    exact h
  · obtain ⟨e'', t, hrun'⟩ := (hx w rfl).2 hq
    rw [hrun'] at hrun
    cases hrun
    exact h

theorem failsTo_ask_bind {q : Ask γ} {g : γ → Call (DbOp Rd Wr Ask ε Out) η β}
    (h : ∀ b, FailsTo S env { w with tick := w.tick + 1 } (g b) P) :
    FailsTo S env w (perform (.ask q) >>= g) P := by
  intro e w' hrun
  rw [run_bind, run_perform] at hrun
  exact h _ e w' hrun

theorem failsTo_assoc {y : α → Call (DbOp Rd Wr Ask ε Out) η β}
    {z : β → Call (DbOp Rd Wr Ask ε Out) η γ}
    (h : FailsTo S env w (x >>= fun a => y a >>= z) P) : FailsTo S env w ((x >>= y) >>= z) P := by
  intro e w' hrun
  refine h e w' ?_
  rw [run_bind, run_bind] at hrun
  rw [run_bind]
  rcases hx : x.run S env w with ⟨_ | a, w₁⟩
  · rw [hx] at hrun
    exact hrun
  · rw [hx] at hrun
    rw [← hrun]
    exact run_bind

/-- The first write: it fails and nothing has changed, or it lands and the rest may fail. -/
theorem failsTo_write_bind {q : Wr γ} {g : ε → η} {f : γ → Call (DbOp Rd Wr Ask ε Out) η β}
    (hfail : (env.fault w.tick ≠ none ∨ ∃ e, S.apply q w.nextId w.db = .error e) → P w.db)
    (hf : ∀ b s', env.fault w.tick = none → S.apply q w.nextId w.db = .ok (b, s') →
      FailsTo S env (w.store .pool s') (f b) P) :
    FailsTo S env w (mapErr g (attempt (.write .pool q)) >>= f) P := by
  intro e w' hrun
  rw [run_bind, run_mapErr, run_attempt] at hrun
  simp only [step] at hrun
  cases hfault : env.fault w.tick with
  | some n =>
      rw [hfault] at hrun
      cases hrun
      exact hfail (Or.inl (by rw [hfault]; exact Option.some_ne_none n))
  | none =>
      rw [hfault] at hrun
      simp only [World.view_pool] at hrun
      cases happ : S.apply q w.nextId w.db with
      | error e' =>
          rw [happ] at hrun
          cases hrun
          exact hfail (Or.inr ⟨e', happ⟩)
      | ok r =>
          rw [happ] at hrun
          exact hf r.1 r.2 hfault happ e w' hrun

end Failed

/-! ## Transactions that fail

The writes of a transaction that is never committed are never seen. -/

section Txn

variable {D T : σ → Prop}

/-- Writes inside the transaction only. -/
def txnWrites : Conn → ∀ β : Type, Wr β → Prop
  | .txn, _, _ => True
  | .pool, _, _ => False

theorem triple_txnWrites {E : η → Prop} {Q : α → Prop}
    (hx : x.Every anyAnswer (writesIn txnWrites) E Q) :
    Triple S env (World.Holds D fun _ => True) x (fun a w => w.Holds D (fun _ => True) ∧ Q a)
      fun _ w => D w.db :=
  triple_writesIn (fun _ _ _ _ _ _ hq _ _ => hq.elim) (fun _ _ _ _ _ _ _ _ _ => trivial) hx
    fun _ _ hw _ => hw.1

/-- A program that never fails. -/
theorem triple_unfailing {P : ∀ β : Type, DbOp Rd Wr Ask ε Out β → Prop}
    {K : η → World σ Out → Prop} {Q : α → Prop} (hx : x.Every anyAnswer P (fun _ => False) Q) :
    Triple S env (fun _ => True) x (fun _ _ => True) K :=
  (triple_every (fun _ _ _ _ _ => ⟨trivial, trivial⟩) hx).conseq (fun _ h => h)
    (fun _ _ _ => trivial) fun _ _ h => h.2.elim

/-- A reading program, whatever it reads. -/
theorem triple_reads_holds {E : η → Prop} {Q : σ → α → Prop}
    (hx : ∀ s, x.Every (truthful S s) readsPool E (Q s)) :
    Triple S env (World.Holds D T) x (fun _ w => w.Holds D T) fun _ w => w.Holds D T := by
  intro w hw
  refine (triple_reads (hx w.db) fun _ _ h _ => h).conseq (fun w' h => h)
    (fun _ w' h => ?_) (fun _ w' h => ?_) w ⟨rfl, hw.2⟩
  · exact ⟨by rw [h.1.1]; exact hw.1, h.1.2⟩
  · exact ⟨by rw [h.1]; exact hw.1, h.2⟩

/-- An attempt at a transaction that fails leaves the pool as it was. -/
theorem triple_attemptTx_fails {lift : ε → η} {retry : η → Bool}
    {again : η → Call (DbOp Rd Wr Ask ε Out) η α}
    (hbody : Triple S env (World.Holds D fun _ => True) x (fun _ w => w.Holds D fun _ => True)
      fun _ w => D w.db)
    (hagain : ∀ e, Triple S env (fun w => D w.db) (again e) (fun _ _ => True) fun _ w => D w.db) :
    Triple S env (fun w => D w.db) (attemptTx lift retry x again) (fun _ _ => True)
      fun _ w => D w.db := by
  have hretry : ∀ e, Triple S env (fun w => D w.db) (if retry e then again e else throw e)
      (fun _ _ => True) fun _ w => D w.db :=
    fun e => triple_ite (fun _ => hagain e) fun _ => triple_throw fun _ h => h
  refine Triple.bind (J := fun _ w => w.Holds D fun _ => True) ?_ fun _ => ?_
  · refine Triple.mapErr ((triple_begin_holds (D := D) (T := fun _ => True)
      fun _ _ hw => hw.1).conseq (fun w hw => ⟨hw, fun _ _ => trivial⟩)
        (fun _ _ h => ⟨h.1, fun _ _ => trivial⟩) fun _ _ h => h)
  refine Triple.bind (Triple.result hbody) fun r => ?_
  cases r with
  | error e =>
      refine Triple.bind (J := fun _ w => D w.db) ?_ fun _ => hretry e
      exact triple_rollback fun _ hw => hw
  | ok a =>
      have hcommit : Triple S env (World.Holds D fun _ => True)
          (mapErr lift (attempt .commit) : Call (DbOp Rd Wr Ask ε Out) η Unit) (fun _ _ => True)
          fun _ w => D w.db :=
        Triple.mapErr ((triple_commit_holds fun _ _ hw => hw.1).conseq (fun _ h => h)
          (fun _ _ _ => trivial) fun _ _ h => h)
      refine Triple.bind (Triple.result hcommit) fun r => ?_
      cases r with
      | ok _ => exact triple_pure fun _ _ => trivial
      | error e => exact hretry e

/-- **A transaction that fails leaves the pool as it was.** -/
theorem triple_runInTx_fails {lift : ε → η} {retry : η → Bool}
    (hbody : Triple S env (World.Holds D fun _ => True) x (fun _ w => w.Holds D fun _ => True)
      fun _ w => D w.db) :
    ∀ retries, Triple S env (fun w => D w.db) (runInTx lift retry x retries) (fun _ _ => True)
      fun _ w => D w.db
  | 0 => triple_attemptTx_fails hbody fun _ => triple_throw fun _ h => h
  | retries + 1 => triple_attemptTx_fails hbody fun _ => triple_runInTx_fails hbody retries

/-- An attempt at a transaction whose body keeps `D`, on the pool even where it fails, keeps it. -/
theorem triple_attemptTx {lift : ε → η} {retry : η → Bool}
    {again : η → Call (DbOp Rd Wr Ask ε Out) η α}
    (hbody : Triple S env (World.Holds D D) x (fun _ w => w.Holds D D) fun _ w => D w.db)
    (hagain : ∀ e, Triple S env (fun w => D w.db) (again e) (fun _ w => D w.db) fun _ _ => True) :
    Triple S env (fun w => D w.db) (attemptTx lift retry x again) (fun _ w => D w.db)
      fun _ _ => True := by
  have hretry : ∀ e, Triple S env (fun w => D w.db) (if retry e then again e else throw e)
      (fun _ w => D w.db) fun _ _ => True :=
    fun e => triple_ite (fun _ => hagain e) fun _ => triple_throw fun _ _ => trivial
  refine Triple.bind (J := fun _ w => w.Holds D D) ?_ fun _ => ?_
  · refine Triple.mapErr ((triple_begin_holds (T := fun _ => True) fun _ _ _ => trivial).conseq
      (fun w hw => ⟨hw, fun _ _ => trivial⟩) (fun _ _ h => h) fun _ _ _ => trivial)
  refine Triple.bind (Triple.result hbody) fun r => ?_
  cases r with
  | error e =>
      refine Triple.bind (J := fun _ w => D w.db) ?_ fun _ => hretry e
      exact triple_rollback fun _ hw => hw
  | ok a =>
      have hcommit : Triple S env (World.Holds D D)
          (mapErr lift (attempt .commit) : Call (DbOp Rd Wr Ask ε Out) η Unit)
          (fun _ w => w.Holds D D) fun _ w => D w.db :=
        Triple.mapErr (triple_commit_holds fun _ _ hw => hw.1)
      refine Triple.bind (Triple.result hcommit) fun r => ?_
      cases r with
      | ok _ => exact triple_pure fun _ hw => hw.1
      | error e => exact hretry e

theorem triple_runInTx {lift : ε → η} {retry : η → Bool}
    (hbody : Triple S env (World.Holds D D) x (fun _ w => w.Holds D D) fun _ w => D w.db) :
    ∀ retries, Triple S env (fun w => D w.db) (runInTx lift retry x retries) (fun _ w => D w.db)
      fun _ _ => True
  | 0 => triple_attemptTx hbody fun _ => triple_throw fun _ _ => trivial
  | retries + 1 => triple_attemptTx hbody fun _ => triple_runInTx hbody retries

/-- An attempt commits what the body makes of the store, if its writes are in the transaction only. -/
theorem triple_attemptTx_from {J : α → σ → Prop} {lift : ε → η} {retry : η → Bool}
    {again : η → Call (DbOp Rd Wr Ask ε Out) η α}
    (hbody : Triple S env (World.Holds D D) x (fun a w => w.Holds D (J a)) fun _ w => D w.db)
    (hagain : ∀ e, Triple S env (fun w => D w.db) (again e) (fun a w => J a w.db) fun _ _ => True) :
    Triple S env (fun w => D w.db) (attemptTx lift retry x again) (fun a w => J a w.db)
      fun _ _ => True := by
  have hretry : ∀ e, Triple S env (fun w => D w.db) (if retry e then again e else throw e)
      (fun a w => J a w.db) fun _ _ => True :=
    fun e => triple_ite (fun _ => hagain e) fun _ => triple_throw fun _ _ => trivial
  refine Triple.bind (J := fun _ w => w.Holds D D) ?_ fun _ => ?_
  · refine Triple.mapErr ((triple_begin_holds (T := fun _ => True) fun _ _ _ => trivial).conseq
      (fun w hw => ⟨hw, fun _ _ => trivial⟩) (fun _ _ h => h) fun _ _ _ => trivial)
  refine Triple.bind (Triple.result hbody) fun r => ?_
  cases r with
  | error e =>
      refine Triple.bind (J := fun _ w => D w.db) ?_ fun _ => hretry e
      exact triple_rollback fun _ hw => hw
  | ok a =>
      have hcommit : Triple S env (World.Holds D (J a))
          (mapErr lift (attempt .commit) : Call (DbOp Rd Wr Ask ε Out) η Unit)
          (fun _ w => w.Holds (J a) (J a)) fun _ w => D w.db :=
        Triple.mapErr (triple_commit_holds fun _ _ hw => hw.1)
      refine Triple.bind (Triple.result hcommit) fun r => ?_
      cases r with
      | ok _ => exact triple_pure fun _ hw => hw.1
      | error e => exact hretry e

/-- **A transaction that succeeds leaves what its body makes of the store.** -/
theorem triple_runInTx_from {J : α → σ → Prop} {lift : ε → η} {retry : η → Bool} {E : η → Prop}
    {Q : α → Prop} (hx : x.Every anyAnswer (writesIn txnWrites) E Q)
    (hbody : Triple S env (World.At .txn D) x (fun a w => w.At .txn (J a)) fun _ _ => True) :
    ∀ retries, Triple S env (fun w => D w.db) (runInTx lift retry x retries) (fun a w => J a w.db)
      fun _ _ => True := by
  have hheld : Triple S env (World.Holds D D) x (fun a w => w.Holds D (J a)) fun _ w => D w.db :=
    ((triple_txnWrites hx).and hbody).conseq (fun _ hw => ⟨⟨hw.1, fun _ _ => trivial⟩, hw.2⟩)
      (fun _ _ h => ⟨h.1.1.1, h.2⟩) fun _ _ h => h.1
  intro retries
  induction retries with
  | zero => exact triple_attemptTx_from hheld fun _ => triple_throw fun _ _ => trivial
  | succ retries ih => exact triple_attemptTx_from hheld fun _ => ih

end Txn

end Call

end TxnLib
