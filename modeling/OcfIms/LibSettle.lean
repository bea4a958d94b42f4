import Mathlib
import OcfIms.LibTriple

/-!
# When a call succeeds

A triple whose two postconditions decide a condition: the call returns exactly where the condition
holds, and then ends in a world the first postcondition describes. The rules compose conditions
along the program; a loop's condition is a condition on its list, with the abstract state each pass
starts from. All of them are about environments in which nothing fails from outside, so that only
the program and its store can refuse.
-/

namespace TxnLib

namespace Call

variable {Rd Wr Ask : Type → Type} {ε Out σ α β γ τ : Type} {S : Store Rd Wr ε σ} {env : Env Ask}
  {η η' : Type}

/-- Started in a world satisfying `I`, the call returns if and only if `p`. -/
def Settles (S : Store Rd Wr ε σ) (env : Env Ask) (I : World σ Out → Prop)
    (x : Call (DbOp Rd Wr Ask ε Out) η α) (p : Prop) (J : α → World σ Out → Prop) : Prop :=
  Triple S env I x (fun a w => p ∧ J a w) fun _ _ => ¬ p

variable {x : Call (DbOp Rd Wr Ask ε Out) η α} {f : α → Call (DbOp Rd Wr Ask ε Out) η β}
  {I I' : World σ Out → Prop} {J J' : α → World σ Out → Prop} {L : β → World σ Out → Prop}
  {p p' q : Prop} {w w' : World σ Out}

theorem Settles.iff (h : Settles S env I x p J) (hI : I w) :
    (∃ a w', x.run S env w = (.ok a, w')) ↔ p := by
  rcases hrun : x.run S env w with ⟨e | a, w₁⟩
  · have hnot := Triple.of_run_error h hI hrun
    simp [hnot]
  · have hyes := Triple.of_run_ok h hI hrun
    simp [hyes.1]

theorem Settles.of_run {a : α} (h : Settles S env I x p J) (hI : I w)
    (hrun : x.run S env w = (.ok a, w')) : p ∧ J a w' :=
  Triple.of_run_ok h hI hrun

theorem Settles.conseq (h : Settles S env I x p J) (hI : ∀ w, I' w → I w) (hp : p ↔ p')
    (hJ : ∀ a w, p → J a w → J' a w) : Settles S env I' x p' J' :=
  Triple.conseq h hI (fun a w ha => ⟨hp.mp ha.1, hJ a w ha.1 ha.2⟩) fun _ _ hn hp' => hn (hp.mpr hp')

/-- A fact that does not depend on the world may be assumed. -/
theorem Settles.of_fact (hq : ∀ w, I w → q) (h : q → Settles S env I x p J) :
    Settles S env I x p J :=
  Triple.of_fact hq h

theorem settles_exists {κ : Type} {I : κ → World σ Out → Prop}
    (h : ∀ k, Settles S env (I k) x p J) : Settles S env (fun w => ∃ k, I k w) x p J :=
  fun w ⟨k, hI⟩ => h k w hI

theorem settles_pure {a : α} (h : ∀ w, I w → J a w) :
    Settles S env I (pure a : Call (DbOp Rd Wr Ask ε Out) η α) True J :=
  triple_pure fun w hI => ⟨trivial, h w hI⟩

/-- Where the condition holds anyway, nothing may fail. -/
theorem Settles.of_holds (hp : p) (h : Settles S env I x True J) : Settles S env I x p J :=
  h.conseq (fun _ h => h) ⟨fun _ => hp, fun _ => trivial⟩ fun _ _ _ h => h

theorem settles_throw {e : η} (hp : ¬ p) :
    Settles S env I (throw e : Call (DbOp Rd Wr Ask ε Out) η α) p J :=
  triple_throw fun _ _ => hp

theorem Settles.bind (hx : Settles S env I x p J)
    (hf : ∀ a, p → Settles S env (J a) (f a) q L) : Settles S env I (x >>= f) (p ∧ q) L := by
  intro w hI
  have hpost := hx w hI
  rw [run_bind]
  rcases hrun : x.run S env w with ⟨e | a, w₁⟩
  · rw [hrun] at hpost
    exact fun h => hpost h.1
  · rw [hrun] at hpost
    have hrest := hf a hpost.1 w₁ hpost.2
    show Post _ _ ((f a).run S env w₁)
    rcases hrun₂ : (f a).run S env w₁ with ⟨e | b, w₂⟩
    · rw [hrun₂] at hrest
      exact fun h => hrest h.2
    · rw [hrun₂] at hrest
      exact ⟨⟨hpost.1, hrest.1⟩, hrest.2⟩

/-- A first part that also says something of what it returns. -/
theorem Settles.bind_fact {K : α → Prop} (hx : Settles S env I x p fun a w => K a ∧ J a w)
    (hf : ∀ a, p → K a → Settles S env (J a) (f a) q L) : Settles S env I (x >>= f) (p ∧ q) L :=
  hx.bind fun a hp => Triple.of_fact (fun _ h => h.1) fun hK =>
    (hf a hp hK).conseq (fun _ h => h.2) Iff.rfl fun _ _ _ h => h

/-- A first part that cannot fail. -/
theorem Settles.bind_sure (hx : Settles S env I x True J)
    (hf : ∀ a, Settles S env (J a) (f a) q L) : Settles S env I (x >>= f) q L :=
  (hx.bind fun a _ => hf a).conseq (fun _ h => h) (by simp) fun _ _ _ h => h

/-- A last part that only returns something. -/
theorem Settles.bind_pure {g : α → β} (hx : Settles S env I x p J)
    (h : ∀ a w, J a w → L (g a) w) : Settles S env I (x >>= fun a => pure (g a)) p L :=
  (hx.bind fun a _ => settles_pure fun w hw => h a w hw).conseq (fun _ h => h) (by simp)
    fun _ _ _ h => h

theorem Settles.mapErr {g : η → η'} (h : Settles S env I x p J) :
    Settles S env I (mapErr g x) p J :=
  Triple.mapErr h

theorem settles_ite {c : Prop} [Decidable c] {y : Call (DbOp Rd Wr Ask ε Out) η α}
    (hx : c → Settles S env I x p J) (hy : ¬ c → Settles S env I y p J) :
    Settles S env I (if c then x else y) p J :=
  triple_ite hx hy

theorem Settles.deferRollback (h : Settles S env I x p fun a w => J a { w with txn := none }) :
    Settles S env I x.deferRollback p J :=
  triple_deferRollback h

/-- The condition of a loop: each pass's own, in the state the passes before it left. -/
def EachOk (ok : τ → γ → Prop) (g : τ → γ → τ) : τ → List γ → Prop
  | _, [] => True
  | v, a :: l => ok v a ∧ EachOk ok g (g v a) l

theorem settles_forM {f : γ → Call (DbOp Rd Wr Ask ε Out) η PUnit} {ok : τ → γ → Prop}
    {g : τ → γ → τ} {L : τ → World σ Out → Prop} :
    ∀ (l : List γ) (v : τ),
      (∀ v, ∀ a ∈ l, Settles S env (L v) (f a) (ok v a) fun _ => L (g v a)) →
      Settles S env (L v) (l.forM f) (EachOk ok g v l) fun _ => L (l.foldl g v)
  | [], _, _ => settles_pure fun _ h => h
  | a :: l, v, hf =>
      (hf v a (List.mem_cons_self ..)).bind fun _ _ =>
        settles_forM l (g v a) fun v b hb => hf v b (List.mem_cons_of_mem _ hb)

/-- A loop whose passes cannot fail. -/
theorem settles_forM_sure {f : γ → Call (DbOp Rd Wr Ask ε Out) η PUnit} :
    ∀ l : List γ, (∀ a ∈ l, Settles S env I (f a) True fun _ => I) →
      Settles S env I (l.forM f) True fun _ => I
  | [], _ => settles_pure fun _ h => h
  | a :: l, hf => (hf a (List.mem_cons_self ..)).bind_sure fun _ =>
      settles_forM_sure l fun b hb => hf b (List.mem_cons_of_mem _ hb)

/-- The same for a loop that collects what its passes return. -/
theorem settles_concatMap {γ δ : Type} {f : γ → Call (DbOp Rd Wr Ask ε Out) η (List δ)}
    (hf : ∀ a, Settles S env I (f a) True fun _ => I) :
    ∀ l : List γ, Settles S env I (concatMap f l) True fun _ => I
  | [] => settles_pure fun _ h => h
  | a :: l => (hf a).bind_sure fun _ => (settles_concatMap hf l).bind_sure fun _ =>
      settles_pure fun _ h => h

/-! ## With contracts -/

/-- What a program returns is also as its contract says. -/
theorem Settles.and_every {P : ∀ β : Type, DbOp Rd Wr Ask ε Out β → Prop} {E : η → Prop}
    {Q : α → Prop} (h : Settles S env I x p J) (hx : x.Every anyAnswer P E Q) :
    Settles S env I x p fun a w => Q a ∧ J a w := by
  intro w hI
  have hpost := h w hI
  rcases hrun : x.run S env w with ⟨e | a, w₁⟩
  · rw [hrun] at hpost
    exact hpost
  · rw [hrun] at hpost
    exact ⟨hpost.1, value_of_every hx hrun, hpost.2⟩

/-- A reading program that answers. -/
theorem Answers.settles {s : σ} {a : α} {R : Int → Prop} (hx : x.Answers S env s (.ok a)) :
    Settles S env (fun w => w.db = s ∧ R w.nextId) x True
      fun b w => b = a ∧ w.db = s ∧ R w.nextId := by
  intro w hI
  obtain ⟨t, ht⟩ := hx w hI.1
  rw [ht]
  exact ⟨trivial, rfl, hI⟩

/-- A program that neither writes nor fails. -/
theorem settles_unfailing {T : Out → Prop} {R : σ → Int → Prop} {Q : α → Prop}
    (hx : x.Every anyAnswer (operatesIn T noWrite) (fun _ => False) Q) :
    Settles S env (fun w => R w.db w.nextId) x True fun _ w => R w.db w.nextId := by
  refine (triple_every (I := fun w => R w.db w.nextId) (fun β o w hI ho => ⟨?_, trivial⟩) hx).conseq
    (fun _ h => h) (fun _ _ h => ⟨trivial, h.1⟩) fun _ _ h => h.2.elim
  cases o with
  | read c q =>
      simp only [step]
      cases env.fault w.tick <;> cases w.view c <;> exact hI
  | write c q => exact ho.elim
  | begin => exact ho.elim
  | commit => exact ho.elim
  | rollback => exact ho.elim
  | ask q => exact hI
  | emit o => exact hI

section Operations

variable {c : Conn} {K : β → World σ Out → Prop}

/-- A read settles what the store answers. -/
theorem settles_read {q : Rd β} (hq : env.Quiet)
    (h : ∀ w, I w → ∃ s, w.view c = some s ∧
      (p → ∃ b, S.eval q s = .ok b ∧ K b w.tock) ∧ ∀ b, S.eval q s = .ok b → p) :
    Settles S env I (attempt (.read c q) : Call (DbOp Rd Wr Ask ε Out) ε β) p K := by
  intro w hI
  obtain ⟨s, hs, hok, honly⟩ := h w hI
  rw [run_attempt]
  simp only [step, hq w.tick, hs]
  cases heval : S.eval q s with
  | error e =>
      intro hp
      obtain ⟨b, hb, -⟩ := hok hp
      rw [heval] at hb
      cases hb
  | ok b =>
      have hp : p := honly b heval
      obtain ⟨b', hb, hK⟩ := hok hp
      rw [heval] at hb
      cases hb
      exact ⟨hp, hK⟩

/-- A write settles what the store says about it. -/
theorem settles_write {q : Wr β} (hq : env.Quiet)
    (h : ∀ w, I w → ∃ s, w.view c = some s ∧
      (p → ∃ b s', S.apply q w.nextId s = .ok (b, s') ∧ K b (w.store c s')) ∧
        ∀ r, S.apply q w.nextId s = .ok r → p) :
    Settles S env I (attempt (.write c q) : Call (DbOp Rd Wr Ask ε Out) ε β) p K := by
  intro w hI
  obtain ⟨s, hs, hok, honly⟩ := h w hI
  rw [run_attempt]
  simp only [step, hq w.tick, hs]
  cases happly : S.apply q w.nextId s with
  | error e =>
      intro hp
      obtain ⟨b, s', hb, -⟩ := hok hp
      rw [happly] at hb
      cases hb
  | ok r =>
      have hp : p := honly r happly
      obtain ⟨b, s', hb, hK⟩ := hok hp
      rw [happly] at hb
      cases hb
      exact ⟨hp, hK⟩

theorem settles_begin (hq : env.Quiet) {K : Unit → World σ Out → Prop}
    (h : ∀ w, I w → K () { w.tock with txn := some w.db }) :
    Settles S env I (attempt .begin : Call (DbOp Rd Wr Ask ε Out) ε Unit) True K := by
  intro w hI
  rw [run_attempt]
  simp only [step, hq w.tick]
  exact ⟨trivial, h w hI⟩

theorem settles_commit (hq : env.Quiet) {K : Unit → World σ Out → Prop}
    (h : ∀ w, I w → ∃ s, w.txn = some s ∧ K () { w.tock with db := s, txn := none }) :
    Settles S env I (attempt .commit : Call (DbOp Rd Wr Ask ε Out) ε Unit) True K := by
  intro w hI
  obtain ⟨s, hs, hK⟩ := h w hI
  rw [run_attempt]
  simp only [step, hq w.tick, hs]
  exact ⟨trivial, hK⟩

theorem settles_ask {q : Ask β} (h : ∀ w, I w → K (env.answer w.tick q) w.tock) :
    Settles S env I (perform (.ask q) : Call (DbOp Rd Wr Ask ε Out) η β) True K := by
  intro w hI
  rw [run_perform]
  exact ⟨trivial, h w hI⟩

end Operations

/-! ## Inside a transaction -/

section InTxn

variable {d : σ} {R : σ → Int → Prop}

/-- The store is as it was, and the transaction's copy, with the next identifier, satisfies `R`. -/
def InTxn (d : σ) (R : σ → Int → Prop) (w : World σ Out) : Prop :=
  w.db = d ∧ ∃ s, w.txn = some s ∧ R s w.nextId

theorem InTxn.mono {R' : σ → Int → Prop} (h : InTxn d R w) (hR : ∀ s id, R s id → R' s id) :
    InTxn d R' w :=
  ⟨h.1, h.2.imp fun _ hs => ⟨hs.1, hR _ _ hs.2⟩⟩

theorem settles_write_inTxn {q : Wr β} {R' : β → σ → Int → Prop} (hq : env.Quiet)
    (h : ∀ s id, R s id →
      (p → ∃ b s', S.apply q id s = .ok (b, s') ∧ R' b s' (id + 1)) ∧
        ∀ r, S.apply q id s = .ok r → p) :
    Settles S env (InTxn d R) (attempt (.write .txn q) : Call (DbOp Rd Wr Ask ε Out) ε β) p
      fun b => InTxn d (R' b) := by
  refine settles_write hq fun w ⟨hd, s, hs, hR⟩ => ⟨s, hs, fun hp => ?_, (h s _ hR).2⟩
  obtain ⟨b, s', happly, hR'⟩ := (h s _ hR).1 hp
  exact ⟨b, s', happly, hd, s', rfl, hR'⟩

/-- What a read on the pool answers does not depend on the transaction. -/
theorem settles_read_inTxn {q : Rd β} (hq : env.Quiet) :
    Settles S env (InTxn d R) (attempt (.read .pool q) : Call (DbOp Rd Wr Ask ε Out) ε β)
      (∃ b, S.eval q d = .ok b) fun b w => S.eval q d = .ok b ∧ InTxn d R w := by
  refine settles_read hq fun w hw => ⟨d, congrArg some hw.1, fun ⟨b, hb⟩ => ⟨b, hb, hb, hw⟩,
    fun b hb => ⟨b, hb⟩⟩

theorem settles_read_txn {q : Rd β} {b : σ → β} (hq : env.Quiet)
    (h : ∀ s id, R s id → S.eval q s = .ok (b s)) :
    Settles S env (InTxn d R) (attempt (.read .txn q) : Call (DbOp Rd Wr Ask ε Out) ε β) True
      fun r => InTxn d fun s id => r = b s ∧ R s id := by
  refine settles_read hq fun w ⟨hd, s, hs, hR⟩ => ⟨s, hs, fun _ => ?_, fun _ _ => trivial⟩
  exact ⟨b s, h s _ hR, hd, s, hs, rfl, hR⟩

theorem settles_ask_inTxn {q : Ask β} :
    Settles S env (InTxn d R) (perform (.ask q) : Call (DbOp Rd Wr Ask ε Out) η β) True
      fun _ => InTxn d R :=
  settles_ask fun _ h => h

end InTxn

/-! ## Loops over a set

Passes that put an element into a set, or take one out. -/

section Sets

variable {u : Prop} {ok has : γ → Prop}

/-- The set with the element, if there is such a thing. -/
def insertIf (h : Prop) (a : γ) (v : Set γ) : Set γ := {b | b = a ∧ h ∨ b ∈ v}

theorem insertIf_of {h : Prop} (hh : h) (a : γ) (v : Set γ) : insertIf h a v = insert a v := by
  ext b
  simp [insertIf, hh]

theorem foldl_insertIf : ∀ (l : List γ) (v : Set γ),
    l.foldl (fun v a => insertIf (has a) a v) v = {b | b ∈ l ∧ has b ∨ b ∈ v}
  | [], v => by simp
  | a :: l, v => by
      rw [List.foldl_cons, foldl_insertIf l]
      ext b
      simp only [insertIf, Set.mem_ofPred_eq, List.mem_cons]
      constructor
      · rintro (⟨hb, hh⟩ | ⟨rfl, hh⟩ | hb)
        · exact Or.inl ⟨Or.inr hb, hh⟩
        · exact Or.inl ⟨Or.inl rfl, hh⟩
        · exact Or.inr hb
      · rintro (⟨rfl | hb, hh⟩ | hb)
        · exact Or.inr (Or.inl ⟨rfl, hh⟩)
        · exact Or.inl ⟨hb, hh⟩
        · exact Or.inr (Or.inr hb)

theorem foldl_erase : ∀ (l : List γ) (v : Set γ),
    l.foldl (fun v a => v \ {a}) v = v \ {a | a ∈ l}
  | [], v => by
      ext b
      simp
  | a :: l, v => by
      rw [List.foldl_cons, foldl_erase l]
      ext b
      simp only [Set.mem_sdiff, Set.mem_singleton_iff, Set.mem_ofPred_eq, List.mem_cons, not_or,
        and_assoc]

/-- A loop that inserts, under a unique key or not: where it is unique, no element may come twice
and none may be there before. -/
theorem eachOk_insertIf (hhas : u → ∀ a, ok a → has a) : ∀ (l : List γ) (v : Set γ),
    EachOk (fun v a => (u → a ∉ v) ∧ ok a) (fun v a => insertIf (has a) a v) v l ↔
      (u → l.Nodup ∧ ∀ a ∈ l, a ∉ v) ∧ ∀ a ∈ l, ok a
  | [], v => by simp [EachOk]
  | a :: l, v => by
      rw [EachOk, eachOk_insertIf hhas l, List.nodup_cons]
      simp only [insertIf, Set.mem_ofPred_eq, not_or, List.mem_cons, forall_eq_or_imp, not_and]
      constructor
      · rintro ⟨⟨hv, ha⟩, hl, hok⟩
        refine ⟨fun hu => ⟨⟨fun hmem => ?_, (hl hu).1⟩, hv hu, fun b hb => ((hl hu).2 b hb).2⟩, ha,
          hok⟩
        exact ((hl hu).2 a hmem).1 rfl (hhas hu a ha)
      · rintro ⟨hl, ha, hok⟩
        refine ⟨⟨fun hu => (hl hu).2.1, ha⟩, fun hu => ⟨(hl hu).1.2, fun b hb => ⟨?_, ?_⟩⟩, hok⟩
        · rintro rfl
          exact absurd hb (hl hu).1.1
        · exact (hl hu).2.2 b hb

/-- A loop whose passes do not look at the state. -/
theorem eachOk_const {ok : γ → Prop} {g : τ → γ → τ} : ∀ (l : List γ) (v : τ),
    EachOk (fun _ a => ok a) g v l ↔ ∀ a ∈ l, ok a
  | [], v => by simp [EachOk]
  | a :: l, v => by simp [EachOk, eachOk_const l]

end Sets

end Call

end TxnLib
