import Mathlib
import OcfIms.LibProg
import OcfIms.LibRun

/-!
# What programs leave in a history

Some operations of a program are events: `ev` says which, and what they leave behind. `Unfolds I Q`
bounds the history a program builds up: `I` holds of it after every operation, whatever the answers
are, and `Q` of the whole history and of what the program returns. The rules follow the program, and
start where its caller has come to.

Programs that run at the same time append to one history, each under its own name. What one of them
left is then what it would have left alone (`history_of_run`), since `Unfolds` does not depend on
what the others do.
-/

namespace TxnLib

open RunLib

variable {Op Op' : Type → Type 1} {α β γ ε η E : Type}

namespace Prog

variable (ev : ∀ β : Type, Op β → List E) (I : List E → Prop)

/-- Started with the history `h`, the program keeps `I`, and returns with `Q`. -/
def Unfolds (Q : List E → α → Prop) : List E → Prog Op α → Prop
  | h, .ret a => Q h a
  | h, .op o k => I (h ++ ev _ o) ∧ ∀ b, (k b).Unfolds Q (h ++ ev _ o)

variable {ev I} {h : List E} {Q R : List E → α → Prop}

theorem Unfolds.mono (hQ : ∀ h a, Q h a → R h a) :
    ∀ {x : Prog Op α} {h : List E}, x.Unfolds ev I Q h → x.Unfolds ev I R h
  | .ret a, h, hx => hQ h a hx
  | .op _ _, _, hx => ⟨hx.1, fun b => (hx.2 b).mono hQ⟩

theorem Unfolds.bind {f : α → Prog Op β} {R : List E → β → Prop}
    (hf : ∀ h a, Q h a → (f a).Unfolds ev I R h) :
    ∀ {x : Prog Op α} {h : List E}, x.Unfolds ev I Q h → (x >>= f).Unfolds ev I R h
  | .ret a, h, hx => hf h a hx
  | .op _ _, _, hx => ⟨hx.1, fun b => (hx.2 b).bind hf⟩

/-- A program of events of one kind, however many: a history that is fit for any number of them is
fit for it. -/
theorem unfolds_mapOp {f : ∀ β : Type, Op' β → Op β} {e : E} {rest : List E}
    (hev : ∀ β (o : Op' β), ev β (f β o) = [e])
    (hI : ∀ n, I (rest ++ List.replicate n e))
    (hQ : ∀ n a, Q (rest ++ List.replicate n e) a) :
    ∀ (x : Prog Op' α) (n : Nat), (x.mapOp f).Unfolds ev I Q (rest ++ List.replicate n e)
  | .ret a, n => hQ n a
  | .op o k, n => by
      have hmore : (rest ++ List.replicate n e) ++ ev _ (f _ o) =
          rest ++ List.replicate (n + 1) e := by
        rw [hev, List.append_assoc, List.replicate_succ']
      refine ⟨?_, fun b => ?_⟩
      · rw [hmore]
        exact hI (n + 1)
      · change ((k b).mapOp f).Unfolds ev I Q _
        rw [hmore]
        exact unfolds_mapOp hev hI hQ (k b) (n + 1)

end Prog

namespace Call

variable (ev : ∀ β : Type, Op β → List E) (I : List E → Prop)

/-- The same of a call; `Q` speaks of its result too where that is an error. -/
def Unfolds (Q : List E → Except ε α → Prop) (h : List E) (x : Call Op ε α) : Prop :=
  x.prog.Unfolds ev I Q h

variable {ev I} {h : List E} {Q R : List E → Except ε α → Prop} {x : Call Op ε α}

theorem Unfolds.mono (hx : x.Unfolds ev I Q h) (hQ : ∀ h r, Q h r → R h r) :
    x.Unfolds ev I R h := Prog.Unfolds.mono hQ hx

/-- An operation, and what follows it. -/
theorem unfolds_perform_bind {o : Op β} {f : β → Call Op ε α} (hI : I (h ++ ev _ o))
    (hf : ∀ b, (f b).Unfolds ev I Q (h ++ ev _ o)) :
    (perform o >>= f).Unfolds ev I Q h := ⟨hI, hf⟩

/-- A part that may fail, and what follows it where it does not. -/
theorem Unfolds.bind {f : α → Call Op ε β} {R : List E → Except ε β → Prop}
    (hx : x.Unfolds ev I Q h) (hok : ∀ h a, Q h (.ok a) → (f a).Unfolds ev I R h)
    (herr : ∀ h e, Q h (.error e) → R h (.error e)) : (x >>= f).Unfolds ev I R h := by
  rw [Unfolds, prog_bind]
  refine Prog.Unfolds.bind (fun h r hr => ?_) hx
  cases r with
  | ok a => exact hok h a hr
  | error e => exact herr h e hr

/-- A part whose failure is looked at. -/
theorem Unfolds.result_bind {f : Except ε α → Call Op η β} {R : List E → Except η β → Prop}
    (hx : x.Unfolds ev I Q h) (hf : ∀ h r, Q h r → (f r).Unfolds ev I R h) :
    (result x >>= f).Unfolds ev I R h := by
  have hr : (result x : Call Op η (Except ε α)).Unfolds ev I
      (fun h => Outcome (fun _ => False) (Q h)) h := by
    refine Prog.Unfolds.bind (fun h r hr => ?_) hx
    exact hr
  exact hr.bind (fun h r hr => hf h r hr) fun _ _ hr => hr.elim

end Call

/-! ## One history of many programs -/

/-- What is left of each program, and what all of them have left behind, oldest first. -/
structure Chronicle (Op : Type → Type 1) (α E ι : Type) where
  procs : ι → Prog Op α
  history : List (ι × E) := []

namespace Chronicle

variable {ι : Type} [DecidableEq ι]

/-- What `i` has left. -/
def of (c : Chronicle Op α E ι) (i : ι) : List E :=
  (c.history.filter fun m => m.1 = i).map Prod.snd

/-- `i` performs its next operation and is given an answer. -/
def turn (ev : ∀ β : Type, Op β → List E) (answer : ∀ β : Type, Op β → β)
    (c : Chronicle Op α E ι) (i : ι) : Option (Chronicle Op α E ι) :=
  match c.procs i with
  | .ret _ => none
  | .op o k => some
    { procs := Function.update c.procs i (k (answer _ o))
      history := c.history ++ (ev _ o).map fun e => (i, e) }

variable {ev : ∀ β : Type, Op β → List E} {answer : ∀ β : Type, Op β → β}
  {c c' : Chronicle Op α E ι} {i : ι}

theorem of_append_self (l : List E) :
    (⟨c.procs, c.history ++ l.map fun e => (i, e)⟩ : Chronicle Op α E ι).of i = c.of i ++ l := by
  have hall : (l.map fun e => (i, e)).filter (fun m => m.1 = i) = l.map fun e => (i, e) := by
    refine List.filter_eq_self.mpr fun m hm => ?_
    obtain ⟨e, -, rfl⟩ := List.mem_map.mp hm
    exact decide_eq_true rfl
  rw [of, List.filter_append, List.map_append, hall, List.map_map]
  exact congrArg _ (List.map_id l)

theorem of_append_of_ne {j : ι} (hj : j ≠ i) (l : List E) :
    (⟨c.procs, c.history ++ l.map fun e => (i, e)⟩ : Chronicle Op α E ι).of j = c.of j := by
  have hnone : (l.map fun e => (i, e)).filter (fun m => m.1 = j) = [] := by
    refine List.filter_eq_nil_iff.mpr fun m hm => ?_
    obtain ⟨e, -, rfl⟩ := List.mem_map.mp hm
    simpa using Ne.symm hj
  rw [of, List.filter_append, hnone, List.append_nil]
  rfl

/-- Each program goes on from what it has itself left. -/
def Unfolding (ev : ∀ β : Type, Op β → List E) (I : ι → List E → Prop)
    (Q : ι → List E → α → Prop) (c : Chronicle Op α E ι) : Prop :=
  ∀ i, I i (c.of i) ∧ (c.procs i).Unfolds ev (I i) (Q i) (c.of i)

theorem Unfolding.turn {I : ι → List E → Prop} {Q : ι → List E → α → Prop}
    (h : c.Unfolding ev I Q) (hs : c.turn ev answer i = some c') : c'.Unfolding ev I Q := by
  rw [Chronicle.turn] at hs
  split at hs
  · cases hs
  rename_i β o k hp
  cases hs
  intro j
  by_cases hj : j = i
  · subst hj
    obtain ⟨-, hx⟩ := h j
    rw [hp] at hx
    change I j (of ⟨c.procs, _⟩ j) ∧ Prog.Unfolds ev (I j) (Q j) (of ⟨c.procs, _⟩ j)
      (Function.update c.procs j (k (answer β o)) j)
    rw [of_append_self, Function.update_self]
    exact ⟨hx.1, hx.2 _⟩
  · change I j (of ⟨c.procs, _⟩ j) ∧ Prog.Unfolds ev (I j) (Q j) (of ⟨c.procs, _⟩ j)
      (Function.update c.procs i (k (answer β o)) j)
    rw [of_append_of_ne hj, Function.update_of_ne hj]
    exact h j

/-- A turn appends to the history only what the program performs. -/
theorem turn_eq_some (hs : c.turn ev answer i = some c') :
    ∃ (β : Type) (o : Op β) (k : β → Prog Op α), c.procs i = .op o k ∧
      c'.history = c.history ++ (ev β o).map fun e => (i, e) := by
  rw [turn] at hs
  split at hs
  · cases hs
  · cases hs
    exact ⟨_, _, _, ‹_›, rfl⟩

end Chronicle

end TxnLib
