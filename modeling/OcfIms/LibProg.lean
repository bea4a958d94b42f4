import Mathlib

/-!
# Programs as trees of operations

A `Prog Op α` is a sequential program that performs operations from a signature `Op` and returns a
value of type `α`. An operation of type `Op β` is answered with a value of type `β`; the program
continues with whatever it is answered. What the answers are is left open here: one program is run
against a store by one machine, and interleaved with other programs by another.

Two ways of reasoning about a program need no machine at all. `Every` bounds what a program may do:
all its operations are permitted, and all the values it returns are as announced, given an
assumption about the answers. `Path` lists one way through the program: the operations it performed
and the answers it was given. Both follow the program's own composition by `bind`.
-/

namespace TxnLib

inductive Prog (Op : Type → Type 1) (α : Type) : Type 1
  | ret (a : α) : Prog Op α
  | op {β : Type} (o : Op β) (k : β → Prog Op α) : Prog Op α

namespace Prog

variable {Op : Type → Type 1} {α β γ : Type}

def bind : Prog Op α → (α → Prog Op β) → Prog Op β
  | .ret a, f => f a
  | .op o k, f => .op o fun b => (k b).bind f

instance : Monad (Prog Op) where
  pure := .ret
  bind := .bind

/-- Perform one operation and return its answer. -/
def perform (o : Op β) : Prog Op β := .op o .ret

@[simp] theorem pure_eq (a : α) : (pure a : Prog Op α) = .ret a := rfl

@[simp] theorem ret_bind (a : α) (f : α → Prog Op β) : (Prog.ret a >>= f) = f a := rfl

@[simp] theorem op_bind (o : Op γ) (k : γ → Prog Op α) (f : α → Prog Op β) :
    (Prog.op o k >>= f) = .op o fun b => k b >>= f := rfl

@[simp] theorem perform_bind (o : Op γ) (f : γ → Prog Op α) : (perform o >>= f) = .op o f := rfl

theorem bind_ret : ∀ x : Prog Op α, x >>= .ret = x
  | .ret _ => rfl
  | .op o k => by
      rw [op_bind]
      exact congrArg (Prog.op o) (funext fun b => bind_ret (k b))

theorem bind_assoc (f : α → Prog Op β) (g : β → Prog Op γ) :
    ∀ x : Prog Op α, x >>= f >>= g = x >>= fun a => f a >>= g
  | .ret _ => rfl
  | .op o k => by
      simp only [op_bind]
      exact congrArg (Prog.op o) (funext fun b => bind_assoc f g (k b))

instance : LawfulMonad (Prog Op) :=
  LawfulMonad.mk' _ bind_ret (fun _ _ => rfl) fun x f g => bind_assoc f g x

/-- Rename the operations of a program. -/
def mapOp {Op' : Type → Type 1} (f : ∀ β : Type, Op β → Op' β) : Prog Op α → Prog Op' α
  | .ret a => .ret a
  | .op o k => .op (f _ o) fun b => (k b).mapOp f

theorem mapOp_bind {Op' : Type → Type 1} (f : ∀ β : Type, Op β → Op' β) (g : α → Prog Op β) :
    ∀ x : Prog Op α, (x >>= g).mapOp f = x.mapOp f >>= fun a => (g a).mapOp f
  | .ret _ => rfl
  | .op o k => congrArg (Prog.op (f _ o)) (funext fun b => mapOp_bind f g (k b))

/-! ## What a program may do -/

/-- Every operation of the program satisfies `P` and every value it can return satisfies `Q`, as
long as the answers it is given satisfy `A`. -/
def Every (A : ∀ β : Type, Op β → β → Prop) (P : ∀ β : Type, Op β → Prop) (Q : α → Prop) :
    Prog Op α → Prop
  | .ret a => Q a
  | .op o k => P _ o ∧ ∀ b, A _ o b → (k b).Every A P Q

section Every

variable {A A' : ∀ β : Type, Op β → β → Prop} {P P' : ∀ β : Type, Op β → Prop}

@[simp] theorem every_ret {Q : α → Prop} {a : α} : (Prog.ret a : Prog Op α).Every A P Q ↔ Q a :=
  Iff.rfl

@[simp] theorem every_op {Q : α → Prop} {o : Op β} {k : β → Prog Op α} :
    (Prog.op o k).Every A P Q ↔ P _ o ∧ ∀ b, A _ o b → (k b).Every A P Q := Iff.rfl

theorem Every.bind {Q : α → Prop} {R : β → Prop} {f : α → Prog Op β}
    (hf : ∀ a, Q a → (f a).Every A P R) :
    ∀ {x : Prog Op α}, x.Every A P Q → (x >>= f).Every A P R
  | .ret a, hx => hf a hx
  | .op _ _, hx => ⟨hx.1, fun b hb => Every.bind hf (hx.2 b hb)⟩

theorem Every.mono {Q R : α → Prop} (hA : ∀ β (o : Op β) b, A' β o b → A β o b)
    (hP : ∀ β (o : Op β), P β o → P' β o) (hQ : ∀ a, Q a → R a) :
    ∀ {x : Prog Op α}, x.Every A P Q → x.Every A' P' R
  | .ret a, hx => hQ a hx
  | .op o _, hx => ⟨hP _ o hx.1, fun b hb => Every.mono hA hP hQ (hx.2 b (hA _ o b hb))⟩

theorem Every.and {Q R : α → Prop} :
    ∀ {x : Prog Op α}, x.Every A P Q → x.Every A P R → x.Every A P fun a => Q a ∧ R a
  | .ret _, hx, hy => ⟨hx, hy⟩
  | .op _ _, hx, hy => ⟨hx.1, fun b hb => (hx.2 b hb).and (hy.2 b hb)⟩

theorem every_of_forall {Q : α → Prop} (hP : ∀ β (o : Op β), P β o) (hQ : ∀ a, Q a) :
    ∀ x : Prog Op α, x.Every A P Q
  | .ret a => hQ a
  | .op o k => ⟨hP _ o, fun b _ => every_of_forall hP hQ (k b)⟩

theorem Every.mapOp {Op' : Type → Type 1} {B : ∀ β : Type, Op' β → β → Prop}
    {R : ∀ β : Type, Op' β → Prop} {Q : α → Prop} {f : ∀ β : Type, Op β → Op' β}
    (hR : ∀ β (o : Op β), P β o → R β (f β o)) (hB : ∀ β (o : Op β) b, B β (f β o) b → A β o b) :
    ∀ {x : Prog Op α}, x.Every A P Q → (x.mapOp f).Every B R Q
  | .ret _, hx => hx
  | .op o _, hx => ⟨hR _ o hx.1, fun b hb => Every.mapOp hR hB (hx.2 b (hB _ o b hb))⟩

end Every

/-! ## One way through a program -/

/-- An operation together with the answer it was given. -/
structure Step (Op : Type → Type 1) : Type 1 where
  {ans : Type}
  op : Op ans
  answer : ans

/-- The program can perform the steps of the list, in order, and then return. -/
inductive Path : Prog Op α → List (Step Op) → α → Prop
  | ret (a : α) : Path (.ret a) [] a
  | op {δ : Type} {o : Op δ} {k : δ → Prog Op α} {b : δ} {l : List (Step Op)} {a : α}
      (h : Path (k b) l a) : Path (.op o k) (⟨o, b⟩ :: l) a

@[simp] theorem path_ret_iff {a b : α} {l : List (Step Op)} :
    Path (Prog.ret a) l b ↔ l = [] ∧ a = b := by
  constructor
  · rintro ⟨⟩
    exact ⟨rfl, rfl⟩
  · rintro ⟨rfl, rfl⟩
    exact .ret a

theorem path_op_iff {o : Op γ} {k : γ → Prog Op α} {l : List (Step Op)} {a : α} :
    Path (Prog.op o k) l a ↔ ∃ b l', l = ⟨o, b⟩ :: l' ∧ Path (k b) l' a := by
  constructor
  · rintro ⟨⟩
    exact ⟨_, _, rfl, ‹_›⟩
  · rintro ⟨b, l', rfl, h⟩
    exact .op h

/-- A way through a composition is a way through its first half followed by one through the
second. -/
theorem path_bind_iff {f : α → Prog Op β} {b : β} :
    ∀ {x : Prog Op α} {l : List (Step Op)}, Path (x >>= f) l b ↔
      ∃ l₁ a l₂, l = l₁ ++ l₂ ∧ Path x l₁ a ∧ Path (f a) l₂ b
  | .ret a, l => by
      simp only [ret_bind, path_ret_iff]
      constructor
      · exact fun h => ⟨[], a, l, rfl, ⟨rfl, rfl⟩, h⟩
      · rintro ⟨_, _, l₂, rfl, ⟨rfl, rfl⟩, h⟩
        exact h
  | .op o k, l => by
      simp only [op_bind, path_op_iff]
      constructor
      · rintro ⟨c, l', rfl, h⟩
        obtain ⟨l₁, a, l₂, rfl, h₁, h₂⟩ := path_bind_iff.mp h
        exact ⟨⟨o, c⟩ :: l₁, a, l₂, rfl, ⟨c, l₁, rfl, h₁⟩, h₂⟩
      · rintro ⟨_, a, l₂, rfl, ⟨c, l₁, rfl, h₁⟩, h₂⟩
        exact ⟨c, l₁ ++ l₂, rfl, path_bind_iff.mpr ⟨l₁, a, l₂, rfl, h₁, h₂⟩⟩

/-- Along a path whose answers satisfy the assumption, all steps are permitted and the returned
value is as announced. -/
theorem Path.every {A : ∀ β : Type, Op β → β → Prop} {P : ∀ β : Type, Op β → Prop}
    {Q : α → Prop} {x : Prog Op α} {l : List (Step Op)} {a : α} (h : Path x l a)
    (hx : x.Every A P Q) (hl : ∀ s ∈ l, A _ s.op s.answer) :
    (∀ s ∈ l, P _ s.op) ∧ Q a := by
  induction h with
  | ret a => exact ⟨fun s hs => absurd hs List.not_mem_nil, hx⟩
  | op h ih =>
      obtain ⟨hP, hQ⟩ := ih (hx.2 _ (hl _ List.mem_cons_self))
        fun s hs => hl s (List.mem_cons_of_mem _ hs)
      refine ⟨fun s hs => ?_, hQ⟩
      rcases List.mem_cons.mp hs with rfl | hs
      · exact hx.1
      · exact hP s hs

end Prog

/-! ## Programs that can fail -/

/-- A program that returns a value or an error; an error ends it. -/
abbrev Call (Op : Type → Type 1) (ε α : Type) : Type 1 := ExceptT ε (Prog Op) α

namespace Call

variable {Op : Type → Type 1} {ε ε' α β : Type}

/-- The program underneath, returning an `Except`. -/
def prog (x : Call Op ε α) : Prog Op (Except ε α) := x

/-- Perform an operation that cannot fail. -/
def perform (o : Op α) : Call Op ε α := ExceptT.lift (Prog.perform o)

/-- Perform an operation whose answer may be an error. -/
def attempt (o : Op (Except ε α)) : Call Op ε α := ExceptT.mk (Prog.perform o)

/-- The program, with its result handed over instead of ending the caller on an error. -/
def result (x : Call Op ε α) : Call Op ε' (Except ε α) := ExceptT.lift x.prog

/-- Translate the error a program ends with. -/
def mapErr (g : ε → ε') (x : Call Op ε α) : Call Op ε' α :=
  ExceptT.mk (x.prog >>= fun r => .ret (r.mapError g))

/-- End with the error unless the condition holds. -/
def ensure (ok : Bool) (e : ε) : Call Op ε Unit := if ok then pure () else throw e

/-- Run the body on every element and append what it returns. -/
def concatMap (f : α → Call Op ε (List β)) : List α → Call Op ε (List β)
  | [] => pure []
  | a :: as => do
    let bs ← f a
    let rest ← concatMap f as
    pure (bs ++ rest)

theorem prog_bind (x : Call Op ε α) (f : α → Call Op ε β) :
    (x >>= f).prog = x.prog >>= fun r => match r with
      | .ok a => (f a).prog
      | .error e => .ret (.error e) := rfl

/-- What follows a call whose error is translated. -/
def andThen (m : ε → ε') (f : α → Call Op ε' β) : Except ε α → Prog Op (Except ε' β)
  | .ok a => (f a).prog
  | .error e => .ret (.error (m e))

theorem prog_mapErr_bind (m : ε → ε') (x : Call Op ε α) (f : α → Call Op ε' β) :
    (mapErr m x >>= f).prog = x.prog >>= andThen m f := by
  refine (Prog.bind_assoc _ _ x.prog).trans ?_
  refine congrArg (Prog.bind x.prog) (funext fun r => ?_)
  cases r <;> rfl

theorem mapErr_bind (m : ε → ε') (x : Call Op ε α) (f : α → Call Op ε β) :
    mapErr m (x >>= f) = mapErr m x >>= fun a => mapErr m (f a) := by
  refine Eq.trans ?_ (prog_mapErr_bind m x fun a => mapErr m (f a)).symm
  refine (Prog.bind_assoc _ _ x.prog).trans ?_
  refine congrArg (Prog.bind x.prog) (funext fun r => ?_)
  cases r <;> rfl

theorem mapErr_mapErr {ε'' : Type} (g : ε → ε') (h : ε' → ε'') (x : Call Op ε α) :
    mapErr h (mapErr g x) = mapErr (h ∘ g) x := by
  refine (Prog.bind_assoc _ _ x.prog).trans ?_
  refine congrArg (Prog.bind x.prog) (funext fun r => ?_)
  cases r <;> rfl

/-- Errors satisfy `E` and returned values `Q`. -/
def Outcome (E : ε → Prop) (Q : α → Prop) : Except ε α → Prop
  | .ok a => Q a
  | .error e => E e

/-- Every operation satisfies `P`, every error `E` and every returned value `Q`. -/
def Every (A : ∀ β : Type, Op β → β → Prop) (P : ∀ β : Type, Op β → Prop) (E : ε → Prop)
    (Q : α → Prop) (x : Call Op ε α) : Prop :=
  x.prog.Every A P (Outcome E Q)

section Every

variable {A A' : ∀ β : Type, Op β → β → Prop} {P P' : ∀ β : Type, Op β → Prop}
  {E : ε → Prop} {E' : ε' → Prop} {Q : α → Prop} {R : β → Prop}

theorem every_pure {a : α} (h : Q a) : (pure a : Call Op ε α).Every A P E Q := h

theorem every_throw {e : ε} (h : E e) : (throw e : Call Op ε α).Every A P E Q := h

theorem every_bind {x : Call Op ε α} {f : α → Call Op ε β} (hx : x.Every A P E Q)
    (hf : ∀ a, Q a → (f a).Every A P E R) : (x >>= f).Every A P E R := by
  rw [Every, prog_bind]
  refine Prog.Every.bind (fun r hr => ?_) hx
  cases r with
  | ok a => exact hf a hr
  | error e => exact hr

theorem every_attempt {o : Op (Except ε α)} (hP : P _ o) (hE : ∀ e, A _ o (.error e) → E e)
    (hQ : ∀ a, A _ o (.ok a) → Q a) : (attempt o).Every A P E Q := by
  refine ⟨hP, fun r hr => ?_⟩
  cases r with
  | ok a => exact hQ a hr
  | error e => exact hE e hr

theorem every_perform {o : Op α} (hP : P _ o) (hQ : ∀ a, A _ o a → Q a) :
    (perform o : Call Op ε α).Every A P E Q :=
  ⟨hP, hQ⟩

theorem every_mapErr {g : ε → ε'} {x : Call Op ε α} (h : x.Every A P (fun e => E' (g e)) Q) :
    (mapErr g x).Every A P E' Q := by
  refine Prog.Every.bind (fun r hr => ?_) h
  cases r with
  | ok a => exact hr
  | error e => exact hr

theorem every_result {x : Call Op ε α} (h : x.Every A P E Q) :
    (result x : Call Op ε' (Except ε α)).Every A P E' (Outcome E Q) := by
  refine Prog.Every.bind (fun r hr => ?_) h
  exact hr

theorem every_ensure {c : Bool} {e : ε} {Q : Unit → Prop} (hE : c = false → E e)
    (hQ : c = true → Q ()) : (ensure c e : Call Op ε Unit).Every A P E Q := by
  cases c with
  | true => exact hQ rfl
  | false => exact hE rfl

theorem every_ensure_true {c : Bool} {e : ε} (hE : E e) :
    (ensure c e : Call Op ε Unit).Every A P E fun _ => c = true :=
  every_ensure (fun _ => hE) fun h => h

theorem every_ite {c : Prop} [Decidable c] {x y : Call Op ε α} (hx : c → x.Every A P E Q)
    (hy : ¬ c → y.Every A P E Q) : (if c then x else y).Every A P E Q := by
  split
  · exact hx ‹_›
  · exact hy ‹_›

theorem every_forM {f : α → Call Op ε PUnit} :
    ∀ {l : List α}, (∀ a ∈ l, (f a).Every A P E fun _ => True) →
      (l.forM f).Every A P E fun _ => True
  | [], _ => every_pure trivial
  | a :: _, h => every_bind (h a List.mem_cons_self) fun _ _ =>
      every_forM fun b hb => h b (List.mem_cons_of_mem a hb)

theorem every_concatMap {f : α → Call Op ε (List β)} :
    ∀ {l : List α}, (∀ a ∈ l, (f a).Every A P E fun _ => True) →
      (concatMap f l).Every A P E fun _ => True
  | [], _ => every_pure trivial
  | a :: _, h => every_bind (h a List.mem_cons_self) fun _ _ =>
      every_bind (every_concatMap fun b hb => h b (List.mem_cons_of_mem a hb))
        fun _ _ => every_pure trivial

theorem Every.mono {E₂ : ε → Prop} {R : α → Prop} {x : Call Op ε α} (h : x.Every A P E Q)
    (hA : ∀ β (o : Op β) b, A' β o b → A β o b) (hP : ∀ β (o : Op β), P β o → P' β o)
    (hE : ∀ e, E e → E₂ e) (hQ : ∀ a, Q a → R a) : x.Every A' P' E₂ R := by
  refine Prog.Every.mono hA hP (fun r hr => ?_) h
  cases r with
  | ok a => exact hQ a hr
  | error e => exact hE e hr

theorem Every.and {E₂ : ε → Prop} {R : α → Prop} {x : Call Op ε α} (h : x.Every A P E Q)
    (h' : x.Every A P E₂ R) : x.Every A P (fun e => E e ∧ E₂ e) fun a => Q a ∧ R a := by
  refine Prog.Every.mono (fun _ _ _ h => h) (fun _ _ h => h) (fun r hr => ?_) (Prog.Every.and h h')
  cases r with
  | ok a => exact hr
  | error e => exact hr

end Every

end Call

end TxnLib
