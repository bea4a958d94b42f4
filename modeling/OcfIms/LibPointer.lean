import Mathlib

/-!
# A pointer that is moved by many

One pointer names a file. Any number of participants move it at once: each looks where it points,
writes a file of its own, moves the pointer there, and drops the file it looked at; or it clears the
pointer and drops the file. Any of them may stop at any time.

No participant knows of the others, so one may drop a file that another is about to drop, and some
files are left behind. But as long as each writes a name that nobody else uses, the pointer never
names a file that is gone: a file is written before the pointer moves to it, the pointer has moved
away before a file is dropped, and it never moves to the same name twice.
-/

namespace PointerLib

variable {ι N : Type}

/-- How far a participant is; from its look on, it knows where the pointer was. -/
inductive Phase (N : Type)
  | start
  | looked (old : Option N)
  | written (old : Option N)
  | moved (old : Option N)
  | done
  deriving DecidableEq, Repr

/-- The participant has moved the pointer, or will not any more. -/
def Phase.past : Phase N → Prop
  | .moved _ => True
  | .done => True
  | _ => False

structure Pointed (ι N : Type) where
  pointer : Option N
  files : Set N
  phase : ι → Phase N

/-- A step of a participant; `own` are the names the participants write, none where the participant
clears the pointer. -/
inductive Step [DecidableEq ι] (own : ι → Option N) (s : Pointed ι N) : Pointed ι N → Prop
  | look (i : ι) (h : s.phase i = .start) :
      Step own s { s with phase := Function.update s.phase i (.looked s.pointer) }
  | write (i : ι) {old : Option N} {n : N} (h : s.phase i = .looked old) (hn : own i = some n) :
      Step own s
        { s with files := insert n s.files, phase := Function.update s.phase i (.written old) }
  | move (i : ι) {old : Option N} (h : s.phase i = .written old) :
      Step own s
        { s with pointer := own i, phase := Function.update s.phase i (.moved old) }
  | clear (i : ι) {old : Option N} (h : s.phase i = .looked old) :
      Step own s { s with pointer := none, phase := Function.update s.phase i (.moved old) }
  | drop (i : ι) {f : N} {files : Set N} (h : s.phase i = .moved (some f))
      (hfiles : ∀ n ∈ s.files, n ≠ f → n ∈ files) :
      Step own s { s with files, phase := Function.update s.phase i .done }
  | stop (i : ι) : Step own s { s with phase := Function.update s.phase i .done }

/-- The name is the first one, or one whose owner has moved the pointer. -/
def Former (own : ι → Option N) (first : Option N) (s : Pointed ι N) (n : N) : Prop :=
  first = some n ∨ ∃ i, own i = some n ∧ (s.phase i).past

/-- What a participant may rely on: what it looked at is a former name, its own file is there until it
moves the pointer, and the pointer does not come back to what it moved away from. -/
def Relies (own : ι → Option N) (first : Option N) (s : Pointed ι N) (i : ι) : Phase N → Prop
  | .looked old => ∀ n, old = some n → Former own first s n
  | .written old => (∀ n, old = some n → Former own first s n) ∧ ∀ n, own i = some n → n ∈ s.files
  | .moved old => ∀ n, old = some n → Former own first s n ∧ s.pointer ≠ some n
  | _ => True

/-- What holds at any time: the pointer names a file that is there and that its owner is done with. -/
structure Sound (own : ι → Option N) (first : Option N) (s : Pointed ι N) : Prop where
  pointer : ∀ n, s.pointer = some n → n ∈ s.files ∧ Former own first s n
  relies : ∀ i, Relies own first s i (s.phase i)

/-- The names are not used by anyone else: not by another participant, and not at the start. -/
structure Fresh (own : ι → Option N) (first : Option N) : Prop where
  others : ∀ i j n, own i = some n → own j = some n → i = j
  start : ∀ i n, own i = some n → first ≠ some n

section Steps

variable {own : ι → Option N} {first : Option N} {s s' : Pointed ι N} {i : ι}

/-- A participant's own name is not a former one until it moves the pointer. -/
theorem Fresh.not_former (hfresh : Fresh own first) {n : N} (hn : own i = some n)
    (hi : ¬ (s.phase i).past) : ¬ Former own first s n := by
  rintro (h | ⟨j, hj, hpast⟩)
  · exact hfresh.start i n hn h
  · exact hi (hfresh.others i j n hn hj ▸ hpast)

variable [DecidableEq ι]

/-- The participant goes on to `φ`, where the pointer and the files are these. -/
def Pointed.advance (s : Pointed ι N) (i : ι) (φ : Phase N) (pointer : Option N) (files : Set N) :
    Pointed ι N :=
  ⟨pointer, files, Function.update s.phase i φ⟩

variable {φ : Phase N} {pointer : Option N} {files : Set N}

theorem advance_phase_self : (s.advance i φ pointer files).phase i = φ :=
  show Function.update s.phase i φ i = φ from Function.update_self i φ s.phase

theorem advance_phase_of_ne {j : ι} (h : j ≠ i) :
    (s.advance i φ pointer files).phase j = s.phase j :=
  show Function.update s.phase i φ j = s.phase j from Function.update_of_ne h φ s.phase

/-- Former names stay former, as no participant goes back. -/
theorem Former.advance {n : N} (h : Former own first s n) (hφ : (s.phase i).past → φ.past) :
    Former own first (s.advance i φ pointer files) n := by
  rcases h with h | ⟨j, hj, hpast⟩
  · exact .inl h
  · refine .inr ⟨j, hj, ?_⟩
    by_cases hji : j = i
    · subst hji
      rw [advance_phase_self]
      exact hφ hpast
    · rwa [advance_phase_of_ne hji]

/-- What the others rely on, they rely on after a step that keeps their files and brings back no former
name. -/
theorem Sound.advance (h : Sound own first s) (hφ : (s.phase i).past → φ.past)
    (hfiles : ∀ j n, own j = some n → ¬ (s.phase j).past → n ∈ s.files → n ∈ files)
    (hpointer : ∀ n, Former own first s n → s.pointer ≠ some n → pointer ≠ some n)
    (hpresent : ∀ n, pointer = some n → n ∈ files ∧
      Former own first (s.advance i φ pointer files) n)
    (hi : Relies own first (s.advance i φ pointer files) i φ) :
    Sound own first (s.advance i φ pointer files) := by
  refine ⟨hpresent, fun j => ?_⟩
  by_cases hji : j = i
  · subst hji
    rwa [advance_phase_self]
  rw [advance_phase_of_ne hji]
  have hj := h.relies j
  cases hphase : s.phase j with
  | start => trivial
  | looked old =>
      rw [hphase] at hj
      exact fun n hn => (hj n hn).advance hφ
  | written old =>
      rw [hphase] at hj
      refine ⟨fun n hn => (hj.1 n hn).advance hφ, fun n hn => hfiles j n hn ?_ (hj.2 n hn)⟩
      rw [hphase]
      exact id
  | moved old =>
      rw [hphase] at hj
      exact fun n hn => ⟨(hj n hn).1.advance hφ, hpointer n (hj n hn).1 (hj n hn).2⟩
  | done => trivial

/-- **The pointer never dangles.** Every step of every participant keeps what holds. -/
theorem Sound.step (h : Sound own first s) (hfresh : Fresh own first) (hs : Step own s s') :
    Sound own first s' := by
  cases hs with
  | look i hi =>
      have hφ : (s.phase i).past → (Phase.looked s.pointer).past := fun h => by rw [hi] at h; exact h
      exact h.advance hφ (fun _ _ _ _ hn => hn) (fun _ _ hne => hne)
        (fun n hn => ⟨(h.pointer n hn).1, (h.pointer n hn).2.advance hφ⟩)
        fun n hn => (h.pointer n hn).2.advance hφ
  | @write i old n hi hn =>
      have hφ : (s.phase i).past → (Phase.written old).past := fun h => by rw [hi] at h; exact h
      have hold := h.relies i
      rw [hi] at hold
      refine h.advance hφ (fun _ _ _ _ hm => .inr hm) (fun _ _ hne => hne)
        (fun m hm => ⟨.inr (h.pointer m hm).1, (h.pointer m hm).2.advance hφ⟩)
        ⟨fun m hm => (hold m hm).advance hφ, fun m hm => ?_⟩
      exact .inl (Option.some.inj (hm.symm.trans hn))
  | @move i old hi =>
      have hφ : (s.phase i).past → (Phase.moved old).past := fun _ => trivial
      have hpast : ¬ (s.phase i).past := by rw [hi]; exact id
      have hold := h.relies i
      rw [hi] at hold
      refine h.advance hφ (fun _ _ _ _ hm => hm)
        (fun m hm _ hown => hfresh.not_former hown hpast hm)
        (fun m hm => ⟨hold.2 m hm, .inr ⟨i, hm, ?_⟩⟩)
        fun m hm => ⟨(hold.1 m hm).advance hφ,
          fun hown => hfresh.not_former hown hpast (hold.1 m hm)⟩
      exact advance_phase_self (s := s) ▸ trivial
  | @clear i old hi =>
      have hφ : (s.phase i).past → (Phase.moved old).past := fun _ => trivial
      have hold := h.relies i
      rw [hi] at hold
      exact h.advance hφ (fun _ _ _ _ hm => hm) (fun _ _ _ hm => nomatch hm)
        (fun _ hm => nomatch hm) fun m hm => ⟨(hold m hm).advance hφ, fun hm => nomatch hm⟩
  | @drop i f files hi hfiles =>
      have hφ : (s.phase i).past → (Phase.done : Phase N).past := fun _ => trivial
      have hf := h.relies i
      rw [hi] at hf
      obtain ⟨hformer, haway⟩ := hf f rfl
      refine h.advance hφ (fun j n hn hpast hmem => hfiles n hmem ?_) (fun _ _ hne => hne)
        (fun n hn => ⟨hfiles n (h.pointer n hn).1 ?_, (h.pointer n hn).2.advance hφ⟩) trivial
      · rintro rfl
        exact hfresh.not_former hn hpast hformer
      · rintro rfl
        exact haway hn
  | stop i =>
      have hφ : (s.phase i).past → (Phase.done : Phase N).past := fun _ => trivial
      exact h.advance hφ (fun _ _ _ _ hn => hn) (fun _ _ hne => hne)
        (fun n hn => ⟨(h.pointer n hn).1, (h.pointer n hn).2.advance hφ⟩) trivial

end Steps

/-- Nobody has started, and the pointer names a file that is there, or nothing. -/
theorem sound_start {own : ι → Option N} {first : Option N} {files : Set N}
    (h : ∀ n, first = some n → n ∈ files) :
    Sound own first (⟨first, files, fun _ => .start⟩ : Pointed ι N) :=
  ⟨fun n hn => ⟨h n hn, .inl hn⟩, fun _ => trivial⟩

end PointerLib
