import OcfIms.LibRun

/-!
# Optimistic edits

A copy of some data is edited before the edits are accepted: each save changes the copy when it
starts, and if it is refused later it puts back what it finds it has changed. Any number of saves
may be under way, and they are settled in any order.

What a save puts back it has read from the copy as it stood when the save started. That takes back
the save and nothing else, if it is only the save's own part of the copy. If it is more than that,
what has happened to the rest meanwhile is lost; it is right then only where nothing has.
-/

namespace OptimisticLib

open RunLib

variable {C V E : Type}

/-- The edits of a copy: what one does to it, what a refusal puts back, and both as they are seen by
those who read the copy. Two edits that conflict are not under way together; an edit that overwrites
another puts back, when it is refused, what the other has changed as well. -/
structure Edits (C V E : Type) where
  see : C → V
  apply : E → C → C
  restore : E → C → C → C
  act : E → V → V
  undo : E → V → V → V
  /-- What the edit finds, it can put back. -/
  faithful : E → C → Bool
  conflict : E → E → Bool
  overwrites : E → E → Bool
  see_apply : ∀ e c, see (apply e c) = act e (see c)
  see_restore : ∀ e p c, faithful e p = true → see (restore e p c) = undo e (see p) (see c)
  undo_act : ∀ e u v, undo e u (act e v) = undo e u v
  undo_self : ∀ e p, faithful e p = true → undo e (see p) (see p) = see p
  undo_act_comm : ∀ e t u v, conflict e t = false → overwrites e t = false →
    undo e u (act t v) = act t (undo e u v)
  undo_comm : ∀ e t u u' v, conflict e t = false → overwrites e t = false →
    overwrites t e = false → undo e u (undo t u' v) = undo t u' (undo e u v)

inductive Status
  | inFlight
  | saved
  | refused
  deriving DecidableEq, Repr

/-- A save: its edit, the copy as it found it, and how it stands. `inForce` remembers which of the
earlier saves had not been refused when it started; only statements look at it. -/
structure Save (C E : Type) where
  edit : E
  previous : C
  status : Status := .inFlight
  inForce : Nat → Bool

/-- The save has not been refused. -/
def Save.held (s : Save C E) : Bool := s.status != .refused

/-- The copy, and the saves in the order they started. -/
structure Editor (C E : Type) where
  cache : C
  saves : List (Save C E) := []

inductive Action (E : Type)
  | start (e : E)
  | settle (n : Nat) (ok : Bool)
  deriving Repr

namespace Edits

variable (O : Edits C V E)

/-- A save starts, unless one in flight conflicts with it; one that is in flight is accepted or
refused. -/
def step (sys : Editor C E) : Action E → Option (Editor C E)
  | .start e =>
    if sys.saves.any fun s => s.status == .inFlight && O.conflict s.edit e then none
    else some
      { cache := O.apply e sys.cache
        saves := sys.saves ++
          [{ edit := e
             previous := sys.cache
             inForce := fun k => (sys.saves[k]?).any Save.held }] }
  | .settle n ok =>
    match sys.saves[n]? with
    | none => none
    | some s =>
      if s.status != .inFlight then none
      else if ok then some { sys with saves := sys.saves.set n { s with status := .saved } }
      else some
        { cache := O.restore s.edit s.previous sys.cache
          saves := sys.saves.set n { s with status := .refused } }

/-- The edits of the saves that have not been refused, in the order they started. -/
def inForce (saves : List (Save C E)) : List E := (saves.filter Save.held).map Save.edit

def replay (l : List E) (v : V) : V := l.foldl (fun v e => O.act e v) v

/-- Of the earlier saves that would be overwritten, none has been refused since the save started. -/
def Unmoved (saves : List (Save C E)) (n : Nat) (s : Save C E) : Prop :=
  ∀ k, k < n → ∀ p ∈ saves[k]?, O.overwrites s.edit p.edit = true → p.held = s.inForce k

instance (saves : List (Save C E)) (n : Nat) (s : Save C E) : Decidable (O.Unmoved saves n s) :=
  inferInstanceAs (Decidable (∀ k, k < n → ∀ p ∈ saves[k]?, _ → _))

/-- The save at `n` can be taken back alone: it can put back what it found, and of the saves it
would overwrite, those in force are those that were in force when it started. -/
def Undisturbed (saves : List (Save C E)) (n : Nat) (s : Save C E) : Prop :=
  O.faithful s.edit s.previous = true ∧ O.Unmoved saves n s ∧
    ∀ t ∈ saves.drop (n + 1), O.overwrites s.edit t.edit = true → t.held = false

instance (saves : List (Save C E)) (n : Nat) (s : Save C E) :
    Decidable (O.Undisturbed saves n s) :=
  inferInstanceAs (Decidable (_ ∧ _ ∧ _))

/-- A save that is refused can be taken back alone. -/
def Clean (sys : Editor C E) : Action E → Prop
  | .settle n false => ∀ s ∈ sys.saves[n]?, O.Undisturbed sys.saves n s
  | _ => True

instance (sys : Editor C E) : ∀ a : Action E, Decidable (O.Clean sys a)
  | .settle n false => inferInstanceAs (Decidable (∀ s ∈ sys.saves[n]?, _))
  | .settle _ true => isTrue trivial
  | .start _ => isTrue trivial

/-! ## The list of the saves -/

section Lists

variable {saves : List (Save C E)} {s x : Save C E} {n i : Nat}

theorem inForce_append (l l' : List (Save C E)) : inForce (l ++ l') = inForce l ++ inForce l' := by
  rw [inForce, List.filter_append, List.map_append]
  rfl

theorem inForce_cons (l : List (Save C E)) :
    inForce (s :: l) = if s.held then s.edit :: inForce l else inForce l := by
  rw [inForce, List.filter_cons]
  split <;> rfl

/-- The saves before `i`, split at an earlier one. -/
theorem take_eq (h : saves[n]? = some x) (hi : n < i) (y : Save C E) :
    ∃ rest, (∀ t ∈ rest, ∃ k, n < k ∧ k < i ∧ saves[k]? = some t) ∧
      saves.take i = saves.take n ++ x :: rest ∧
      (saves.set n y).take i = saves.take n ++ y :: rest := by
  obtain ⟨hn, rfl⟩ := List.getElem?_eq_some_iff.mp h
  obtain ⟨m, rfl⟩ : ∃ m, i = n + 1 + m := ⟨i - (n + 1), by omega⟩
  have hsplit : saves = saves.take n ++ saves[n] :: saves.drop (n + 1) := by
    rw [← List.drop_eq_getElem_cons hn, List.take_append_drop]
  have hset : saves.set n y = saves.take n ++ y :: saves.drop (n + 1) :=
    List.set_eq_take_append_cons_drop.trans (if_pos hn)
  have hlen : (saves.take n).length = n := by
    rw [List.length_take]
    omega
  have htake : ∀ z, (saves.take n ++ z :: saves.drop (n + 1)).take (n + 1 + m) =
      saves.take n ++ z :: (saves.drop (n + 1)).take m := by
    intro z
    rw [List.take_append, List.take_of_length_le (by omega), hlen,
      show n + 1 + m - n = m + 1 by omega, List.take_succ_cons]
  refine ⟨(saves.drop (n + 1)).take m, fun t ht => ?_, ?_, ?_⟩
  · obtain ⟨j, hj, hget⟩ := List.mem_iff_getElem.mp ht
    rw [List.length_take] at hj
    refine ⟨n + 1 + j, by omega, by omega, ?_⟩
    rw [List.getElem_take, List.getElem_drop] at hget
    exact List.getElem?_eq_some_iff.mpr ⟨_, hget⟩
  · exact (congrArg (List.take (n + 1 + m)) hsplit).trans (htake _)
  · rw [hset]
    exact htake y

theorem getElem?_set_cases {y : Save C E} (h : (saves.set n y)[i]? = some s) :
    (i = n ∧ s = y) ∨ (i ≠ n ∧ saves[i]? = some s) := by
  by_cases hi : i = n
  · subst hi
    rw [List.getElem?_set_self'] at h
    cases hget : saves[i]? with
    | none =>
        rw [hget] at h
        cases h
    | some z =>
        rw [hget] at h
        exact Or.inl ⟨rfl, (Option.some.inj h).symm⟩
  · rw [List.getElem?_set_ne (Ne.symm hi)] at h
    exact Or.inr ⟨hi, h⟩

theorem getElem?_append_cases {y : Save C E} (h : (saves ++ [y])[i]? = some s) :
    (i = saves.length ∧ s = y) ∨ (i < saves.length ∧ saves[i]? = some s) := by
  rw [List.getElem?_append] at h
  split at h
  · exact Or.inr ⟨‹_›, h⟩
  · rename_i hi
    obtain ⟨hlt, hget⟩ := List.getElem?_eq_some_iff.mp h
    rw [List.length_singleton] at hlt
    refine Or.inl ⟨by omega, ?_⟩
    rw [List.getElem_singleton] at hget
    exact hget.symm

/-- A save that is accepted stays in force. -/
theorem inForce_take_set {y : Save C E} (h : saves[n]? = some x) (hedit : y.edit = x.edit)
    (hheld : y.held = x.held) (i : Nat) :
    inForce ((saves.set n y).take i) = inForce (saves.take i) := by
  by_cases hi : n < i
  · obtain ⟨rest, -, htake, hset⟩ := take_eq h hi y
    rw [htake, hset, inForce_append, inForce_append, inForce_cons, inForce_cons, hedit, hheld]
  · rw [List.take_set_of_le (by omega)]

end Lists

/-! ## What the copy is seen to be -/

theorem replay_append (l l' : List E) (v : V) :
    O.replay (l ++ l') v = O.replay l' (O.replay l v) :=
  List.foldl_append

/-- Taking back an edit after others that it neither conflicts with nor overwrites. -/
theorem undo_replay {e : E} {u v : V} {later : List E}
    (hconflict : ∀ t ∈ later, O.conflict e t = false)
    (hoverwrites : ∀ t ∈ later, O.overwrites e t = false) (hbase : O.undo e u v = v) :
    O.undo e u (O.replay later (O.act e v)) = O.replay later v := by
  have hlater : ∀ w, O.undo e u (O.replay later w) = O.replay later (O.undo e u w) := by
    clear hbase
    induction later with
    | nil => exact fun _ => rfl
    | cons t later ih =>
        intro w
        change O.undo e u (O.replay later (O.act t w)) =
          O.replay later (O.act t (O.undo e u w))
        rw [ih (fun t' h => hconflict t' (List.mem_cons_of_mem t h))
            (fun t' h => hoverwrites t' (List.mem_cons_of_mem t h)),
          O.undo_act_comm e t u w (hconflict t List.mem_cons_self)
            (hoverwrites t List.mem_cons_self)]
  rw [hlater, O.undo_act, hbase]

/-- The copy is seen with the edits in force; and a save in flight that can be taken back alone
would find, without its own edit, what it found when it started. -/
structure Inv (v₀ : V) (sys : Editor C E) : Prop where
  seen : O.see sys.cache = O.replay (inForce sys.saves) v₀
  apart : ∀ (i j : Nat) (s t : Save C E), i < j → sys.saves[i]? = some s → sys.saves[j]? = some t →
    s.status = .inFlight → O.conflict s.edit t.edit = false
  known : ∀ (i j : Nat) (s t : Save C E), i < j → sys.saves[i]? = some s → sys.saves[j]? = some t →
    s.status = .inFlight → t.inForce i = true
  base : ∀ (i : Nat) (s : Save C E), sys.saves[i]? = some s → s.status = .inFlight →
    O.faithful s.edit s.previous = true → O.Unmoved sys.saves i s →
      O.undo s.edit (O.see s.previous) (O.replay (inForce (sys.saves.take i)) v₀) =
        O.replay (inForce (sys.saves.take i)) v₀

variable {O}

theorem held_of_inFlight {s : Save C E} (h : s.status = .inFlight) : s.held = true := by
  rw [Save.held, h]
  rfl

section Steps

variable {v₀ : V} {sys sys' : Editor C E} {s x : Save C E} {n i : Nat}

theorem Inv.start (h : O.Inv v₀ sys) {e : E} (hs : O.step sys (.start e) = some sys') :
    O.Inv v₀ sys' := by
  rw [step] at hs
  split at hs
  · cases hs
  rename_i hfree
  cases hs
  have hapart : ∀ (i : Nat) (s : Save C E), sys.saves[i]? = some s → s.status = .inFlight →
      O.conflict s.edit e = false := by
    intro i s hi hfl
    by_contra hconf
    refine hfree (List.any_eq_true.mpr ⟨s, List.mem_of_getElem? hi, ?_⟩)
    rw [hfl, (Bool.not_eq_false _).mp hconf]
    rfl
  refine ⟨?_, fun i j s t hij hi hj hfl => ?_, fun i j s t hij hi hj hfl => ?_,
    fun i s hi hfl hfaith hmoved => ?_⟩
  · rw [O.see_apply, h.seen, inForce_append, replay_append]
    rfl
  · rcases getElem?_append_cases hi with ⟨rfl, rfl⟩ | ⟨hilt, hi⟩
    · rcases getElem?_append_cases hj with ⟨rfl, -⟩ | ⟨hjlt, -⟩ <;> omega
    · rcases getElem?_append_cases hj with ⟨-, rfl⟩ | ⟨-, hj⟩
      · exact hapart i s hi hfl
      · exact h.apart i j s t hij hi hj hfl
  · rcases getElem?_append_cases hi with ⟨rfl, rfl⟩ | ⟨hilt, hi⟩
    · rcases getElem?_append_cases hj with ⟨rfl, -⟩ | ⟨hjlt, -⟩ <;> omega
    · rcases getElem?_append_cases hj with ⟨-, rfl⟩ | ⟨-, hj⟩
      · dsimp only
        rw [hi]
        exact held_of_inFlight hfl
      · exact h.known i j s t hij hi hj hfl
  · rcases getElem?_append_cases hi with ⟨rfl, rfl⟩ | ⟨hilt, hi⟩
    · rw [List.take_left, ← h.seen]
      exact O.undo_self e sys.cache hfaith
    · dsimp only
      rw [List.take_append_of_le_length (Nat.le_of_lt hilt)]
      refine h.base i s hi hfl hfaith fun k hk p hp => hmoved k hk p ?_
      rwa [List.getElem?_append_left (by omega)]

theorem Inv.saved (h : O.Inv v₀ sys) (hx : sys.saves[n]? = some x) (hfl : x.status = .inFlight) :
    O.Inv v₀ { sys with saves := sys.saves.set n { x with status := .saved } } := by
  let y : Save C E := { x with status := .saved }
  have hheld : y.held = x.held := (held_of_inFlight hfl).symm
  have hother : ∀ (i : Nat) (s : Save C E), (sys.saves.set n y)[i]? = some s →
      s.status = .inFlight → sys.saves[i]? = some s := by
    intro i s hi hfl
    rcases getElem?_set_cases hi with ⟨-, rfl⟩ | ⟨-, hi⟩
    · cases hfl
    · exact hi
  have hlike : ∀ (j : Nat) (t : Save C E), (sys.saves.set n y)[j]? = some t →
      ∃ t', sys.saves[j]? = some t' ∧ t.edit = t'.edit ∧ t.inForce = t'.inForce := by
    intro j t hj
    rcases getElem?_set_cases hj with ⟨rfl, rfl⟩ | ⟨-, hj⟩
    · exact ⟨x, hx, rfl, rfl⟩
    · exact ⟨t, hj, rfl, rfl⟩
  have htake := inForce_take_set hx (y := y) rfl hheld
  refine ⟨?_, fun i j s t hij hi hj hfl => ?_, fun i j s t hij hi hj hfl => ?_,
    fun i s hi hfl hfaith hmoved => ?_⟩
  · have hall := htake sys.saves.length
    rw [List.take_of_length_le (by simp), List.take_of_length_le (Nat.le_refl _)] at hall
    exact h.seen.trans (by rw [← hall])
  · obtain ⟨t', hj, hedit, -⟩ := hlike j t hj
    rw [hedit]
    exact h.apart i j s t' hij (hother i s hi hfl) hj hfl
  · obtain ⟨t', hj, -, hforce⟩ := hlike j t hj
    rw [hforce]
    exact h.known i j s t' hij (hother i s hi hfl) hj hfl
  · rw [htake]
    refine h.base i s (hother i s hi hfl) hfl hfaith fun k hk p hp hover => ?_
    by_cases hkn : k = n
    · subst hkn
      obtain rfl : x = p := Option.some.inj (hx.symm.trans hp)
      have hy : y ∈ (sys.saves.set k y)[k]? := by
        rw [List.getElem?_set_self']
        change y ∈ Option.map _ sys.saves[k]?
        rw [hx]
        rfl
      rw [← hheld]
      exact hmoved k hk y hy hover
    · exact hmoved k hk p (by rwa [List.getElem?_set_ne (Ne.symm hkn)]) hover

/-- Without the refused save, what was seen after the saves before `i` is what it puts back. -/
theorem Inv.undone (h : O.Inv v₀ sys) (hx : sys.saves[n]? = some x) (hfl : x.status = .inFlight)
    (hclean : O.Undisturbed sys.saves n x) (hi : n < i) :
    O.undo x.edit (O.see x.previous) (O.replay (inForce (sys.saves.take i)) v₀) =
      O.replay (inForce ((sys.saves.set n { x with status := .refused }).take i)) v₀ := by
  obtain ⟨hfaith, hmoved, hlater⟩ := hclean
  obtain ⟨rest, hrest, htake, hset⟩ := take_eq hx hi { x with status := .refused }
  have hgone : ({ x with status := .refused } : Save C E).held = false := rfl
  rw [htake, hset, inForce_append, inForce_append, inForce_cons, inForce_cons,
    held_of_inFlight hfl, hgone, if_pos rfl, if_neg Bool.false_ne_true, replay_append, replay_append]
  change O.undo _ _ (O.replay (inForce rest) (O.act x.edit _)) = _
  refine O.undo_replay (fun t ht => ?_) (fun t ht => ?_) (h.base n x hx hfl hfaith hmoved)
  · obtain ⟨y, hy, rfl⟩ := List.mem_map.mp ht
    obtain ⟨k, hnk, -, hk⟩ := hrest y (List.mem_filter.mp hy).1
    exact h.apart n k x y hnk hx hk hfl
  · obtain ⟨y, hy, rfl⟩ := List.mem_map.mp ht
    obtain ⟨hy, hheld⟩ := List.mem_filter.mp hy
    obtain ⟨k, hnk, -, hk⟩ := hrest y hy
    refine (Bool.not_eq_true _).mp fun hover => ?_
    refine Bool.false_ne_true ((hlater y ?_ hover).symm.trans hheld)
    refine List.mem_iff_getElem?.mpr ⟨k - (n + 1), ?_⟩
    rw [List.getElem?_drop, show n + 1 + (k - (n + 1)) = k by omega]
    exact hk

theorem Inv.refused (h : O.Inv v₀ sys) (hx : sys.saves[n]? = some x) (hfl : x.status = .inFlight)
    (hclean : O.Undisturbed sys.saves n x) :
    O.Inv v₀
      { cache := O.restore x.edit x.previous sys.cache
        saves := sys.saves.set n { x with status := .refused } } := by
  let y : Save C E := { x with status := .refused }
  have hn : n < sys.saves.length := (List.getElem?_eq_some_iff.mp hx).1
  have hother : ∀ (i : Nat) (s : Save C E), (sys.saves.set n y)[i]? = some s →
      s.status = .inFlight → i ≠ n ∧ sys.saves[i]? = some s := by
    intro i s hi hfl
    rcases getElem?_set_cases hi with ⟨-, rfl⟩ | hi
    · cases hfl
    · exact hi
  have hlike : ∀ (j : Nat) (t : Save C E), (sys.saves.set n y)[j]? = some t →
      ∃ t', sys.saves[j]? = some t' ∧ t.edit = t'.edit ∧ t.inForce = t'.inForce := by
    intro j t hj
    rcases getElem?_set_cases hj with ⟨rfl, rfl⟩ | ⟨-, hj⟩
    · exact ⟨x, hx, rfl, rfl⟩
    · exact ⟨t, hj, rfl, rfl⟩
  have hself : y ∈ (sys.saves.set n y)[n]? := by
    rw [List.getElem?_set_self']
    change y ∈ Option.map _ sys.saves[n]?
    rw [hx]
    rfl
  refine ⟨?_, fun i j s t hij hi hj hfl => ?_, fun i j s t hij hi hj hfl => ?_,
    fun i s hi hfl' hfaith hmoved => ?_⟩
  · have hall := h.undone hx hfl hclean hn
    rw [List.take_of_length_le (Nat.le_refl _), List.take_of_length_le (by simp)] at hall
    rw [O.see_restore _ _ _ hclean.1, h.seen]
    exact hall
  · obtain ⟨t', hj, hedit, -⟩ := hlike j t hj
    rw [hedit]
    exact h.apart i j s t' hij (hother i s hi hfl).2 hj hfl
  · obtain ⟨t', hj, -, hforce⟩ := hlike j t hj
    rw [hforce]
    exact h.known i j s t' hij (hother i s hi hfl).2 hj hfl
  · obtain ⟨hne, hi⟩ := hother i s hi hfl'
    dsimp only
    by_cases hni : n < i
    · -- The refused save started before this one, and was in force then.
      have hspared : O.overwrites s.edit x.edit = false := by
        refine (Bool.not_eq_true _).mp fun hover => ?_
        have hstill := hmoved n hni y hself hover
        rw [h.known n i x s hni hx hi hfl] at hstill
        exact Bool.false_ne_true hstill
      have hspares : O.overwrites x.edit s.edit = false := by
        refine (Bool.not_eq_true _).mp fun hover => ?_
        have hmem : s ∈ sys.saves.drop (n + 1) := by
          refine List.mem_iff_getElem?.mpr ⟨i - (n + 1), ?_⟩
          rw [List.getElem?_drop, show n + 1 + (i - (n + 1)) = i by omega]
          exact hi
        exact Bool.false_ne_true ((hclean.2.2 s hmem hover).symm.trans (held_of_inFlight hfl'))
      have hbase := h.base i s hi hfl' hfaith fun k hk p hp hover => by
        by_cases hkn : k = n
        · subst hkn
          obtain rfl : x = p := Option.some.inj (hx.symm.trans hp)
          exact absurd hover (by rw [hspared]; exact Bool.false_ne_true)
        · exact hmoved k hk p (by rwa [List.getElem?_set_ne (Ne.symm hkn)]) hover
      rw [← h.undone hx hfl hclean hni, ← O.undo_comm x.edit s.edit _ _ _
        (h.apart n i x s hni hx hi hfl) hspares hspared, hbase]
    · have htake : (sys.saves.set n y).take i = sys.saves.take i := List.take_set_of_le (by omega)
      rw [htake]
      refine h.base i s hi hfl' hfaith fun k hk p hp => hmoved k hk p ?_
      rwa [List.getElem?_set_ne (by omega)]

theorem Inv.step (h : O.Inv v₀ sys) {a : Action E} (hclean : O.Clean sys a)
    (hs : O.step sys a = some sys') : O.Inv v₀ sys' := by
  cases a with
  | start e => exact h.start hs
  | settle n ok =>
      rw [Edits.step] at hs
      split at hs
      · cases hs
      rename_i x hx
      split at hs
      · cases hs
      rename_i hstatus
      have hfl : x.status = .inFlight := by simpa using hstatus
      cases ok with
      | true =>
          cases hs
          exact h.saved hx hfl
      | false =>
          cases hs
          exact h.refused hx hfl (hclean x hx)

end Steps

/-! ## Runs -/

/-- No save is in flight. -/
def Settled (sys : Editor C E) : Prop := ∀ s ∈ sys.saves, s.status ≠ .inFlight

instance (sys : Editor C E) : Decidable (Settled sys) :=
  inferInstanceAs (Decidable (∀ s ∈ sys.saves, _))

/-- The edits of the saves that have been accepted, in the order they started. -/
def accepted (sys : Editor C E) : List E :=
  (sys.saves.filter fun s => s.status = .saved).map Save.edit

theorem inv_init (O : Edits C V E) (c : C) : O.Inv (O.see c) { cache := c } where
  seen := rfl
  apart _ _ _ _ _ hi := nomatch hi
  known _ _ _ _ _ hi := nomatch hi
  base _ _ hi := nomatch hi

/-- Where each refused save can be taken back alone, the copy is seen in the end as the accepted
edits alone would have left it. -/
theorem seen_of_run (O : Edits C V E) (c : C) {as : List (Action E)} {sys : Editor C E}
    (hrun : RunMeeting O.step O.Clean { cache := c } as sys) (hsettled : Settled sys) :
    O.see sys.cache = O.see ((accepted sys).foldl (fun c e => O.apply e c) c) := by
  have hinv : O.Inv (O.see c) sys :=
    hrun.invariant (I := fun _ sys => O.Inv (O.see c) sys) (inv_init O c)
      fun _ _ _ _ hI hC hs => hI.step hC hs
  have hheld : inForce sys.saves = accepted sys := by
    refine congrArg (List.map Save.edit) (List.filter_congr fun s hs => ?_)
    have hne := hsettled s hs
    rw [Save.held]
    cases hst : s.status with
    | inFlight => exact (hne hst).elim
    | saved => rfl
    | refused => rfl
  have hreplay : ∀ (l : List E) (c : C), O.see (l.foldl (fun c e => O.apply e c) c) =
      O.replay l (O.see c) := by
    intro l
    induction l with
    | nil => exact fun _ => rfl
    | cons e l ih =>
        intro c
        rw [List.foldl_cons, ih, O.see_apply]
        rfl
  rw [hinv.seen, hheld, hreplay]

end Edits

end OptimisticLib
