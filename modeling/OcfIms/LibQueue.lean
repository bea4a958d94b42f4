import Mathlib

/-!
# A bounded queue and its worker

Senders put items into a queue that holds `cap` of them, and wait while it is full. One worker takes
the oldest item, works on it, and is done with it, well or not, before it takes the next. What was
sent is, in order, what the worker is done with, what it has in hand, and what is in the queue.
-/

namespace QueueLib

/-- The queue, oldest item first; the item in the worker's hand; and those it is done with, with how
that went. -/
structure Pipe (α : Type*) where
  queue : List α := []
  inHand : Option α := none
  settled : List (α × Bool) := []

namespace Pipe

variable {α : Type*} {cap : Nat} {p p' : Pipe α} {sent : List α}

/-- There is no room in a full queue: the sender waits. -/
def send (cap : Nat) (p : Pipe α) (a : α) : Option (Pipe α) :=
  if p.queue.length < cap then some { p with queue := p.queue ++ [a] } else none

def take (p : Pipe α) : Option (Pipe α) :=
  match p.inHand, p.queue with
  | none, a :: rest => some { p with queue := rest, inHand := some a }
  | _, _ => none

def settle (ok : Bool) (p : Pipe α) : Option (Pipe α) :=
  p.inHand.map fun a => { p with inHand := none, settled := p.settled ++ [(a, ok)] }

/-- What came of the items so far. -/
def kept (p : Pipe α) : List α := (p.settled.filter fun s => s.2).map Prod.fst

/-- All that was sent is accounted for, in order. -/
structure Ordered (cap : Nat) (p : Pipe α) (sent : List α) : Prop where
  order : p.settled.map Prod.fst ++ p.inHand.toList ++ p.queue = sent
  room : p.queue.length ≤ cap

theorem ordered_empty : Ordered cap ({} : Pipe α) [] := ⟨rfl, Nat.zero_le cap⟩

theorem Ordered.send (h : p.Ordered cap sent) {a : α} (hs : p.send cap a = some p') :
    p'.Ordered cap (sent ++ [a]) := by
  rw [Pipe.send] at hs
  split at hs
  · rename_i hroom
    cases hs
    refine ⟨?_, ?_⟩
    · rw [← h.order]
      exact (List.append_assoc _ _ _).symm
    · rw [List.length_append]
      exact hroom
  · cases hs

theorem Ordered.sendAll : ∀ {as : List α} {p : Pipe α} {sent : List α}, p.Ordered cap sent →
    as.foldlM (fun p a => p.send cap a) p = some p' → p'.Ordered cap (sent ++ as)
  | [], p, sent, h, hs => by
      cases hs
      rwa [List.append_nil]
  | a :: as, p, sent, h, hs => by
      obtain ⟨p₁, hsend, hs⟩ := Option.bind_eq_some_iff.mp hs
      rw [← List.singleton_append, ← List.append_assoc]
      exact (h.send hsend).sendAll hs

theorem Ordered.take (h : p.Ordered cap sent) (hs : p.take = some p') : p'.Ordered cap sent := by
  rw [Pipe.take] at hs
  split at hs
  · rename_i a rest hhand hqueue
    cases hs
    obtain ⟨horder, hroom⟩ := h
    rw [hhand, hqueue] at horder
    rw [hqueue] at hroom
    refine ⟨?_, Nat.le_of_succ_le hroom⟩
    simpa using horder
  · cases hs

theorem Ordered.settle (h : p.Ordered cap sent) {ok : Bool} (hs : p.settle ok = some p') :
    p'.Ordered cap sent := by
  rw [Pipe.settle, Option.map_eq_some_iff] at hs
  obtain ⟨a, hhand, rfl⟩ := hs
  refine ⟨?_, h.room⟩
  rw [← h.order, hhand]
  simp

theorem kept_send {a : α} (hs : p.send cap a = some p') : p'.kept = p.kept := by
  rw [Pipe.send] at hs
  split at hs
  · cases hs
    rfl
  · cases hs

theorem kept_sendAll : ∀ {as : List α} {p : Pipe α},
    as.foldlM (fun p a => p.send cap a) p = some p' → p'.kept = p.kept
  | [], p, hs => by
      cases hs
      rfl
  | a :: as, p, hs => by
      obtain ⟨p₁, hsend, hs⟩ := Option.bind_eq_some_iff.mp hs
      exact (kept_sendAll hs).trans (kept_send hsend)

theorem kept_take (hs : p.take = some p') : p'.kept = p.kept := by
  rw [Pipe.take] at hs
  split at hs
  · cases hs
    rfl
  · cases hs

theorem kept_settle {ok : Bool} (hs : p.settle ok = some p') :
    ∃ a, p.inHand = some a ∧ p'.kept = p.kept ++ if ok then [a] else [] := by
  rw [Pipe.settle, Option.map_eq_some_iff] at hs
  obtain ⟨a, hhand, rfl⟩ := hs
  refine ⟨a, hhand, ?_⟩
  rw [kept, kept, List.filter_append, List.map_append]
  cases ok <;> rfl

end Pipe

end QueueLib
