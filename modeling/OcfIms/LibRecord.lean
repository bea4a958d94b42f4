import Mathlib

/-!
# Records

A record is the list of its members, each with a key of its own. Setting a key that is there keeps
its place; one that is not comes last.
-/

namespace RecordLib

variable {K V W : Type*} [DecidableEq K]

abbrev Record (K V : Type*) := List (K × V)

namespace Record

def get : Record K V → K → Option V
  | [], _ => none
  | m :: r, k => if m.1 = k then some m.2 else get r k

def set : Record K V → K → V → Record K V
  | [], k, v => [(k, v)]
  | m :: r, k, v => if m.1 = k then (k, v) :: r else m :: set r k v

def delete (r : Record K V) (k : K) : Record K V := r.filter fun m => m.1 ≠ k

theorem get_set (r : Record K V) (k : K) (v : V) (j : K) :
    (r.set k v).get j = if k = j then some v else r.get j := by
  induction r with
  | nil => rfl
  | cons m r ih =>
      rw [set]
      by_cases hm : m.1 = k
      · rw [if_pos hm, get, get, hm]
        split <;> rfl
      · rw [if_neg hm, get, get, ih]
        by_cases hj : m.1 = j
        · rw [if_pos hj, if_pos hj, if_neg fun h => hm (hj.trans h.symm)]
        · rw [if_neg hj, if_neg hj]

theorem get_delete (r : Record K V) (k j : K) :
    (r.delete k).get j = if k = j then none else r.get j := by
  induction r with
  | nil => exact (ite_self none).symm
  | cons m r ih =>
      rw [delete, List.filter_cons]
      by_cases hm : m.1 = k
      · rw [if_neg (by simpa using hm), ← delete, ih, get, hm]
        split <;> rfl
      · rw [if_pos (by simpa using hm), ← delete, get, get, ih]
        by_cases hj : m.1 = j
        · rw [if_pos hj, if_pos hj, if_neg fun h => hm (hj.trans h.symm)]
        · rw [if_neg hj, if_neg hj]

/-- The members whose values can be read, as they are read. -/
def read (f : W → Option V) (r : Record K W) : Record K V :=
  r.filterMap fun m => (f m.2).map fun v => (m.1, v)

/-- The members as they are written. -/
def write (g : V → W) (r : Record K V) : Record K W := r.map fun m => (m.1, g m.2)

omit [DecidableEq K] in
/-- What was written is read back. -/
theorem read_write {f : W → Option V} {g : V → W} (h : ∀ v, f (g v) = some v) (r : Record K V) :
    (r.write g).read f = r := by
  rw [read, write, List.filterMap_map]
  refine (List.filterMap_congr fun m _ => ?_).trans List.filterMap_some
  exact congrArg (Option.map fun v => (m.1, v)) (h m.2)

end Record

end RecordLib
