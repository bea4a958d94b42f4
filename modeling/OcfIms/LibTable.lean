import Mathlib

/-!
# Keyed tables

A `Table κ ρ` is a finite relation with a primary key: a list of rows, in the order they were
inserted, in which no key occurs twice. The key constraint is a field, so every operation below
hands back a table that still has it, and a lookup never has two rows to choose from.

The operations are those a store needs: insertion of a fresh key, an update of the rows a predicate
selects, and deletion. Each comes with the equation that says what a lookup sees afterwards, and
proofs about tables go through these equations rather than through the row lists.
-/

namespace TxnLib

/-- Rows with pairwise distinct keys, in insertion order. -/
structure Table (κ ρ : Type) where
  rows : List (κ × ρ)
  nodup : (rows.map Prod.fst).Nodup
  deriving DecidableEq

namespace Table

variable {κ ρ : Type}

@[ext] theorem ext {t u : Table κ ρ} (h : t.rows = u.rows) : t = u := by
  cases t; cases u; cases h; rfl

def empty : Table κ ρ := ⟨[], List.nodup_nil⟩

instance : Inhabited (Table κ ρ) := ⟨empty⟩

/-- Apply `f` to every row, keys untouched. -/
def mapVal (t : Table κ ρ) (f : κ → ρ → ρ) : Table κ ρ :=
  ⟨t.rows.map fun r => (r.1, f r.1 r.2), by simpa [List.map_map, Function.comp_def] using t.nodup⟩

/-- Keep the rows `p` accepts. -/
def filter (t : Table κ ρ) (p : κ → ρ → Bool) : Table κ ρ :=
  ⟨t.rows.filter fun r => p r.1 r.2, t.nodup.sublist (List.filter_sublist.map Prod.fst)⟩

variable [DecidableEq κ]

/-- The row stored under a key. -/
def find? (t : Table κ ρ) (k : κ) : Option ρ :=
  (t.rows.find? fun r => r.1 = k).map Prod.snd

def contains (t : Table κ ρ) (k : κ) : Bool := (t.find? k).isSome

/-- Append a row under a fresh key; a key already present leaves the table alone. -/
def insert (t : Table κ ρ) (k : κ) (v : ρ) : Table κ ρ :=
  if h : k ∈ t.rows.map Prod.fst then t
  else ⟨t.rows ++ [(k, v)], by
    rw [List.map_append, List.nodup_append]
    refine ⟨t.nodup, by simp, ?_⟩
    rintro a ha b hb rfl
    simp only [List.map_cons, List.map_nil, List.mem_singleton] at hb
    exact h (hb ▸ ha)⟩

/-- Rewrite the row stored under `k`, if there is one. -/
def modify (t : Table κ ρ) (k : κ) (f : ρ → ρ) : Table κ ρ :=
  t.mapVal fun k' v => if k' = k then f v else v

def erase (t : Table κ ρ) (k : κ) : Table κ ρ :=
  t.filter fun k' _ => decide (k' ≠ k)

/-- Store a row under a key, whether there was one or not. -/
def put (t : Table κ ρ) (k : κ) (v : ρ) : Table κ ρ := (t.erase k).insert k v

/-- What a lookup returns is a row of the list. -/
theorem mem_rows {t : Table κ ρ} {k : κ} {v : ρ} (h : t.find? k = some v) : (k, v) ∈ t.rows := by
  obtain ⟨⟨k', v'⟩, hfind, rfl⟩ := Option.map_eq_some_iff.mp h
  have hk := List.find?_some hfind
  obtain rfl : k' = k := of_decide_eq_true hk
  exact List.mem_of_find?_eq_some hfind

/-- A row of the list is what the lookup of its key returns. -/
theorem find?_of_mem {t : Table κ ρ} {k : κ} {v : ρ} (h : (k, v) ∈ t.rows) :
    t.find? k = some v := by
  obtain ⟨rows, nodup⟩ := t
  simp only [find?]
  induction rows with
  | nil => exact absurd h List.not_mem_nil
  | cons r rs ih =>
      obtain ⟨k', v'⟩ := r
      simp only [List.map_cons, List.nodup_cons] at nodup
      by_cases hk : k' = k
      · subst hk
        have hnot : (k', v) ∉ rs := fun hm => nodup.1 (List.mem_map_of_mem hm)
        obtain ⟨-, rfl⟩ := Prod.mk.inj ((List.mem_cons.mp h).resolve_right hnot)
        simp
      · have hmem : (k, v) ∈ rs := (List.mem_cons.mp h).resolve_left fun e => hk (congrArg Prod.fst e).symm
        simpa [hk] using ih nodup.2 hmem

/-- A table is its lookup function: `find?` returns exactly the rows of the list. -/
theorem find?_eq_some_iff {t : Table κ ρ} {k : κ} {v : ρ} :
    t.find? k = some v ↔ (k, v) ∈ t.rows := ⟨mem_rows, find?_of_mem⟩

theorem find?_eq_none_iff {t : Table κ ρ} {k : κ} :
    t.find? k = none ↔ ∀ v, (k, v) ∉ t.rows := by
  constructor
  · intro h v hv
    rw [find?_of_mem hv] at h
    cases h
  · intro h
    cases hf : t.find? k with
    | none => rfl
    | some v => exact absurd (mem_rows hf) (h v)

theorem contains_iff {t : Table κ ρ} {k : κ} : t.contains k = true ↔ ∃ v, t.find? k = some v := by
  rw [contains, Option.isSome_iff_exists]

theorem contains_eq_false_iff {t : Table κ ρ} {k : κ} :
    t.contains k = false ↔ t.find? k = none := by
  rw [contains, Option.isSome_eq_false_iff, Option.isNone_iff_eq_none]

theorem mem_keys_iff {t : Table κ ρ} {k : κ} : k ∈ t.rows.map Prod.fst ↔ t.contains k = true := by
  rw [contains_iff]
  constructor
  · intro h
    obtain ⟨⟨k', v⟩, hm, rfl⟩ := List.mem_map.mp h
    exact ⟨v, find?_of_mem hm⟩
  · rintro ⟨v, hv⟩
    exact List.mem_map_of_mem (mem_rows hv)

/-! ## What a lookup sees after an operation -/

@[simp] theorem find?_empty (k : κ) : (empty : Table κ ρ).find? k = none := rfl

theorem rows_insert {t : Table κ ρ} {k : κ} (h : t.contains k = false) (v : ρ) :
    (t.insert k v).rows = t.rows ++ [(k, v)] := by
  have hk : k ∉ t.rows.map Prod.fst := by rw [mem_keys_iff, h]; simp
  rw [insert, dif_neg hk]

theorem find?_insert {t : Table κ ρ} {k : κ} (h : t.contains k = false) (v : ρ) (k' : κ) :
    (t.insert k v).find? k' = if k' = k then some v else t.find? k' := by
  have hk := contains_eq_false_iff.mp h
  simp only [find?] at hk ⊢
  rw [rows_insert h, List.find?_append]
  by_cases hkk : k' = k
  · subst hkk
    rw [Option.map_eq_none_iff] at hk
    simp [hk]
  · have : ¬ k = k' := fun e => hkk e.symm
    simp [hkk, this]

theorem find?_mapVal (t : Table κ ρ) (f : κ → ρ → ρ) (k : κ) :
    (t.mapVal f).find? k = (t.find? k).map (f k) := by
  obtain ⟨rows, nodup⟩ := t
  simp only [find?, mapVal]
  clear nodup
  induction rows with
  | nil => rfl
  | cons r rs ih =>
      by_cases h : r.1 = k
      · simp [h]
      · simpa [h] using ih

theorem find?_modify (t : Table κ ρ) (k : κ) (f : ρ → ρ) (k' : κ) :
    (t.modify k f).find? k' = if k' = k then (t.find? k').map f else t.find? k' := by
  rw [modify, find?_mapVal]
  split <;> simp

/-- Rewriting a row to what it is changes nothing. -/
theorem modify_eq_self {t : Table κ ρ} {k : κ} {v : ρ} {f : ρ → ρ} (h : t.find? k = some v)
    (hf : f v = v) : t.modify k f = t := by
  have hrows : (t.modify k f).rows = t.rows := by
    refine (List.map_congr_left fun r hr => ?_).trans (List.map_id _)
    obtain ⟨k', v'⟩ := r
    by_cases hk : k' = k
    · subst hk
      have hv : v = v' := Option.some.inj (h.symm.trans (find?_of_mem hr))
      subst hv
      simp [hf]
    · simp [hk]
  cases t
  cases hm : modify _ k f
  rw [hm] at hrows
  cases hrows
  rfl

theorem find?_filter (t : Table κ ρ) (p : κ → ρ → Bool) (k : κ) :
    (t.filter p).find? k = (t.find? k).filter (p k) := by
  cases hf : t.find? k with
  | none =>
      simp only [Option.filter_none]
      refine find?_eq_none_iff.mpr fun v hv => ?_
      exact find?_eq_none_iff.mp hf v (List.mem_filter.mp hv).1
  | some v =>
      have hm := mem_rows hf
      cases hp : p k v with
      | true =>
          rw [Option.filter_some, if_pos hp]
          exact find?_of_mem (List.mem_filter.mpr ⟨hm, hp⟩)
      | false =>
          rw [Option.filter_some, hp, if_neg Bool.false_ne_true]
          refine find?_eq_none_iff.mpr fun v' hv' => ?_
          obtain ⟨hmem, hpv⟩ := List.mem_filter.mp hv'
          have := find?_of_mem hmem
          rw [hf, Option.some.injEq] at this
          subst this
          simp [hp] at hpv

theorem find?_erase (t : Table κ ρ) (k k' : κ) :
    (t.erase k).find? k' = if k' = k then none else t.find? k' := by
  rw [erase, find?_filter]
  by_cases h : k' = k
  · simp [h]
  · simp only [h, ne_eq, not_false_eq_true, decide_true, if_false]
    cases t.find? k' <;> rfl

theorem find?_put (t : Table κ ρ) (k : κ) (v : ρ) (k' : κ) :
    (t.put k v).find? k' = if k' = k then some v else t.find? k' := by
  have hfresh : (t.erase k).contains k = false := by
    rw [contains_eq_false_iff, find?_erase, if_pos rfl]
  rw [put, find?_insert hfresh, find?_erase]
  split <;> rfl

@[simp] theorem contains_mapVal (t : Table κ ρ) (f : κ → ρ → ρ) (k : κ) :
    (t.mapVal f).contains k = t.contains k := by
  rw [contains, contains, find?_mapVal, Option.isSome_map]

@[simp] theorem contains_modify (t : Table κ ρ) (k : κ) (f : ρ → ρ) (k' : κ) :
    (t.modify k f).contains k' = t.contains k' :=
  contains_mapVal ..

theorem contains_insert {t : Table κ ρ} {k : κ} (h : t.contains k = false) (v : ρ) (k' : κ) :
    (t.insert k v).contains k' = (decide (k' = k) || t.contains k') := by
  rw [contains, find?_insert h]
  by_cases hk : k' = k <;> simp [hk, contains]

theorem contains_insert_of_contains {t : Table κ ρ} {k k' : κ} (v : ρ)
    (hk : t.contains k' = true) : (t.insert k v).contains k' = true := by
  by_cases h : k ∈ t.rows.map Prod.fst
  · rwa [insert, dif_pos h]
  · rw [contains_insert (by simpa [mem_keys_iff] using h), hk, Bool.or_true]

/-- What holds of every row holds of every row after one that meets it is added. -/
theorem forall_insert {P : ρ → Prop} {t : Table κ ρ} (ht : ∀ k v, t.find? k = some v → P v) {k : κ}
    {v : ρ} (hv : P v) : ∀ k' v', (t.insert k v).find? k' = some v' → P v' := by
  intro k' v' h
  by_cases hk : k ∈ t.rows.map Prod.fst
  · rw [insert, dif_pos hk] at h
    exact ht k' v' h
  · rw [find?_insert (by simpa [mem_keys_iff] using hk)] at h
    split at h
    · exact Option.some.inj h ▸ hv
    · exact ht k' v' h

/-- And after one of them is changed to a row that meets it. -/
theorem forall_modify {P : ρ → Prop} {t : Table κ ρ} (ht : ∀ k v, t.find? k = some v → P v) {k : κ}
    {f : ρ → ρ} (hf : ∀ v, P v → P (f v)) :
    ∀ k' v', (t.modify k f).find? k' = some v' → P v' := by
  intro k' v' h
  rw [find?_modify] at h
  split at h
  · obtain ⟨v, hv, rfl⟩ := Option.map_eq_some_iff.mp h
    exact hf v (ht k' v hv)
  · exact ht k' v' h

/-! ## Lists read off a table

A query that selects rows sees nothing of an operation on rows it does not select. -/

section Select

variable {γ : Type} {t : Table κ ρ} {k : κ} {f : κ × ρ → Option γ}

theorem filterMap_insert {v : ρ} (h : t.contains k = false) (hf : f (k, v) = none) :
    (t.insert k v).rows.filterMap f = t.rows.filterMap f := by
  rw [rows_insert h, List.filterMap_append, List.filterMap_cons_none hf, List.filterMap_nil,
    List.append_nil]

theorem filterMap_mapVal {g : κ → ρ → ρ} (hf : ∀ k v, t.find? k = some v → f (k, g k v) = f (k, v)) :
    (t.mapVal g).rows.filterMap f = t.rows.filterMap f := by
  rw [mapVal, List.filterMap_map]
  exact List.filterMap_congr fun r hr => hf r.1 r.2 (find?_of_mem hr)

theorem filterMap_modify {g : ρ → ρ} (hf : ∀ v, t.find? k = some v → f (k, g v) = f (k, v)) :
    (t.modify k g).rows.filterMap f = t.rows.filterMap f := by
  refine filterMap_mapVal fun k' v hv => ?_
  split
  · next hk =>
      subst hk
      exact hf v hv
  · rfl

omit [DecidableEq κ] in
theorem filterMap_filter {p : κ → ρ → Bool} (hf : ∀ k v, p k v = false → f (k, v) = none) :
    (t.filter p).rows.filterMap f = t.rows.filterMap f := by
  rw [filter, List.filterMap_filter]
  refine List.filterMap_congr fun r _ => ?_
  cases hp : p r.1 r.2 with
  | true => rfl
  | false => exact (hf r.1 r.2 hp).symm

theorem filterMap_erase (hf : ∀ v, f (k, v) = none) :
    (t.erase k).rows.filterMap f = t.rows.filterMap f := by
  refine filterMap_filter fun k' v hk => ?_
  rw [decide_eq_false_iff_not, not_not] at hk
  subst hk
  exact hf v

end Select

/-! ## Association lists read off a table -/

theorem lookup_map_rows {ρ' : Type} (t : Table κ ρ) (f : ρ → ρ') (k : κ) :
    (t.rows.map fun r => (r.1, f r.2)).lookup k = (t.find? k).map f := by
  obtain ⟨rows, nodup⟩ := t
  simp only [find?]
  clear nodup
  induction rows with
  | nil => rfl
  | cons r rs ih =>
      by_cases h : r.1 = k
      · subst h; simp
      · have hk : (k == r.1) = false := by simpa using fun e => h e.symm
        simpa [List.lookup, h, hk] using ih

/-- The rows under one value of a key's first column, listed by its second column. -/
theorem lookup_section {κ₁ κ₂ ρ' : Type} [DecidableEq κ₁] [DecidableEq κ₂]
    (t : Table (κ₁ × κ₂) ρ) (f : ρ → ρ') (k₁ : κ₁) (k₂ : κ₂) :
    (t.rows.filterMap fun r => if r.1.1 = k₁ then some (r.1.2, f r.2) else none).lookup k₂ =
      (t.find? (k₁, k₂)).map f := by
  obtain ⟨rows, nodup⟩ := t
  simp only [find?]
  clear nodup
  induction rows with
  | nil => rfl
  | cons r rs ih =>
      obtain ⟨⟨a, b⟩, v⟩ := r
      by_cases h₁ : a = k₁
      · subst h₁
        by_cases h₂ : b = k₂
        · subst h₂; simp
        · have hk : (k₂ == b) = false := by simpa using fun e => h₂ e.symm
          simpa [List.lookup, h₂, hk] using ih
      · simpa [h₁] using ih

end Table

end TxnLib
