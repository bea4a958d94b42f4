import Mathlib
import OcfIms.AreaHierarchy
import OcfIms.Crew

/-!
# Slugs

`uniqueSlug` makes a slug from a name, and a number after it where the plain one is taken. What it
makes is a slug and free, and the number is the least that does; it is not cut to the column's width,
though, so a name that is long enough for the name's own column may have no slug that fits.
-/

namespace OcfIms

open TxnLib

/-- `[a-z0-9]+(-[a-z0-9]+)*`. -/
inductive SlugShape : List Char → Prop
  | word {w : List Char} (hne : w ≠ []) (hchars : ∀ c ∈ w, isSlugChar c = true) : SlugShape w
  | append {w rest : List Char} (hne : w ≠ []) (hchars : ∀ c ∈ w, isSlugChar c = true)
      (hrest : SlugShape rest) : SlugShape (w ++ '-' :: rest)

/-- The slugs to choose from: the plain one, and the ones with a number from 2 on. -/
def IsSlugOf (base slug : String) : Prop := slug = base ∨ ∃ k, 2 ≤ k ∧ slug = base ++ "-" ++ toString k

/-- A free slug: the plain one, or the one with the least number that is free, which is found after
at most as many tries as there are slugs taken. -/
structure IsUniqueSlug (base : String) (taken : List String) (slug : String) : Prop where
  free : slug ∉ taken
  shape : SlugShape slug.toList
  least : slug = base ∨ base ∈ taken ∧ ∃ k, 2 ≤ k ∧ k ≤ taken.length + 1 ∧
    slug = base ++ "-" ++ toString k ∧ ∀ j, 2 ≤ j → j < k → base ++ "-" ++ toString j ∈ taken

/-- A slug for the name is free and fits its column of 128 characters. -/
def SlugFits (u : UnicodeTables) (name : String) (taken : List String) : Prop :=
  ∃ slug, IsSlugOf (slugify u name) slug ∧ slug ∉ taken ∧ slug.length ≤ 128

/-! ## The shape -/

theorem isSlugChar_hyphen : isSlugChar '-' = false := by decide

/-- One slug character more at the front. -/
theorem SlugShape.cons {c : Char} {l : List Char} (hc : isSlugChar c = true) (h : SlugShape l) :
    SlugShape (c :: l) := by
  cases h with
  | word hne hchars =>
      exact .word (List.cons_ne_nil _ _) (List.forall_mem_cons.mpr ⟨hc, hchars⟩)
  | append hne hchars hrest =>
      exact .append (w := c :: _) (List.cons_ne_nil _ _) (List.forall_mem_cons.mpr ⟨hc, hchars⟩) hrest

/-- One word more at the end. -/
theorem SlugShape.suffix {l w : List Char} (h : SlugShape l) (hne : w ≠ [])
    (hchars : ∀ c ∈ w, isSlugChar c = true) : SlugShape (l ++ '-' :: w) := by
  induction h with
  | word hne' hchars' => exact .append hne' hchars' (.word hne hchars)
  | append hne' hchars' _ ih =>
      rw [List.append_assoc, List.cons_append]
      exact .append hne' hchars' ih

/-- No two hyphens in a row. -/
def notBothHyphens (a b : Char) : Prop := ¬ (a = '-' ∧ b = '-')

/-- The characters of a slug, or hyphens. -/
def slugOrHyphen (c : Char) : Prop := isSlugChar c = true ∨ c = '-'

/-- Words between single hyphens, with none at either end. -/
theorem slugShape_of_chain : ∀ {l : List Char}, (∀ c ∈ l, slugOrHyphen c) →
    l.IsChain notBothHyphens → l ≠ [] → l.head? ≠ some '-' → l.getLast? ≠ some '-' → SlugShape l
  | [], _, _, hne, _, _ => (hne rfl).elim
  | [c], hchars, _, _, hhead, _ => by
      have hc : isSlugChar c = true :=
        (hchars c (List.mem_singleton_self c)).resolve_right fun h => hhead (by rw [h]; rfl)
      exact .word (List.cons_ne_nil _ _) fun d hd => by rw [List.mem_singleton.mp hd]; exact hc
  | c :: d :: rest, hchars, hchain, _, hhead, hlast => by
      have hc : isSlugChar c = true :=
        (hchars c List.mem_cons_self).resolve_right fun h => hhead (by rw [h]; rfl)
      have hchain' : (d :: rest).IsChain notBothHyphens := hchain.tail
      have hlast' : (d :: rest).getLast? ≠ some '-' := by
        rwa [List.getLast?_cons_cons] at hlast
      have hchars' : ∀ x ∈ d :: rest, slugOrHyphen x := fun x hx => hchars x (List.mem_cons_of_mem _ hx)
      by_cases hd : d = '-'
      · subst hd
        cases rest with
        | nil => exact (hlast' rfl).elim
        | cons x rest =>
            have hx : x ≠ '-' := fun hx => hchain'.rel ⟨rfl, hx⟩
            have hshape : SlugShape (x :: rest) :=
              slugShape_of_chain (fun y hy => hchars' y (List.mem_cons_of_mem _ hy)) hchain'.tail
                (List.cons_ne_nil _ _) (fun h => hx (Option.some.inj h)) (by
                  rwa [List.getLast?_cons_cons] at hlast')
            exact .append (w := [c]) (List.cons_ne_nil _ _)
              (fun y hy => by rw [List.mem_singleton.mp hy]; exact hc) hshape
      · have hshape : SlugShape (d :: rest) :=
          slugShape_of_chain hchars' hchain' (List.cons_ne_nil _ _)
            (fun h => hd (Option.some.inj h)) hlast'
        exact hshape.cons hc

theorem slugOrHyphen_hyphenate : ∀ (inRun : Bool) (l : List Char), ∀ c ∈ hyphenate inRun l,
    slugOrHyphen c
  | _, [], _, hc => nomatch hc
  | inRun, d :: l, c, hc => by
      rw [hyphenate] at hc
      split at hc
      · rename_i hd
        rcases List.mem_cons.mp hc with rfl | hc
        · exact Or.inl hd
        · exact slugOrHyphen_hyphenate false l c hc
      · split at hc
        · exact slugOrHyphen_hyphenate true l c hc
        · rcases List.mem_cons.mp hc with rfl | hc
          · exact Or.inr rfl
          · exact slugOrHyphen_hyphenate true l c hc

/-- A run that is being read starts no further hyphen. -/
theorem head_hyphenate_run : ∀ l : List Char, (hyphenate true l).head? ≠ some '-'
  | [] => nofun
  | c :: l => by
      rw [hyphenate]
      split
      · rename_i hc
        intro h
        rw [List.head?_cons, Option.some.injEq] at h
        rw [h, isSlugChar_hyphen] at hc
        cases hc
      · rw [if_pos rfl]
        exact head_hyphenate_run l

theorem chain_hyphenate : ∀ (inRun : Bool) (l : List Char),
    (hyphenate inRun l).IsChain notBothHyphens
  | _, [] => .nil
  | inRun, c :: l => by
      rw [hyphenate]
      split
      · rename_i hc
        refine List.isChain_cons.mpr ⟨fun d _ h => ?_, chain_hyphenate false l⟩
        rw [h.1, isSlugChar_hyphen] at hc
        cases hc
      · split
        · exact chain_hyphenate true l
        · refine List.isChain_cons.mpr ⟨fun d hd h => ?_, chain_hyphenate true l⟩
          rw [h.2] at hd
          exact head_hyphenate_run l hd

theorem slugShape_area : SlugShape "area".toList := by
  have hchars : "area".toList.all isSlugChar = true := by decide
  exact .word (by decide) (List.all_eq_true.mp hchars)

/-- The slug of a name has the shape of one, even where nothing is left of the name. -/
theorem slugShape_slugify (u : UnicodeTables) (name : String) :
    SlugShape (slugify u name).toList := by
  rw [slugify]
  split
  · exact slugShape_area
  · rename_i hne
    rw [String.toList_ofList]
    generalize hs : hyphenate false (u.lower name).toList = s at hne ⊢
    have hsuffix : s.dropWhile (· = '-') <:+ s := List.dropWhile_suffix _
    have hprefix : (s.dropWhile (· = '-')).rdropWhile (· = '-') <+: s.dropWhile (· = '-') :=
      List.rdropWhile_prefix _ _
    change ¬ String.ofList ((s.dropWhile (· = '-')).rdropWhile (· = '-')) = "" at hne
    change SlugShape ((s.dropWhile (· = '-')).rdropWhile (· = '-'))
    generalize htrim : (s.dropWhile (· = '-')).rdropWhile (· = '-') = t at hne hprefix ⊢
    have hnil : t ≠ [] := fun h => hne ((congrArg String.ofList h).trans rfl)
    have hinfix : t <:+: s := hprefix.isInfix.trans hsuffix.isInfix
    refine slugShape_of_chain (fun c hc => ?_) ?_ hnil (fun hhead => ?_) fun hlast => ?_
    · refine slugOrHyphen_hyphenate false (u.lower name).toList c ?_
      rw [hs]
      exact hinfix.subset hc
    · have hchain : s.IsChain notBothHyphens := hs ▸ chain_hyphenate false _
      exact hchain.infix hinfix
    · obtain ⟨rest, hrest⟩ := hprefix
      have hfirst := List.head?_dropWhile_not (fun c => decide (c = '-')) s
      rw [← hrest, List.head?_append_of_ne_nil _ hnil, hhead] at hfirst
      cases hfirst
    · have hend : ¬ decide (t.getLast hnil = '-') = true := by
        subst htrim
        exact List.rdropWhile_last_not _ _ hnil
      rw [List.getLast?_eq_some_getLast hnil, Option.some.injEq] at hlast
      exact hend (decide_eq_true hlast)

/-- A digit is a character of a slug. -/
theorem isSlugChar_digits (k : Nat) : ∀ c ∈ (toString k).toList, isSlugChar c = true := by
  intro c hc
  have hdigit : c.isDigit = true :=
    Nat.isDigit_of_mem_toDigits (b := 10) (n := k) (by decide) (by decide)
      (by rwa [← Nat.toList_repr])
  rw [isSlugChar, Bool.or_eq_true]
  exact Or.inr (by simpa [Char.isDigit, Char.le_def] using hdigit)

theorem slugShape_numbered {base : String} (h : SlugShape base.toList) (k : Nat) :
    SlugShape (base ++ "-" ++ toString k).toList := by
  have hlist : (base ++ "-" ++ toString k).toList = base.toList ++ '-' :: (toString k).toList := by
    simp
  rw [hlist]
  refine h.suffix (fun hnil => ?_) (isSlugChar_digits k)
  have hpos : 0 < (Nat.toDigits 10 k).length := Nat.length_toDigits_pos
  rw [← Nat.toList_repr] at hpos
  change 0 < (toString k).toList.length at hpos
  rw [hnil] at hpos
  cases hpos

/-! ## The number -/

theorem slugCandidate_of_two_le {base : String} {k : Nat} (h : 2 ≤ k) :
    base ++ "-" ++ toString k = slugCandidate base (k - 2) := by
  rw [slugCandidate, show k - 2 + 2 = k by omega]

theorem slugCandidate_ne (base : String) (i : Nat) : slugCandidate base i ≠ base := by
  intro h
  have hlength := congrArg String.length h
  simp only [slugCandidate, String.length_append] at hlength
  have hhyphen : "-".length = 1 := rfl
  omega

/-- The tries that come to nothing are slugs taken, each another. -/
theorem tries_le {base : String} {taken : List String} {n : Nat} (hbase : base ∈ taken)
    (htaken : ∀ i < n, slugCandidate base i ∈ taken) : n + 1 ≤ taken.length := by
  let tried := base :: (List.range n).map (slugCandidate base)
  have hnodup : tried.Nodup := by
    refine List.nodup_cons.mpr ⟨fun h => ?_, ?_⟩
    · obtain ⟨i, -, hi⟩ := List.mem_map.mp h
      exact slugCandidate_ne base i hi
    · exact List.nodup_range.map (slugCandidate_injective base)
  have hsubset : tried ⊆ taken := by
    intro s hs
    rcases List.mem_cons.mp hs with rfl | hs
    · exact hbase
    · obtain ⟨i, hi, rfl⟩ := List.mem_map.mp hs
      exact htaken i (List.mem_range.mp hi)
  have hlength : tried.length ≤ taken.length := (List.subperm_of_subset hnodup hsubset).length_le
  simpa [tried] using hlength

theorem isUniqueSlug_uniqueSlug (u : UnicodeTables) (name : String) (taken : List String) :
    IsUniqueSlug (slugify u name) taken (uniqueSlug u name taken) := by
  have hshape := slugShape_slugify u name
  rw [uniqueSlug]
  generalize slugify u name = base at hshape ⊢
  by_cases hbase : base ∈ taken
  · simp only [hbase, not_true_eq_false, if_false]
    have hmin : ∀ i < Nat.find (exists_slugCandidate base taken), slugCandidate base i ∈ taken :=
      fun i hi => not_not.mp (Nat.find_min _ hi)
    have htries := tries_le hbase hmin
    refine ⟨Nat.find_spec (exists_slugCandidate base taken), slugShape_numbered hshape _,
      Or.inr ⟨hbase, _, by omega, by omega, rfl, fun j hj hlt => ?_⟩⟩
    rw [slugCandidate_of_two_le hj]
    exact hmin _ (by omega)
  · simp only [hbase, not_false_eq_true, if_true]
    exact ⟨hbase, hshape, Or.inl rfl⟩

/-- A larger number takes no fewer characters. -/
theorem length_slugCandidate_le (base : String) {i j : Nat} (h : i ≤ j) :
    (slugCandidate base i).length ≤ (slugCandidate base j).length := by
  have hdigits : (i + 2).repr.length ≤ (j + 2).repr.length := by
    have hj : j + 2 < 10 ^ (j + 2).repr.length :=
      (Nat.length_repr_le_iff Nat.length_repr_pos).mp le_rfl
    exact (Nat.length_repr_le_iff Nat.length_repr_pos).mpr (by omega)
  simp only [slugCandidate, String.length_append]
  exact Nat.add_le_add_left hdigits _

/-- The slug that is chosen is the shortest that is free. -/
theorem length_uniqueSlug_le {u : UnicodeTables} {name slug : String} {taken : List String}
    (hof : IsSlugOf (slugify u name) slug) (hfree : slug ∉ taken) :
    (uniqueSlug u name taken).length ≤ slug.length := by
  rw [uniqueSlug]
  generalize slugify u name = base at hof ⊢
  by_cases hbase : base ∈ taken
  · simp only [hbase, not_true_eq_false, if_false]
    rcases hof with rfl | ⟨k, hk, rfl⟩
    · exact (hfree hbase).elim
    · rw [slugCandidate_of_two_le hk] at hfree ⊢
      exact length_slugCandidate_le base (Nat.find_min' _ hfree)
  · simp only [hbase, not_false_eq_true, if_true]
    rcases hof with rfl | ⟨k, -, rfl⟩
    · exact le_rfl
    · simp only [String.length_append]
      omega

theorem slugFits_iff {u : UnicodeTables} {name : String} {taken : List String} :
    SlugFits u name taken ↔ (uniqueSlug u name taken).length ≤ 128 := by
  refine ⟨fun ⟨slug, hof, hfree, hlength⟩ => (length_uniqueSlug_le hof hfree).trans hlength,
    fun h => ⟨_, ?_, (isUniqueSlug_uniqueSlug u name taken).free, h⟩⟩
  rcases (isUniqueSlug_uniqueSlug u name taken).least with heq | ⟨-, k, hk, -, heq, -⟩
  · exact Or.inl heq
  · exact Or.inr ⟨k, hk, heq⟩

/-! ## The insert -/

/-- The request is accepted: the caller may create areas, the name is not blank and within the
contract's bound, the parent is one, and the rows the new one refers to exist. -/
structure AreaAccepted (sortKey : String → String) (db : DB) (claims : IMSClaims)
    (req : CreateAreaRequest) : Prop where
  allowed : (hasBit (globalPermissions claims.handle claims.admin) globalAdministrateAreas ||
    hasBit (eventMaskIn db req.eventID claims) eventWriteIncidents) = true
  proposer : hasBit (globalPermissions claims.handle claims.admin) globalAdministrateAreas = false →
    db.person.contains claims.personID = true
  named : trimSpace (req.area.name.getD "") ≠ ""
  bounded : (req.area.name.getD "").length ≤ 255
  parent : ∃ parentSlug,
    validateParent (db.areas sortKey req.eventID) req.area.parentSlug "" = .ok parentSlug
  event : db.event.contains req.eventID = true

structure CrewAccepted (db : DB) (claims : IMSClaims) (req : CreateCrewRequest) : Prop where
  allowed : hasBit (globalPermissions claims.handle claims.admin) globalAdministrateCrews = true
  named : trimSpace (req.name.getD "") ≠ ""
  bounded : (req.name.getD "").length ≤ 255
  event : db.event.contains req.eventID = true

theorem length_trimSpace_le (s : String) : (trimSpace s).length ≤ s.length := by
  have hleft : (s.toList.dropWhile isSpace).length ≤ s.toList.length :=
    (List.dropWhile_suffix _).length_le
  have hright : ((s.toList.dropWhile isSpace).reverse.dropWhile isSpace).length ≤
      (s.toList.dropWhile isSpace).reverse.length := (List.dropWhile_suffix _).length_le
  rw [List.length_reverse] at hright
  rw [trimSpace, String.length_ofList, List.length_reverse, ← String.length_toList]
  omega

theorem nullOr_validateParent {sortKey : String → String} {db : DB} {e : Int}
    {asked parentSlug : Option String}
    (h : validateParent (db.areas sortKey e) asked "" = .ok parentSlug) :
    DB.nullOr db.area (parentSlug.map (e, ·)) = true := by
  cases asked with
  | none =>
      cases h
      rfl
  | some parent =>
      rw [validateParent] at h
      split at h
      · cases h
        rfl
      split at h
      · cases h
      split at h
      · cases h
      rename_i row hrow _
      cases h
      exact Table.contains_iff.mpr ⟨row.area, find?_areas hrow⟩

/-- The slugs that are taken are those of the event's rows. -/
theorem contains_area_of_free {sortKey : String → String} {db : DB} {e : Int} {slug : String}
    (h : slug ∉ (db.areas sortKey e).map (·.slug)) : db.area.contains (e, slug) = false := by
  refine Table.contains_eq_false_iff.mpr (Option.eq_none_iff_forall_ne_some.mpr fun a ha => h ?_)
  exact List.mem_map.mpr ⟨⟨slug, a⟩, DB.mem_areas.mpr ha, rfl⟩

theorem contains_crew_of_free {sortKey : String → String} {db : DB} {e : Int} {slug : String}
    (h : slug ∉ (db.crews sortKey e).map (·.slug)) : db.crew.contains (e, slug) = false := by
  refine Table.contains_eq_false_iff.mpr (Option.eq_none_iff_forall_ne_some.mpr fun a ha => h ?_)
  refine List.mem_map.mpr ⟨⟨slug, a⟩, ?_, rfl⟩
  rw [DB.crews, List.mem_insertionSort, List.mem_filterMap]
  exact ⟨((e, slug), a), Table.find?_eq_some_iff.mp ha, by simp⟩

/-- The new area's row fits its table if its slug fits its column. -/
theorem insertArea_iff {p : CreateAreaParams} {db : DB} (hname : p.area.name.length ≤ 255)
    (hnew : db.area.contains (p.event, p.slug) = false) (hevent : db.event.contains p.event = true)
    (hparent : DB.nullOr db.area (p.area.parentSlug.map (p.event, ·)) = true)
    (hproposer : DB.nullOr db.person p.area.proposedByPersonID = true) :
    (∃ db', DB.insertArea p db = .ok db') ↔ p.slug.length ≤ 128 := by
  have hparent' : DB.nullOr (db.area.insert (p.event, p.slug) p.area)
      (p.area.parentSlug.map (p.event, ·)) = true := by
    cases hp : p.area.parentSlug.map (p.event, ·) with
    | none => rfl
    | some k =>
        rw [hp] at hparent
        exact Table.contains_insert_of_contains _ hparent
  simp only [DB.insertArea, DB.column_eq_ok, DB.unique_eq_ok, DB.references_eq_ok]
  exact ⟨fun ⟨_, h, _⟩ => h, fun h => ⟨_, h, hname, hnew, hevent, hparent', hproposer, rfl⟩⟩

section Calls

variable {Rd Wr Ask : Type → Type} {ε η Out σ α β : Type} {S : Store Rd Wr ε σ} {env : Env Ask}
  {x : Call (DbOp Rd Wr Ask ε Out) η α} {f : α → Call (DbOp Rd Wr Ask ε Out) η β} {w : World σ Out}

/-- The call answers success. -/
def Succeeds (S : Store Rd Wr ε σ) (env : Env Ask) (x : Call (DbOp Rd Wr Ask ε Out) η α)
    (w : World σ Out) : Prop := ∃ a, (x.run S env w).1 = .ok a

theorem succeeds_bind_answers {a : α} {p : Prop} (hx : x.Answers S env w.db (.ok a))
    (hf : ∀ w', w'.db = w.db → (Succeeds S env (f a) w' ↔ p)) :
    Succeeds S env (x >>= f) w ↔ p := by
  obtain ⟨t, ht⟩ := hx.run_bind (f := f) rfl
  rw [Succeeds, ht]
  exact hf _ rfl

theorem succeeds_ensure {c : Bool} {e : η} {f : Unit → Call (DbOp Rd Wr Ask ε Out) η β}
    (hc : c = true) : Succeeds S env (Call.ensure c e >>= f) w ↔ Succeeds S env (f ()) w := by
  subst hc
  exact Iff.rfl

/-- What follows does not fail. -/
theorem succeeds_bind_unfailing
    (hf : ∀ a, (f a).Every (fun _ _ _ => True) anyOp (fun _ => False) fun _ => True) :
    Succeeds S env (x >>= f) w ↔ Succeeds S env x w := by
  rw [Succeeds, Succeeds, Call.run_bind]
  rcases hrun : x.run S env w with ⟨e | a, w₁⟩
  · exact ⟨fun ⟨_, h⟩ => (nomatch h), fun ⟨_, h⟩ => (nomatch h)⟩
  · refine ⟨fun _ => ⟨a, rfl⟩, fun _ => ?_⟩
    change ∃ b, ((f a).run S env w₁).1 = .ok b
    cases hres : ((f a).run S env w₁).1 with
    | error e => exact (Call.error_of_every (hf a) hres).elim
    | ok b => exact ⟨b, rfl⟩

theorem succeeds_write (hq : env.Quiet) {q : Wr β} {err : ε → η} :
    Succeeds S env (Call.mapErr err (Call.attempt (.write .pool q)) :
      Call (DbOp Rd Wr Ask ε Out) η β) w ↔ ∃ b s', S.apply q w.nextId w.db = .ok (b, s') := by
  rw [Succeeds, Call.run_mapErr, Call.run_attempt]
  simp only [step, hq w.tick, World.view_pool]
  cases S.apply q w.nextId w.db with
  | error e =>
      constructor
      · rintro ⟨_, h⟩
        cases h
      · rintro ⟨_, _, h⟩
        cases h
  | ok r => exact ⟨fun _ => ⟨r.1, r.2, rfl⟩, fun _ => ⟨r.1, rfl⟩⟩

end Calls

theorem unfailing_invalidateAreaCaches (e : Int) :
    (invalidateAreaCaches e).Every (fun _ _ _ => True) anyOp (fun _ => False) fun _ => True := by
  refine Call.every_bind (Q := fun _ => True) (Call.every_perform trivial fun _ _ => trivial)
    fun _ _ => ?_
  refine Call.every_bind (Q := fun _ => True) ?_ fun r _ => ?_
  · exact Call.Every.mono (Call.every_result (Call.every_any _)) (fun _ _ _ h => h)
      (fun _ _ h => h) (fun _ h => h) fun _ _ => trivial
  · cases r with
    | ok ev => exact Call.every_perform trivial fun _ _ => trivial
    | error e => exact Call.every_pure trivial

theorem createArea_applies {p : CreateAreaParams} {id : Int} {db : DB} :
    (∃ b db', (AreaWrite.createArea p).apply id db = .ok (b, db')) ↔
      ∃ db', DB.insertArea p db = .ok db' :=
  ⟨fun ⟨_, db', h⟩ => ⟨db', AreaWrite.createArea_eq_ok.mp h⟩,
    fun ⟨db', h⟩ => ⟨(), db', AreaWrite.createArea_eq_ok.mpr h⟩⟩

theorem answers_authorize {sortKey : String → String} {env : AreaEnv} (hq : env.Quiet) (db : DB)
    (claims : IMSClaims) (e : Int) :
    (authorize (some claims) e).Answers (areaDB sortKey) env db
      (.ok (claims, eventMaskIn db e claims, globalPermissions claims.handle claims.admin)) := by
  refine Call.Answers.widen ((answers_authenticated claims).bind ?_)
  have hnarrow : env.narrow.Quiet := fun t => hq t
  refine ((answers_eventPermissions hnarrow e claims).mapErr _).bind ?_
  rw [eventMasks_get_singleton]
  exact Call.answers_pure _

/-- A new area that is accepted is created exactly if a slug for its name is free and fits. -/
theorem succeeds_createArea {s : AreaService} {sortKey : String → String} {env : AreaEnv}
    (hq : env.Quiet) {claims : IMSClaims} {req : CreateAreaRequest} {w : AreaWorld}
    (h : AreaAccepted sortKey w.db claims req) :
    Succeeds (areaDB sortKey) env (createArea s (some claims) req) w ↔
      SlugFits s.unicode (req.area.name.getD "") ((w.db.areas sortKey req.eventID).map (·.slug)) := by
  obtain ⟨parentSlug, hparent⟩ := h.parent
  have hnamed : (trimSpace (req.area.name.getD "") != "") = true := by simpa using h.named
  rw [createArea]
  refine succeeds_bind_answers (answers_authorize hq _ _ _) fun w₁ hw₁ => ?_
  refine (succeeds_ensure h.allowed).trans ?_
  refine (succeeds_bind_unfailing fun slug => Call.every_bind (unfailing_invalidateAreaCaches _)
    fun _ _ => Call.every_pure trivial).trans ?_
  rw [insertNewArea]
  refine (succeeds_ensure hnamed).trans ?_
  have hfetch : (fetchAreas req.eventID).Answers (areaDB sortKey) env w₁.db
      (.ok (w.db.areas sortKey req.eventID)) := by
    rw [hw₁]
    exact (Call.answers_read hq _).mapErr _
  refine succeeds_bind_answers hfetch fun w₂ hw₂ => ?_
  rw [hparent]
  refine (succeeds_bind_unfailing fun _ => Call.every_pure trivial).trans ?_
  refine (succeeds_write hq).trans ?_
  rw [hw₂, hw₁, slugFits_iff]
  have hname : (trimSpace (req.area.name.getD "")).length ≤ 255 :=
    (length_trimSpace_le _).trans h.bounded
  have hnew := @contains_area_of_free sortKey w.db req.eventID _
    (isUniqueSlug_uniqueSlug s.unicode (req.area.name.getD "") _).free
  have hproposer := h.proposer
  generalize hasBit (globalPermissions claims.handle claims.admin) globalAdministrateAreas = isAreaAdmin
    at hproposer ⊢
  have hperson : DB.nullOr w.db.person (if isAreaAdmin then none else some claims.personID) = true := by
    cases isAreaAdmin with
    | true => rfl
    | false => exact hproposer rfl
  generalize trimSpace (req.area.name.getD "") = name at hname ⊢
  generalize uniqueSlug s.unicode (req.area.name.getD "") _ = slug at hnew ⊢
  generalize (if isAreaAdmin then none else some claims.personID) = proposer at hperson ⊢
  let p : CreateAreaParams :=
    ⟨req.eventID, slug, ⟨name, parentSlug, req.area.sortOrder.getD 0, isAreaAdmin, proposer⟩⟩
  have hfits : (∃ db', DB.insertArea p w.db = .ok db') ↔ slug.length ≤ 128 :=
    insertArea_iff hname hnew h.event (nullOr_validateParent hparent) hperson
  exact (@createArea_applies p w₂.nextId w.db).trans hfits

theorem answers_requireCrewAdmin {sortKey : String → String} {env : CrewEnv} (hq : env.Quiet) (db : DB)
    {claims : IMSClaims} (e : Int)
    (h : hasBit (globalPermissions claims.handle claims.admin) globalAdministrateCrews = true) :
    (requireCrewAdmin (some claims) e).Answers (crewDB sortKey) env db (.ok ()) := by
  have hnarrow : env.narrow.narrow.Quiet := fun t => hq t
  refine Call.Answers.bind (Call.Answers.widen (Call.Answers.widen (answers_authenticated claims))) ?_
  refine Call.Answers.bind (Call.Answers.widen (Call.Answers.widen
    ((answers_eventPermissions hnarrow e claims).mapErr _))) ?_
  simp only [h]
  exact Call.answers_pure ()

/-- The same for a new crew. -/
theorem succeeds_createCrew {s : CrewService} {sortKey : String → String} {env : CrewEnv}
    (hq : env.Quiet) {claims : IMSClaims} {req : CreateCrewRequest} {w : CrewWorld}
    (h : CrewAccepted w.db claims req) :
    Succeeds (crewDB sortKey) env (createCrew s (some claims) req) w ↔
      SlugFits s.unicode (req.name.getD "") ((w.db.crews sortKey req.eventID).map (·.slug)) := by
  have hnamed : (trimSpace (req.name.getD "") != "") = true := by simpa using h.named
  rw [createCrew]
  refine succeeds_bind_answers (answers_requireCrewAdmin hq _ _ h.allowed) fun w₁ hw₁ => ?_
  refine (succeeds_bind_unfailing fun slug => Call.every_bind (Q := fun _ => True)
    (Call.every_perform trivial fun _ _ => trivial) fun _ _ => Call.every_pure trivial).trans ?_
  rw [insertNewCrew]
  refine (succeeds_ensure hnamed).trans ?_
  have hfetch : (fetchCrews req.eventID).Answers (crewDB sortKey) env w₁.db
      (.ok (w.db.crews sortKey req.eventID)) := by
    rw [hw₁]
    exact (Call.answers_read hq _).mapErr _
  refine succeeds_bind_answers hfetch fun w₂ hw₂ => ?_
  refine (succeeds_bind_unfailing fun _ => Call.every_pure trivial).trans ?_
  refine (succeeds_write hq).trans ?_
  rw [hw₂, hw₁, slugFits_iff]
  have hnew := @contains_crew_of_free sortKey w.db req.eventID _
    (isUniqueSlug_uniqueSlug s.unicode (req.name.getD "") _).free
  have hinsert : ∀ slug crew id, (crewDB sortKey).apply (.inr (.createCrew req.eventID slug crew)) id
      w.db = (CrewWrite.createCrew req.eventID slug crew).apply id w.db := fun _ _ _ => rfl
  simp only [hinsert, CrewWrite.apply, DB.column_eq_ok, DB.unique_eq_ok, DB.references_eq_ok]
  constructor
  · rintro ⟨_, _, hslug, _⟩
    exact hslug
  · intro hslug
    exact ⟨_, _, hslug, (length_trimSpace_le _).trans h.bounded, hnew, h.event, rfl⟩

/-! ## When a slug fits -/

/-- A slug that is made is free, has the shape of one and the least number that does; and an area or
a crew whose request is accepted is created, with no other writer about, exactly if a slug for the
name is free that fits its column. -/
theorem slugs_fit (u : UnicodeTables) (sortKey : String → String) (claims : IMSClaims) :
    (∀ name taken, IsUniqueSlug (slugify u name) taken (uniqueSlug u name taken)) ∧
    (∀ (s : AreaService) (env : AreaEnv) (req : CreateAreaRequest) (w : AreaWorld), env.Quiet →
      AreaAccepted sortKey w.db claims req →
        (Succeeds (areaDB sortKey) env (createArea s (some claims) req) w ↔ SlugFits s.unicode
          (req.area.name.getD "") ((w.db.areas sortKey req.eventID).map (·.slug)))) ∧
    ∀ (s : CrewService) (env : CrewEnv) (req : CreateCrewRequest) (w : CrewWorld), env.Quiet →
      CrewAccepted w.db claims req →
        (Succeeds (crewDB sortKey) env (createCrew s (some claims) req) w ↔ SlugFits s.unicode
          (req.name.getD "") ((w.db.crews sortKey req.eventID).map (·.slug))) :=
  ⟨isUniqueSlug_uniqueSlug u, fun _ _ _ _ hq h => succeeds_createArea hq h,
    fun _ _ _ _ hq h => succeeds_createCrew hq h⟩

/-- The event's one area is the main camp, and so is its one crew. -/
def campDB : DB where
  event := Table.empty.insert 1 { name := "fair" }
  area := Table.empty.insert (1, "main-camp") { name := "Main Camp" }
  crew := Table.empty.insert (1, "main-camp") { name := "Main Camp" }

def asciiCrews : CrewService where
  unicode := asciiAreas.unicode

def campAdmin : IMSClaims := { personID := 1, handle := "Hawk", admin := true }

/-- A second main camp and its crew are created, under the next number. -/
theorem slugs_fit_mainCamp :
    Succeeds (areaDB id) stillAreaEnv
      (createArea asciiAreas (some campAdmin) ⟨1, { name := some "Main camp!" }⟩)
      { db := campDB, nextId := 1 } ∧
    Succeeds (crewDB id) stillCrewEnv
      (createCrew asciiCrews (some campAdmin) ⟨1, some "Main camp!"⟩)
      { db := campDB, nextId := 1 } := by
  obtain ⟨-, harea, hcrew⟩ := slugs_fit asciiAreas.unicode id campAdmin
  refine ⟨(harea _ _ _ _ (fun _ => rfl) ?_).mpr ?_, (hcrew _ _ _ _ (fun _ => rfl) ?_).mpr ?_⟩
  · exact ⟨by decide, fun h => absurd h (by decide), by decide,
      by decide, ⟨none, rfl⟩, by decide⟩
  · exact ⟨"main-camp-2", Or.inr ⟨2, le_rfl, by decide⟩, by decide,
      by decide⟩
  · exact ⟨by decide, by decide, by decide, by decide⟩
  · exact ⟨"main-camp-2", Or.inr ⟨2, le_rfl, by decide⟩, by decide,
      by decide⟩

/-! ## A name whose slug does not fit -/

theorem hyphenate_of_slugChars : ∀ (inRun : Bool) {l : List Char}, (∀ c ∈ l, isSlugChar c = true) →
    hyphenate inRun l = l
  | _, [], _ => rfl
  | inRun, c :: l, h => by
      rw [hyphenate, if_pos (h c List.mem_cons_self),
        hyphenate_of_slugChars false fun d hd => h d (List.mem_cons_of_mem _ hd)]

theorem dropWhile_of_slugChars {l : List Char} (h : ∀ c ∈ l, isSlugChar c = true) :
    l.dropWhile (· = '-') = l := by
  cases l with
  | nil => rfl
  | cons c l =>
      refine List.dropWhile_cons_of_neg fun hc => ?_
      have hslug := h c List.mem_cons_self
      rw [of_decide_eq_true hc, isSlugChar_hyphen] at hslug
      cases hslug

/-- A word of slug characters is its own slug. -/
theorem slugify_of_slugChars {u : UnicodeTables} {name : String} {w : List Char} (hne : w ≠ [])
    (hchars : ∀ c ∈ w, isSlugChar c = true) (hlower : (u.lower name).toList = w) :
    slugify u name = String.ofList w := by
  have hreverse : ∀ c ∈ w.reverse, isSlugChar c = true := fun c hc =>
    hchars c (List.mem_reverse.mp hc)
  have hempty : String.ofList w ≠ "" := fun h => hne (by
    simpa using congrArg String.toList h)
  simp only [slugify, hlower, hyphenate_of_slugChars false hchars, dropWhile_of_slugChars hchars,
    dropWhile_of_slugChars hreverse, List.reverse_reverse, if_neg hempty]

/-- Within the bounds of the names, and too long for a slug. -/
def longName : String := String.ofList (List.replicate 129 'a')

/-- A slug is at least as long as the plain one. -/
theorem length_slugify_le {u : UnicodeTables} {name : String} {taken : List String}
    (h : SlugFits u name taken) : (slugify u name).length ≤ 128 := by
  obtain ⟨slug, hslug, -, hlength⟩ := h
  cases hslug with
  | inl hplain => rwa [hplain] at hlength
  | inr hnumbered =>
      obtain ⟨k, -, hslug⟩ := hnumbered
      rw [hslug, String.length_append, String.length_append] at hlength
      omega

theorem slugify_replicate {n : Nat} (hn : n ≠ 0) :
    slugify asciiAreas.unicode (String.ofList (List.replicate n 'a')) =
      String.ofList (List.replicate n 'a') := by
  have hlower : (asciiAreas.unicode.lower (String.ofList (List.replicate n 'a'))).toList =
      List.replicate n 'a' := by
    rw [UnicodeTables.lower, String.toList_ofList, String.toList_ofList, List.map_replicate]
    rfl
  have hchars : ∀ c ∈ List.replicate n 'a', isSlugChar c = true := fun c hc => by
    rw [List.eq_of_mem_replicate hc]
    decide
  exact slugify_of_slugChars (by simpa using hn) hchars hlower

theorem not_slugFits_longName (taken : List String) :
    ¬ SlugFits asciiAreas.unicode longName taken := by
  intro h
  have hlength : (slugify asciiAreas.unicode (String.ofList (List.replicate 129 'a'))).length ≤ 128 :=
    length_slugify_le h
  rw [slugify_replicate (by decide), String.length_ofList, List.length_replicate] at hlength
  exact absurd hlength (by decide)

/-- Neither an area nor a crew of that name is created. -/
theorem longName_refused :
    (¬ ∀ (s : AreaService) (sortKey : String → String) (env : AreaEnv) (claims : IMSClaims)
      (req : CreateAreaRequest) (w : AreaWorld), env.Quiet → AreaAccepted sortKey w.db claims req →
        Succeeds (areaDB sortKey) env (createArea s (some claims) req) w) ∧
    ¬ ∀ (s : CrewService) (sortKey : String → String) (env : CrewEnv) (claims : IMSClaims)
      (req : CreateCrewRequest) (w : CrewWorld), env.Quiet → CrewAccepted w.db claims req →
        Succeeds (crewDB sortKey) env (createCrew s (some claims) req) w := by
  constructor
  · intro h
    have haccepted : AreaAccepted id campDB campAdmin ⟨1, { name := some longName }⟩ :=
      ⟨by decide +kernel, fun h => absurd h (by decide +kernel), by decide +kernel,
        by decide +kernel, ⟨none, rfl⟩, by decide +kernel⟩
    have hquiet : stillAreaEnv.Quiet := fun _ => rfl
    have hsucceeds := h asciiAreas id stillAreaEnv campAdmin ⟨1, { name := some longName }⟩
      { db := campDB, nextId := 1 } hquiet haccepted
    have hfits : SlugFits asciiAreas.unicode longName ((campDB.areas id 1).map (·.slug)) :=
      (succeeds_createArea (w := { db := campDB, nextId := 1 }) hquiet haccepted).mp hsucceeds
    exact not_slugFits_longName _ hfits
  · intro h
    have haccepted : CrewAccepted campDB campAdmin ⟨1, some longName⟩ :=
      ⟨by decide +kernel, by decide +kernel, by decide +kernel, by decide +kernel⟩
    have hquiet : stillCrewEnv.Quiet := fun _ => rfl
    have hsucceeds := h asciiCrews id stillCrewEnv campAdmin
      ⟨1, some longName⟩ { db := campDB, nextId := 1 } hquiet haccepted
    have hfits : SlugFits asciiCrews.unicode longName ((campDB.crews id 1).map (·.slug)) :=
      (succeeds_createCrew (w := { db := campDB, nextId := 1 }) hquiet haccepted).mp hsucceeds
    exact not_slugFits_longName _ hfits

end OcfIms
