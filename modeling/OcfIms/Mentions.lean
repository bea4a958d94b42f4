import OcfIms.JSText

/-!
# Mentions

The composer notes each person that is picked and the token it puts into the text for them. When the
text is sent, so are the people whose token still stands in it. A token is looked for anywhere in the
text, also within another word.
-/

namespace OcfIms

structure Picked where
  personId : Int
  token : JSString
  deriving DecidableEq, Repr

/-- A person as the search answers them. -/
structure MentionPerson where
  personId : Int
  handle : Option JSString
  name : Option JSString
  deriving DecidableEq, Repr

structure MentionTrigger where
  start : Nat
  query : JSString
  deriving DecidableEq, Repr

/-- `lastIndexOf("@")`. -/
def lastAt (s : JSString) : Option Nat :=
  match s.reverse.findIdx? (· == 64) with
  | none => none
  | some i => some (s.length - 1 - i)

/-- The `@word` the caret is inside. -/
def mentionQuery (text : JSString) (caret : Nat) : Option MentionTrigger :=
  let upto := text.take caret
  match lastAt upto with
  | none => none
  | some start =>
    if 0 < start ∧ ((upto.drop (start - 1)).head?.any isSpaceUnit) = false then none
    else
      let query := upto.drop (start + 1)
      if query.any isSpaceUnit = true then none else some { start, query }

/-- The handle, else the name. -/
def tokenFor (p : MentionPerson) : JSString :=
  64 :: orText ((p.handle.map trimText).getD []) ((p.name.map trimText).getD [])

/-- The token and a space over the trigger; the text and the caret after it. -/
def insertMention (text : JSString) (caret : Nat) (token : JSString) : JSString × Nat :=
  match mentionQuery text caret with
  | none => (text, caret)
  | some trigger =>
    let before := text.take trigger.start
    (before ++ token ++ 32 :: text.drop caret, before.length + token.length + 1)

/-- `add`, of a set in the order of insertion. -/
def setAdd (ids : List Int) (id : Int) : List Int := if id ∈ ids then ids else ids ++ [id]

def mentionedIds (text : JSString) (picked : List Picked) : List Int :=
  picked.foldl (fun ids m => if includes text m.token then setAdd ids m.personId else ids) []

/-- The composer's text, caret and picks. -/
structure ComposerState where
  text : JSString
  caret : Nat
  picked : List Picked
  deriving DecidableEq, Repr

/-- `pick`, of a person in the list that the typeahead shows. -/
def ComposerState.pick (s : ComposerState) (person : MentionPerson) : ComposerState :=
  let token := tokenFor person
  let next := insertMention s.text s.caret token
  { text := next.1, caret := next.2, picked := s.picked ++ [⟨person.personId, token⟩] }

/-! ## What stands in a text -/

/-- The token stands in the text as a mention of its own: from the start or after white space, up to
the end, white space or punctuation. -/
structure StandsIn (punctuation : UInt16 → Prop) (text token : JSString) : Prop where
  named : ∃ c cs, token = 64 :: c :: cs
  stands : ∃ before after, text = before ++ token ++ after ∧
    (∀ u ∈ before.getLast?, isSpaceUnit u = true) ∧
    ∀ u ∈ after.head?, isSpaceUnit u = true ∨ punctuation u

/-- The person is picked, and the other one only afterwards or not at all. -/
def PickedBefore (picked : List Picked) (p q : Int) : Prop :=
  ∃ first rest, picked = first ++ rest ∧ (∃ m ∈ first, m.personId = p) ∧
    ∀ m ∈ first, m.personId ≠ q

/-- The people whose mention stands in the text, each once, in the order of their first picks. -/
structure SendsMentions (punctuation : UInt16 → Prop) (text : JSString) (picked : List Picked) :
    Prop where
  mem : ∀ p, p ∈ mentionedIds text picked ↔
    ∃ m ∈ picked, m.personId = p ∧ StandsIn punctuation text m.token
  once : (mentionedIds text picked).Nodup
  order : (mentionedIds text picked).Pairwise (PickedBefore picked)
/-! ## Sets in the order of insertion -/

/-- The people of these picks. -/
def firstIds (picked : List Picked) : List Int :=
  picked.foldl (fun ids m => setAdd ids m.personId) []

section Sets

variable {l : List Picked} {p q : Int}

theorem firstIds_concat (l : List Picked) (m : Picked) :
    firstIds (l ++ [m]) = setAdd (firstIds l) m.personId := by
  rw [firstIds, List.foldl_append, List.foldl_cons, List.foldl_nil, firstIds]

theorem mem_setAdd {ids : List Int} {id : Int} : p ∈ setAdd ids id ↔ p ∈ ids ∨ p = id := by
  rw [setAdd]
  split
  · rename_i hmem
    exact ⟨.inl, fun h => h.elim (fun h => h) fun h => h ▸ hmem⟩
  · rw [List.mem_append, List.mem_singleton]

theorem mem_firstIds : p ∈ firstIds l ↔ ∃ m ∈ l, m.personId = p := by
  induction l using List.reverseRecOn with
  | nil => simp [firstIds]
  | append_singleton l m ih =>
      rw [firstIds_concat, mem_setAdd, ih]
      simp [or_and_right, exists_or, eq_comm]

theorem PickedBefore.append (h : PickedBefore l p q) (l' : List Picked) :
    PickedBefore (l ++ l') p q := by
  obtain ⟨first, rest, rfl, hp, hq⟩ := h
  exact ⟨first, rest ++ l', List.append_assoc first rest l', hp, hq⟩

theorem PickedBefore.asymm (h : PickedBefore l p q) : ¬ PickedBefore l q p := by
  obtain ⟨first, rest, hl, ⟨m, hm, hmp⟩, hq⟩ := h
  rintro ⟨first', rest', hl', ⟨m', hm', hmq⟩, hp⟩
  rcases List.prefix_or_prefix_of_prefix ⟨rest, hl.symm⟩ ⟨rest', hl'.symm⟩ with hpre | hpre
  · exact hp m (hpre.subset hm) hmp
  · exact hq m' (hpre.subset hm') hmq

/-- The set holds each person once, in the order of their first picks. -/
theorem nodup_firstIds : (firstIds l).Nodup ∧ (firstIds l).Pairwise (PickedBefore l) := by
  induction l using List.reverseRecOn with
  | nil => exact ⟨List.nodup_nil, List.Pairwise.nil⟩
  | append_singleton l m ih =>
      have hbefore : (firstIds l).Pairwise (PickedBefore (l ++ [m])) :=
        ih.2.imp fun h => h.append [m]
      rw [firstIds_concat, setAdd]
      split
      · exact ⟨ih.1, hbefore⟩
      · rename_i hnew
        refine ⟨List.nodup_append.mpr ⟨ih.1, List.nodup_singleton _, ?_⟩,
          List.pairwise_append.mpr ⟨hbefore, List.pairwise_singleton _ _, ?_⟩⟩
        · rintro p hp q hq rfl
          exact hnew (List.mem_singleton.mp hq ▸ hp)
        · intro p hp q hq
          rw [List.mem_singleton.mp hq]
          refine ⟨l, [m], rfl, mem_firstIds.mp hp, fun m' hm' heq => ?_⟩
          exact hnew (mem_firstIds.mpr ⟨m', hm', heq⟩)

/-- A list in the order of one relation is in the order of another if its elements are. -/
theorem pairwise_iff_of_pairwise {α : Type} {R S : α → α → Prop} (hR : ∀ a b, R a b → ¬ R b a) :
    ∀ {l : List α}, l.Pairwise R → (l.Pairwise S ↔ ∀ a ∈ l, ∀ b ∈ l, R a b → S a b)
  | [], _ => by simp
  | a :: l, h => by
      obtain ⟨hhead, htail⟩ := List.pairwise_cons.mp h
      rw [List.pairwise_cons, pairwise_iff_of_pairwise hR htail]
      constructor
      · rintro ⟨hfirst, hrest⟩ b hb c hc hbc
        rcases List.mem_cons.mp hb with rfl | hb'
        · rcases List.mem_cons.mp hc with rfl | hc'
          · exact (hR _ _ hbc hbc).elim
          · exact hfirst c hc'
        · rcases List.mem_cons.mp hc with rfl | hc'
          · exact (hR _ _ hbc (hhead b hb')).elim
          · exact hrest b hb' c hc' hbc
      · intro hall
        exact ⟨fun b hb => hall a List.mem_cons_self b (List.mem_cons_of_mem _ hb) (hhead b hb),
          fun b hb c hc => hall b (List.mem_cons_of_mem _ hb) c (List.mem_cons_of_mem _ hc)⟩

end Sets

/-! ## Tokens in a text -/

section Tokens

variable {punctuation : UInt16 → Prop} {text token : JSString} {picked : List Picked}

theorem StandsIn.includes (h : StandsIn punctuation text token) : includes text token = true := by
  obtain ⟨before, after, htext, -⟩ := h.stands
  exact includes_iff.mpr ⟨before, after, htext.symm⟩

/-- The picks whose token is somewhere in the text. -/
def included (text : JSString) (picked : List Picked) : List Picked :=
  picked.filter fun m => OcfIms.includes text m.token

theorem mentionedIds_eq (text : JSString) (picked : List Picked) :
    mentionedIds text picked = firstIds (included text picked) := by
  rw [mentionedIds, firstIds, included, List.foldl_filter]

theorem mem_mentionedIds {p : Int} : p ∈ mentionedIds text picked ↔
    ∃ m ∈ picked, m.personId = p ∧ OcfIms.includes text m.token = true := by
  rw [mentionedIds_eq, mem_firstIds, included]
  simp only [List.mem_filter]
  exact exists_congr fun m => by tauto

/-- **When the mentions are those of the text.** Whoever has a token in the text has a mention in it,
and the people with a token in the text are picked first in the order in which they are picked with
such a token. -/
theorem sendsMentions_iff : SendsMentions punctuation text picked ↔
    (∀ m ∈ included text picked, ∃ m' ∈ picked, m'.personId = m.personId ∧
      StandsIn punctuation text m'.token) ∧
    ∀ p q, (∃ m ∈ included text picked, m.personId = q) → PickedBefore (included text picked) p q →
      PickedBefore picked p q := by
  have horder : (mentionedIds text picked).Pairwise (PickedBefore picked) ↔
      ∀ p q, (∃ m ∈ included text picked, m.personId = q) →
        PickedBefore (included text picked) p q → PickedBefore picked p q := by
    rw [mentionedIds_eq, pairwise_iff_of_pairwise (fun _ _ => PickedBefore.asymm) nodup_firstIds.2]
    constructor
    · intro h p q hq hpq
      obtain ⟨first, rest, hl, ⟨m, hm, hmp⟩, -⟩ := id hpq
      refine h p (mem_firstIds.mpr ⟨m, ?_, hmp⟩) q (mem_firstIds.mpr hq) hpq
      rw [hl]
      exact List.mem_append_left _ hm
    · exact fun h p _ q hq hpq => h p q (mem_firstIds.mp hq) hpq
  constructor
  · intro h
    refine ⟨fun m hm => ?_, horder.mp h.order⟩
    have hmem : m.personId ∈ mentionedIds text picked := by
      rw [mentionedIds_eq]
      exact mem_firstIds.mpr ⟨m, hm, rfl⟩
    exact (h.mem _).mp hmem
  · rintro ⟨hstands, hfirst⟩
    refine ⟨fun p => ⟨fun hp => ?_, ?_⟩, ?_, horder.mpr hfirst⟩
    · rw [mentionedIds_eq] at hp
      obtain ⟨m, hm, rfl⟩ := mem_firstIds.mp hp
      exact hstands m hm
    · rintro ⟨m, hm, hp, hstand⟩
      exact mem_mentionedIds.mpr ⟨m, hm, hp, hstand.includes⟩
    · rw [mentionedIds_eq]
      exact nodup_firstIds.1

end Tokens

/-! ## What the composer inserts -/

section Insertion

variable {punctuation : UInt16 → Prop} {text token : JSString} {caret : Nat}
  {trigger : MentionTrigger}

/-- The last `@` is in the text. -/
theorem lastAt_lt {s : JSString} {i : Nat} (h : lastAt s = some i) : i < s.length := by
  rw [lastAt.eq_def] at h
  split at h
  · cases h
  · rename_i j hj
    cases h
    have hlt := (List.findIdx?_eq_some_iff_findIdx_eq.mp hj).1
    rw [List.length_reverse] at hlt
    omega

/-- What is before a trigger is nothing, or ends in white space. -/
theorem mentionQuery_before (h : mentionQuery text caret = some trigger) :
    ∀ u ∈ (text.take trigger.start).getLast?, isSpaceUnit u = true := by
  rw [mentionQuery.eq_def] at h
  simp only at h
  split at h
  · cases h
  · rename_i start hstart
    have hlt := lastAt_lt hstart
    rw [List.length_take] at hlt
    split at h
    · cases h
    · rename_i hspace
      split at h
      · cases h
      · cases h
        intro u hu
        change u ∈ (text.take start).getLast? at hu
        have hlen : (text.take start).length = start := by
          rw [List.length_take]
          omega
        rw [List.getLast?_eq_getElem?, hlen] at hu
        have hpos : 0 < start := by
          by_contra hzero
          have hnil : start = 0 := by omega
          subst hnil
          cases hu
        have hunit : (text.take caret)[start - 1]? = some u := by
          rw [List.getElem?_take_of_lt (by omega)] at hu ⊢
          exact hu
        have hany : ((text.take caret).drop (start - 1)).head?.any isSpaceUnit = true := by
          rw [← Bool.not_eq_false]
          exact fun hfalse => hspace ⟨hpos, hfalse⟩
        rwa [List.head?_drop, hunit, Option.any_some] at hany

/-- **The mention that is inserted stands in the text.** -/
theorem insertMention_stands (h : mentionQuery text caret = some trigger) {c : UInt16}
    {cs : JSString} : StandsIn punctuation (insertMention text caret (64 :: c :: cs)).1
      (64 :: c :: cs) := by
  refine ⟨⟨c, cs, rfl⟩, text.take trigger.start, 32 :: text.drop caret, ?_, mentionQuery_before h, ?_⟩
  · rw [insertMention, h]
  · intro u hu
    cases hu
    exact .inl (by decide)

/-- The token that is inserted is in the text. -/
theorem includes_insertMention (h : mentionQuery text caret = some trigger) :
    includes (insertMention text caret token).1 token = true := by
  rw [insertMention, h]
  exact includes_iff.mpr ⟨text.take trigger.start, 32 :: text.drop caret, rfl⟩

/-- Whoever is picked while the typeahead is open is among those sent. -/
theorem mem_mentionedIds_pick {s : ComposerState} {person : MentionPerson}
    (h : mentionQuery s.text s.caret = some trigger) :
    person.personId ∈ mentionedIds (s.pick person).text (s.pick person).picked :=
  mem_mentionedIds.mpr ⟨⟨person.personId, tokenFor person⟩,
    List.mem_append_right _ List.mem_cons_self, rfl, includes_insertMention h⟩

end Insertion

/-- **The mentions that are sent.** They are those that stand in the text, each person once and in the
order of the first picks, exactly where whoever has a token in the text has a mention in it and the
first picks with such a token keep the order of the first picks. And whoever the composer inserts is
among those sent. -/
theorem mentions_sent_iff (punctuation : UInt16 → Prop) :
    (∀ text picked, SendsMentions punctuation text picked ↔
      (∀ m ∈ picked, includes text m.token = true → ∃ m' ∈ picked, m'.personId = m.personId ∧
        StandsIn punctuation text m'.token) ∧
      ∀ p q, (∃ m ∈ included text picked, m.personId = q) →
        PickedBefore (included text picked) p q → PickedBefore picked p q) ∧
    ∀ text caret token picked id, mentionQuery text caret ≠ none → token ≠ [] →
      id ∈ mentionedIds (insertMention text caret token).1 (picked ++ [⟨id, token⟩]) := by
  refine ⟨fun text picked => ?_, fun text caret token picked id hquery _ => ?_⟩
  · rw [sendsMentions_iff]
    simp only [included, List.mem_filter, and_imp]
  · obtain ⟨trigger, htrigger⟩ := Option.ne_none_iff_exists'.mp hquery
    exact mem_mentionedIds.mpr ⟨⟨id, token⟩, List.mem_append_right _ List.mem_cons_self, rfl,
      includes_insertMention htrigger⟩

/-- The example of the composer's own tests. -/
theorem mentions_sent_iff_marisol :
    3 ∈ mentionedIds (insertMention (utf16 "hi @Ma there") 6 (utf16 "@Marisol")).1
      ([] ++ [⟨3, utf16 "@Marisol"⟩]) :=
  (mentions_sent_iff fun _ => False).2 _ _ _ [] 3 (by decide) (by decide)

/-- A person who is picked as Dee. -/
def deePicked : List Picked := [⟨7, utf16 "@Dee"⟩]

/-- Whoever was picked as Dee is sent for a text about Deepak. -/
theorem mentions_sent_to_nobody_there :
    mentionedIds (utf16 "@Deepak") deePicked = [7] ∧
      ¬ SendsMentions (fun _ => False) (utf16 "@Deepak") deePicked := by
  have hsent : mentionedIds (utf16 "@Deepak") deePicked = [7] := by decide
  refine ⟨hsent, fun h => ?_⟩
  obtain ⟨m, hm, -, hstands⟩ := (h.mem 7).mp (hsent ▸ List.mem_cons_self)
  rw [List.mem_singleton.mp hm] at hstands
  obtain ⟨before, after, htext, -, hafter⟩ := hstands.stands
  have hat : (64 : UInt16) ∉ utf16 "Deepak" := by decide
  cases before with
  | nil =>
      have hsplit : utf16 "@Dee" ++ utf16 "pak" = utf16 "@Dee" ++ after := htext
      have hrest : after = utf16 "pak" := (List.append_cancel_left hsplit).symm
      rw [hrest] at hafter
      rcases hafter 112 (by decide) with hspace | hpunctuation
      · exact absurd hspace (by decide)
      · exact hpunctuation
  | cons u before =>
      have htail := congrArg List.tail htext
      refine hat ?_
      rw [show utf16 "Deepak" = (utf16 "@Deepak").tail from rfl, htail, List.append_assoc]
      exact List.mem_append_right before (List.mem_append_left after List.mem_cons_self)

end OcfIms
