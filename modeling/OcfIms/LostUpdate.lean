import Mathlib
import OcfIms.LibObserved
import OcfIms.IncidentClosing

/-!
# Lost updates

An update writes the whole row of the incident, from a copy it read before it opened its transaction.
Two updates that set different fields both survive exactly if each of them opens its transaction
while the fields it does not set are stored as it read them: then it writes those back unchanged.
Otherwise the update that commits last takes back what the other has set, even if all it came for was
to append a journal entry.
-/

namespace OcfIms

open TxnLib RunLib

/-! ## The scalar fields of an incident -/

/-- A scalar that an update may set. The closing time goes with the state. -/
inductive ScalarField
  | state
  | priority
  | outcome
  | started
  | summary
  | isPrivate
  | areaSlug
  | description
  | booth
  deriving DecidableEq, Repr

/-- The column or columns of a scalar. -/
inductive ScalarValue
  | state (state : IncidentState) (closed : Option Int)
  | int (n : Int)
  | outcome (id : Option Int)
  | text (s : Option String)
  | flag (b : Bool)
  | booth (s : Option SqlText)
  deriving DecidableEq, Repr

/-- The columns an update writes, as a row has them. -/
def Incident.columns (i : Incident) : UpdateIncidentParams := (Edit.ofStored i).update

/-- The outcome column an update asks for: 0 clears it. -/
def outcomeToSql (id : Int) : Option Int := if id = 0 then none else some id

/-- The area column an update asks for: an empty slug clears it. -/
def slugToSql (areaSlug : String) : Option String :=
  if trimSpace areaSlug = "" then none else some (trimSpace areaSlug)

namespace ScalarField

/-- What a row, or the columns to be written, have in the field. -/
def value (p : UpdateIncidentParams) : ScalarField → ScalarValue
  | .state => .state p.state p.closed
  | .priority => .int p.priority
  | .outcome => .outcome p.outcomeID
  | .started => .int p.started
  | .summary => .text p.summary
  | .isPrivate => .flag p.isPrivate
  | .areaSlug => .text p.locationAreaSlug
  | .description => .text p.locationDescription
  | .booth => .booth p.locationBooth

/-- The update sets the field. -/
def setBy (inc : IncidentJSON) : ScalarField → Bool
  | .state => inc.state.isSome
  | .priority => inc.priority ≠ 0
  | .outcome => inc.outcomeID.isSome
  | .started => !isZero inc.started
  | .summary => inc.summary.isSome
  | .isPrivate => inc.isPrivate.isSome
  | .areaSlug => inc.location.areaSlug.isSome
  | .description => inc.location.description.isSome
  | .booth => inc.location.booth.isSome

/-- The field is as the update wants it. -/
def AsWanted (inc : IncidentJSON) (p : UpdateIncidentParams) : ScalarField → Prop
  | .state => inc.state = some p.state
  | .priority => p.priority = inc.priority
  | .outcome => inc.outcomeID.map outcomeToSql = some p.outcomeID
  | .started => p.started = timeToFloat inc.started
  | .summary => p.summary = textToSql inc.summary
  | .isPrivate => inc.isPrivate = some p.isPrivate
  | .areaSlug => inc.location.areaSlug.map slugToSql = some p.locationAreaSlug
  | .description => p.locationDescription = textToSql inc.location.description
  | .booth => p.locationBooth = stringToSql inc.location.booth 32

variable {inc : IncidentJSON} {p q : UpdateIncidentParams}

theorem AsWanted.of_value_eq {f : ScalarField} (h : f.AsWanted inc p) (hv : f.value p = f.value q) :
    f.AsWanted inc q := by
  cases f with
  | state =>
      obtain ⟨hstate, -⟩ := ScalarValue.state.inj hv
      exact h.trans (congrArg some hstate)
  | priority => exact (ScalarValue.int.inj hv).symm.trans h
  | outcome => exact h.trans (congrArg some (ScalarValue.outcome.inj hv))
  | started => exact (ScalarValue.int.inj hv).symm.trans h
  | summary => exact (ScalarValue.text.inj hv).symm.trans h
  | isPrivate => exact h.trans (congrArg some (ScalarValue.flag.inj hv))
  | areaSlug => exact h.trans (congrArg some (ScalarValue.text.inj hv))
  | description => exact (ScalarValue.text.inj hv).symm.trans h
  | booth => exact (ScalarValue.booth.inj hv).symm.trans h

/-- What an update wants of a field it wants of no other value; of the closing time it says
nothing. -/
theorem AsWanted.value_eq {f : ScalarField} (hp : f.AsWanted inc p) (hq : f.AsWanted inc q)
    (hclosed : p.state = q.state → p.closed = q.closed) : f.value p = f.value q := by
  cases f with
  | state =>
      have hstate : p.state = q.state := Option.some.inj (hp.symm.trans hq)
      exact congrArg₂ ScalarValue.state hstate (hclosed hstate)
  | priority => exact congrArg ScalarValue.int (Eq.trans hp (Eq.symm hq))
  | outcome => exact congrArg ScalarValue.outcome (Option.some.inj (hp.symm.trans hq))
  | started => exact congrArg ScalarValue.int (Eq.trans hp (Eq.symm hq))
  | summary => exact congrArg ScalarValue.text (Eq.trans hp (Eq.symm hq))
  | isPrivate => exact congrArg ScalarValue.flag (Option.some.inj (hp.symm.trans hq))
  | areaSlug => exact congrArg ScalarValue.text (Option.some.inj (hp.symm.trans hq))
  | description => exact congrArg ScalarValue.text (Eq.trans hp (Eq.symm hq))
  | booth => exact congrArg ScalarValue.booth (Eq.trans hp (Eq.symm hq))

end ScalarField

/-! ## What the scalar edits write -/

/-- The columns after some of the edits: what the update sets is set in the fields done so far, and
the rest is as stored. -/
structure Applied (inc : IncidentJSON) (stored : Incident) (done : List ScalarField)
    (p : UpdateIncidentParams) : Prop where
  set : ∀ f ∈ done, f.setBy inc = true → f.AsWanted inc p
  kept : ∀ f, f ∉ done ∨ f.setBy inc = false → f.value stored.columns = f.value p
  /-- The closing time changes with the state only. -/
  closed : stored.state = p.state → stored.closed = p.closed

section Edits

variable {inc : IncidentJSON} {stored : Incident} {done : List ScalarField} {ed : Edit}
  {p q : UpdateIncidentParams}

theorem applied_nil : Applied inc stored [] stored.columns :=
  ⟨fun _ h => absurd h List.not_mem_nil, fun _ _ => rfl, fun _ => rfl⟩

/-- One more edit, which leaves the other fields alone. -/
theorem Applied.cons {f : ScalarField} (h : Applied inc stored done p) (hf : f ∉ done)
    (hother : ∀ g, g ≠ f → g.value p = g.value q)
    (hset : f.setBy inc = true → f.AsWanted inc q)
    (hkept : f.setBy inc = false → f.value p = f.value q)
    (hclosed : f = .state → stored.state = q.state → stored.closed = q.closed) :
    Applied inc stored (f :: done) q := by
  refine ⟨fun g hg hs => ?_, fun g hg => ?_, ?_⟩
  · by_cases hgf : g = f
    · subst hgf
      exact hset hs
    · have hdone : g ∈ done := (List.mem_cons.mp hg).resolve_left hgf
      exact (h.set g hdone hs).of_value_eq (hother g hgf)
  · by_cases hgf : g = f
    · subst hgf
      have hunset : g.setBy inc = false := hg.resolve_left fun hn => hn List.mem_cons_self
      exact (h.kept g (Or.inl hf)).trans (hkept hunset)
    · refine (h.kept g ?_).trans (hother g hgf)
      exact hg.imp_left fun hn hm => hn (List.mem_cons_of_mem f hm)
  · by_cases hfs : f = .state
    · exact hclosed hfs
    · obtain ⟨hstate, heq⟩ := ScalarValue.state.inj (hother .state (Ne.symm hfs))
      rw [← hstate, ← heq]
      exact h.closed

/-- An edit that finds nothing to change. -/
theorem Applied.skip {f : ScalarField} (h : Applied inc stored done p) (hf : f ∉ done)
    (hset : f.setBy inc = true → f.AsWanted inc p) : Applied inc stored (f :: done) p :=
  h.cons hf (fun _ _ => rfl) hset (fun _ => rfl) fun _ => h.closed

/-- An edit whose field the update does not set. -/
theorem Applied.unset {f : ScalarField} (h : Applied inc stored done p) (hf : f ∉ done)
    (hunset : f.setBy inc = false) : Applied inc stored (f :: done) p :=
  h.skip hf fun hs => absurd (hunset.symm.trans hs) Bool.false_ne_true

/-- An edit of a field other than the state, made if a condition holds. -/
theorem Applied.ite {f : ScalarField} {c : Prop} [Decidable c] {ed' : Edit}
    (h : Applied inc stored done ed.update) (hf : f ∉ done) (hstate : f ≠ .state)
    (hother : ∀ g, g ≠ f → g.value ed.update = g.value ed'.update)
    (hnew : f.AsWanted inc ed'.update) (hset : c → f.setBy inc = true)
    (hsame : ¬ c → f.setBy inc = true → f.AsWanted inc ed.update) :
    Applied inc stored (f :: done) (if c then ed' else ed).update := by
  split
  · rename_i hc
    refine h.cons hf hother (fun _ => hnew) (fun hs => ?_) fun hfs => absurd hfs hstate
    exact absurd (hs.symm.trans (hset hc)) Bool.false_ne_true
  · exact h.skip hf (hsame ‹_›)

theorem applied_editPriority (h : Applied inc stored done ed.update) (hf : .priority ∉ done) :
    Applied inc stored (.priority :: done) (editPriority inc stored ed).update := by
  have hstored : stored.priority = ed.update.priority :=
    ScalarValue.int.inj (h.kept .priority (Or.inl hf))
  refine h.ite hf (fun hfs => nomatch hfs) (fun g hg => ?_) rfl (fun hc => ?_) fun hc hs => ?_
  · cases g <;> first | exact absurd rfl hg | rfl
  · exact decide_eq_true hc.1
  · have hset : inc.priority ≠ 0 := of_decide_eq_true hs
    have heq : inc.priority = stored.priority := by
      by_contra hne
      exact hc ⟨hset, hne⟩
    exact (heq.trans hstored).symm

theorem applied_editStarted (s : Service) (h : Applied inc stored done ed.update)
    (hf : .started ∉ done) :
    Applied inc stored (.started :: done) (editStarted inc stored s ed).update := by
  have hstored : stored.started = ed.update.started :=
    ScalarValue.int.inj (h.kept .started (Or.inl hf))
  unfold editStarted
  split
  · rename_i hzero
    exact h.unset hf (congrArg not hzero)
  · rename_i hset
    refine h.ite hf (fun hfs => nomatch hfs) (fun g hg => ?_) rfl (fun _ => ?_) fun hc _ => ?_
    · cases g <;> first | exact absurd rfl hg | rfl
    · exact congrArg not (Bool.eq_false_iff.mpr hset)
    · have heq : timeToFloat inc.started = stored.started := Decidable.not_not.mp hc
      exact (heq.trans hstored).symm

theorem applied_editSummary (h : Applied inc stored done ed.update) (hf : .summary ∉ done) :
    Applied inc stored (.summary :: done) (editSummary inc stored ed).update := by
  have hstored : stored.summary = ed.update.summary :=
    ScalarValue.text.inj (h.kept .summary (Or.inl hf))
  refine h.ite hf (fun hfs => nomatch hfs) (fun g hg => ?_) rfl (fun hc => hc.1) fun hc hs => ?_
  · cases g <;> first | exact absurd rfl hg | rfl
  · have heq : textToSql inc.summary = stored.summary := by
      by_contra hne
      exact hc ⟨hs, hne⟩
    exact (heq.trans hstored).symm

theorem applied_editDescription (h : Applied inc stored done ed.update)
    (hf : .description ∉ done) :
    Applied inc stored (.description :: done) (editDescription inc stored ed).update := by
  have hstored : stored.locationDescription = ed.update.locationDescription :=
    ScalarValue.text.inj (h.kept .description (Or.inl hf))
  refine h.ite hf (fun hfs => nomatch hfs) (fun g hg => ?_) rfl (fun hc => hc.1) fun hc hs => ?_
  · cases g <;> first | exact absurd rfl hg | rfl
  · have heq : textToSql inc.location.description = stored.locationDescription := by
      by_contra hne
      exact hc ⟨hs, hne⟩
    exact (heq.trans hstored).symm

theorem applied_editBooth (h : Applied inc stored done ed.update) (hf : .booth ∉ done) :
    Applied inc stored (.booth :: done) (editBooth inc stored ed).update := by
  have hstored : stored.locationBooth.map .text = ed.update.locationBooth :=
    ScalarValue.booth.inj (h.kept .booth (Or.inl hf))
  refine h.ite hf (fun hfs => nomatch hfs) (fun g hg => ?_) rfl (fun hc => hc.1) fun hc hs => ?_
  · cases g <;> first | exact absurd rfl hg | rfl
  · have heq : stringToSql inc.location.booth 32 = stored.locationBooth.map .text := by
      by_contra hne
      exact hc ⟨hs, hne⟩
    exact (heq.trans hstored).symm

variable {A : ∀ β : Type, Op β → β → Prop}

theorem every_editPrivacy_applied (author : Int) (admin : Bool)
    (h : Applied inc stored done ed.update) (hf : .isPrivate ∉ done) :
    (editPrivacy inc stored author admin ed).Every A (writesIn Call.noWrite) (fun _ => True)
      fun ed => Applied inc stored (.isPrivate :: done) ed.update := by
  have hstored : stored.isPrivate = ed.update.isPrivate :=
    ScalarValue.flag.inj (h.kept .isPrivate (Or.inl hf))
  unfold editPrivacy
  split
  · rename_i hunset
    exact Call.every_pure (h.unset hf (congrArg Option.isSome hunset))
  · rename_i p hset
    refine Call.every_ite (fun _ => Call.every_throw trivial) fun _ => ?_
    refine Call.every_ite (fun _ => Call.every_pure ?_) fun hsame => Call.every_pure ?_
    · refine h.cons hf (fun g hg => ?_) (fun _ => hset) (fun hs => ?_) fun hfs => nomatch hfs
      · cases g <;> first | exact absurd rfl hg | rfl
      · rw [ScalarField.setBy, hset] at hs
        cases hs
    · refine h.skip hf fun _ => ?_
      exact hset.trans (congrArg some ((Decidable.not_not.mp hsame).trans hstored))

theorem every_editState_applied (h : Applied inc stored done ed.update) (hf : .state ∉ done) :
    (editState inc stored ed).Every A (writesIn Call.noWrite) (fun _ => True)
      fun ed => Applied inc stored (.state :: done) ed.update := by
  obtain ⟨hstored, -⟩ := ScalarValue.state.inj (h.kept .state (Or.inl hf))
  -- a new state comes with a new closing time
  have hnew : ∀ {newState : IncidentState} {closed : Option Int} {line : String},
      inc.state = some newState → newState ≠ stored.state →
      Applied inc stored (.state :: done)
        (ed.set { ed.update with state := newState, closed := closed } line).update := by
    intro newState closed line hset hne
    refine h.cons hf (fun g hg => ?_) (fun _ => hset) (fun hs => ?_) fun _ heq => ?_
    · cases g <;> first | exact absurd rfl hg | rfl
    · rw [ScalarField.setBy, hset] at hs
      cases hs
    · exact absurd heq.symm hne
  unfold editState
  split
  · rename_i hunset
    exact Call.every_pure (h.unset hf (congrArg Option.isSome hunset))
  · rename_i newState hset
    refine Call.every_ite (fun hsame => Call.every_pure ?_) fun hne => ?_
    · refine h.skip hf fun _ => ?_
      exact hset.trans (congrArg some (hsame.trans hstored))
    · refine Call.every_ite (fun _ => ?_) fun _ => Call.every_pure (hnew hset hne)
      exact Call.every_bind (Q := fun _ => True) (every_now trivial fun _ => trivial)
        fun _ _ => Call.every_pure (hnew hset hne)

theorem every_editOutcome_applied (allOutcomes : List (Int × String))
    (h : Applied inc stored done ed.update) (hf : .outcome ∉ done) :
    (editOutcome inc stored allOutcomes ed).Every A (writesIn Call.noWrite) (fun _ => True)
      fun ed => Applied inc stored (.outcome :: done) ed.update := by
  have hstored : stored.outcomeID = ed.update.outcomeID :=
    ScalarValue.outcome.inj (h.kept .outcome (Or.inl hf))
  have hnew : ∀ {id : Int} {line : String}, inc.outcomeID = some id →
      Applied inc stored (.outcome :: done)
        (ed.set { ed.update with outcomeID := outcomeToSql id } line).update := by
    intro id line hset
    refine h.cons hf (fun g hg => ?_) (fun _ => ?_) (fun hs => ?_) fun hfs => nomatch hfs
    · cases g <;> first | exact absurd rfl hg | rfl
    · exact congrArg (Option.map outcomeToSql) hset
    · rw [ScalarField.setBy, hset] at hs
      cases hs
  have hsame : ∀ {id : Int}, inc.outcomeID = some id → stored.outcomeID = outcomeToSql id →
      Applied inc stored (.outcome :: done) ed.update := by
    intro id hset heq
    refine h.skip hf fun _ => ?_
    refine (congrArg (Option.map outcomeToSql) hset).trans ?_
    exact congrArg some (heq.symm.trans hstored)
  unfold editOutcome
  split
  · rename_i hunset
    exact Call.every_pure (h.unset hf (congrArg Option.isSome hunset))
  · rename_i id hset
    refine Call.every_ite (fun hzero => ?_) fun hid => ?_
    · have hcleared : outcomeToSql id = none := if_pos hzero
      refine Call.every_ite (fun _ => Call.every_pure ?_) fun hnone => Call.every_pure ?_
      · exact hcleared ▸ hnew hset
      · refine hsame hset ?_
        rw [hcleared]
        exact Option.not_isSome_iff_eq_none.mp hnone
    · have hnamed : outcomeToSql id = some id := if_neg hid
      refine Call.every_ite (fun heq => Call.every_pure ?_) fun _ => ?_
      · exact hsame hset (heq.trans hnamed.symm)
      · split
        · exact Call.every_throw trivial
        · exact Call.every_pure (hnamed ▸ hnew hset)

attribute [local irreducible] trimSpace in
theorem every_editArea_applied (e : Int) (h : Applied inc stored done ed.update)
    (hf : .areaSlug ∉ done) :
    (editArea inc stored e ed).Every A (writesIn Call.noWrite) (fun _ => True)
      fun ed => Applied inc stored (.areaSlug :: done) ed.update := by
  have hstored : stored.locationAreaSlug = ed.update.locationAreaSlug :=
    ScalarValue.text.inj (h.kept .areaSlug (Or.inl hf))
  have hnew : ∀ {slug line : String}, inc.location.areaSlug = some slug →
      Applied inc stored (.areaSlug :: done)
        (ed.set { ed.update with locationAreaSlug := slugToSql slug } line).update := by
    intro slug line hset
    refine h.cons hf (fun g hg => ?_) (fun _ => ?_) (fun hs => ?_) fun hfs => nomatch hfs
    · cases g <;> first | exact absurd rfl hg | rfl
    · exact congrArg (Option.map slugToSql) hset
    · rw [ScalarField.setBy, hset] at hs
      cases hs
  have hsame : ∀ {slug : String}, inc.location.areaSlug = some slug →
      stored.locationAreaSlug = slugToSql slug →
      Applied inc stored (.areaSlug :: done) ed.update := by
    intro slug hset heq
    refine h.skip hf fun _ => ?_
    refine (congrArg (Option.map slugToSql) hset).trans ?_
    exact congrArg some (heq.symm.trans hstored)
  unfold editArea
  split
  · rename_i hunset
    exact Call.every_pure (h.unset hf (congrArg Option.isSome hunset))
  · rename_i areaSlug hset
    refine Call.every_ite (fun hempty => ?_) fun hslug => ?_
    · have hcleared : slugToSql areaSlug = none := if_pos hempty
      refine Call.every_ite (fun _ => Call.every_pure ?_) fun hnone => Call.every_pure ?_
      · exact hcleared ▸ hnew hset
      · refine hsame hset ?_
        rw [hcleared]
        exact Option.not_isSome_iff_eq_none.mp hnone
    · have hnamed : slugToSql areaSlug = some (trimSpace areaSlug) := if_neg hslug
      refine Call.every_ite (fun heq => Call.every_pure ?_) fun _ => ?_
      · exact hsame hset (heq.trans hnamed.symm)
      · refine Call.every_bind (within_select _ _ _) fun _ _ => Call.every_pure ?_
        exact hnamed ▸ hnew hset

/-- The fields the edits go through, last one first. -/
def ScalarField.edited : List ScalarField :=
  [.areaSlug, .booth, .description, .summary, .started, .outcome, .state, .priority, .isPrivate]

theorem ScalarField.mem_edited (f : ScalarField) : f ∈ ScalarField.edited := by
  cases f <;> decide

/-- **What an update writes**: what it sets, and otherwise what it has read. -/
theorem every_scalarEdits_applied (s : Service) (inc : IncidentJSON) (st : LoadedIncident)
    (author : Int) (admin : Bool) :
    (scalarEdits s inc st author admin).Every A (writesIn Call.noWrite) (fun _ => True)
      fun ed => Applied inc st.row.incident ScalarField.edited ed.update := by
  refine Call.every_bind (every_editPrivacy_applied author admin applied_nil (by decide))
    fun ed hed => ?_
  refine Call.every_bind (every_editState_applied
    (applied_editPriority hed (by decide)) (by decide)) fun ed hed => ?_
  refine Call.every_bind (every_editOutcome_applied st.allOutcomes hed (by decide)) fun ed hed => ?_
  have hstarted := applied_editStarted s hed (by decide)
  have hsummary := applied_editSummary hstarted (by decide)
  have hdescription := applied_editDescription hsummary (by decide)
  exact every_editArea_applied st.row.event (applied_editBooth hdescription (by decide)) (by decide)

end Edits

/-! ## What an update's transaction does to the row -/

/-- From `db` to `db'`, the update wrote the row of the incident, from the copy `stored`. -/
def Wrote (inc : IncidentJSON) (e n : Int) (stored : Incident) (db db' : DB) : Prop :=
  ∀ cur, db.incident.find? (e, n) = some cur → ∃ new, db'.incident.find? (e, n) = some new ∧
    Applied inc stored ScalarField.edited new.columns ∧ new.created = cur.created ∧
    new.createdBy = cur.createdBy

/-- No write of an incident's row. -/
def sparesRows : Conn → ∀ β : Type, Write β → Prop
  | _, _, .createIncident _ _ _ _ _ _ _ => False
  | _, _, .updateIncident _ _ _ => False
  | _, _, _ => True

section Transaction

variable {env : ImsEnv} {inc : IncidentJSON} {e n : Int} {stored : Incident} {db db' : DB}

theorem incident_of_sparesRows {β : Type} {q : Write β} {c : Conn} {id : Int} {b : β}
    (hq : sparesRows c β q) (h : q.apply id db = .ok (b, db')) : db'.incident = db.incident := by
  cases Write.effect_of_apply h with
  | createIncident => exact hq.elim
  | updateIncident => exact hq.elim
  | updateIncident_none => exact hq.elim
  | _ => rfl

theorem permitsUpdate_sparesRows (inc : IncidentJSON) (st : LoadedIncident) :
    PermitsUpdate sparesRows inc st :=
  ⟨⟨fun _ => trivial, fun _ _ => trivial, fun _ => trivial⟩, fun _ => trivial, fun _ _ _ => trivial,
    fun _ => trivial, fun _ => trivial, fun _ _ => trivial, fun _ _ => trivial,
    fun _ _ _ => trivial, fun _ _ => ⟨trivial, trivial, fun _ => trivial⟩,
    fun _ _ => ⟨trivial, trivial, fun _ => trivial⟩⟩

theorem columns_updatedIncident {p : UpdateIncidentParams} {booth : Option String}
    (hbooth : p.locationBooth = booth.map .text) (i : Incident) :
    (DB.updatedIncident p booth i).columns = p := by
  cases p
  cases hbooth
  rfl

/-- The one write of the row. -/
theorem wrote_updateIncident {p : UpdateIncidentParams} {id : Int} {b : Unit}
    (hp : Applied inc stored ScalarField.edited p)
    (h : (Write.updateIncident e n p).apply id db = .ok (b, db')) :
    Wrote inc e n stored db db' := by
  intro cur hcur
  simp only [Write.apply, hcur, DB.textColumn_eq_ok, DB.references_eq_ok] at h
  obtain ⟨booth, hbooth, -, -, ⟨⟩⟩ := h
  refine ⟨DB.updatedIncident p booth cur, ?_, ?_, rfl, rfl⟩
  · rw [Table.find?_modify, if_pos rfl, hcur]
    rfl
  · rw [columns_updatedIncident hbooth]
    exact hp

theorem triple_updateIncidentBody_wrote (s : Service) (inc : IncidentJSON) (st : LoadedIncident)
    (author : Int) (admin : Bool) (db : DB) :
    Call.Triple imsDB env (fun w => w.txn = some db) (updateIncidentBody s inc st author admin)
      (fun _ w => ∀ db', w.txn = some db' →
        Wrote inc st.row.event st.row.number st.row.incident db db') fun _ _ => True := by
  have hstart : Call.Triple imsDB env (World.At .txn (· = db))
      (updateIncidentBody s inc st author admin)
      (fun _ w => w.At .txn (Wrote inc st.row.event st.row.number st.row.incident db))
      fun _ _ => True := by
    refine (Call.triple_noWrite (every_scalarEdits_applied s inc st author admin)
      fun _ _ => trivial).bind fun ed => ?_
    refine Call.Triple.of_fact (fun w h => h.2) fun hed => ?_
    have hrow : Call.Triple imsDB env (World.At .txn (· = db))
        (exec .txn (.updateIncident st.row.event st.row.number ed.update)
          (HTTPError.internalServerError "Failed to update incident"))
        (fun _ w => w.At .txn (Wrote inc st.row.event st.row.number st.row.incident db))
        fun _ _ => True := by
      refine triple_exec_at (L := fun _ => Wrote inc st.row.event st.row.number st.row.incident db)
        (fun id db₁ b db' h happly => ?_) fun _ _ => trivial
      obtain rfl : db₁ = db := h
      exact wrote_updateIncident hed happly
    refine (hrow.conseq (fun _ h => h.1) (fun _ _ h => h) fun _ _ h => h).bind fun _ => ?_
    refine (Call.triple_at_writesIn (fun β q id db₁ b db' hq hw happly => ?_)
      (every_reconcileAll (permitsUpdate_sparesRows inc st) (fun _ => trivial) s author _)
      fun _ _ => trivial).conseq (fun _ h => h) (fun _ _ h => h.1) fun _ _ h => h
    intro cur hcur
    rw [incident_of_sparesRows hq happly]
    exact hw cur hcur
  exact hstart.conseq (fun w hw db' h => Option.some.inj (h.symm.trans hw)) (fun _ _ h => h)
    fun _ _ h => h

end Transaction

/-! ## What an update has seen -/

/-- The reads of the incident's row. -/
def watchIncident (e n : Int) : ∀ β : Type, Read β → Bool
  | _, .incident e' n' => e' = e && n' = n
  | _, _ => false

/-- The call can only fail. -/
def IsError (r : Except ConnectError Unit) : Prop := ∃ err, r = .error err

/-- The step that opens the transaction leaves a call that can only fail, with the database as it
was, or writes the row of the incident from the copy seen last. -/
def WritesFrom (env : ImsEnv) (inc : IncidentJSON) (e n : Int) (seen : Option DB)
    (x : Prog Op (Except ConnectError Unit)) : Prop :=
  ∀ w : ImsWorld, w.txn = none →
    ((x.burst imsDB env w).1.Every anyAnswer idle IsError ∧ (x.burst imsDB env w).2.db = w.db) ∨
    ((x.burst imsDB env w).1.Every anyAnswer idle fun _ => True) ∧
      ∃ db stored, seen = some db ∧ db.incident.find? (e, n) = some stored ∧
        Wrote inc e n stored w.db (x.burst imsDB env w).2.db

section Looks

variable {env : ImsEnv} {s : Service} {inc : IncidentJSON} {e n : Int} {seen : Option DB}

/-- The call looks at the database until it writes the row of the incident. -/
abbrev LooksFrom (env : ImsEnv) (inc : IncidentJSON) (e n : Int) (seen : Option DB)
    (x : Go ConnectError Unit) : Prop :=
  x.prog.Looks imsDB env (watchIncident e n) (WritesFrom env inc e n) IsError seen

theorem LooksFrom.bind {α : Type} {x : Go ConnectError α} {f : α → Go ConnectError Unit}
    {R : α → Prop} (hx : x.Every (answersFrom imsDB env fun _ => True) (writesIn Call.noWrite)
      (fun _ => True) R) (hf : ∀ a seen, R a → LooksFrom env inc e n seen (f a)) :
    LooksFrom env inc e n seen (x >>= f) := by
  rw [LooksFrom, Call.prog_bind]
  refine Prog.Looks.bind (fun r seen hr => ?_) hx
  cases r with
  | ok a => exact hf a seen hr
  | error err => exact ⟨err, rfl⟩

/-- The rest of what an update loads, once it has the row. -/
def loadRest (inc : IncidentJSON) (row : IncidentRow) : Go HTTPError LoadedIncident := do
  let events ← select .pool .events (.internalServerError "Failed to fetch events")
  let allIncidentTypes ← loadIncidentTypes inc
  let allOutcomes ← loadOutcomes inc
  let linkedIncidents ← select .pool (.incidentLinkedIncidents row.event row.number)
    (.internalServerError "Failed to fetch linked incidents")
  pure { row, events, allIncidentTypes, allOutcomes, linkedIncidents }

theorem every_loadRest (inc : IncidentJSON) (row : IncidentRow) :
    (loadRest inc row).Every anyAnswer (unwatched (watchIncident e n)) (fun _ => True)
      fun st => st.row = row := by
  have hselect : ∀ {α : Type} {q : Read α} {err : SqlErr → HTTPError},
      watchIncident e n _ q = false → (select .pool q err).Every anyAnswer
        (unwatched (watchIncident e n)) (fun _ => True) fun _ => True :=
    fun hq => every_select hq (fun _ => trivial) fun _ _ => trivial
  refine Call.every_bind (hselect rfl) fun events _ => ?_
  refine Call.every_bind (Q := fun _ => True) ?_ fun types _ => ?_
  · exact Call.every_ite (fun _ => hselect rfl) fun _ => Call.every_pure trivial
  refine Call.every_bind (Q := fun _ => True) ?_ fun outcomes _ => ?_
  · exact Call.every_ite (fun _ => hselect rfl) fun _ => Call.every_pure trivial
  exact Call.every_bind (hselect rfl) fun linked _ => Call.every_pure rfl

theorem every_idle_of_noWrite {ε α : Type} {x : Go ε α} {E : ε → Prop} {Q : α → Prop}
    (hx : x.Every anyAnswer (writesIn Call.noWrite) E Q) :
    x.prog.Every anyAnswer idle fun _ => True := by
  refine Prog.Every.mono (fun _ _ _ h => h) (fun _ o h => ?_) (fun _ _ => trivial) hx
  cases o with
  | write c q => exact h.elim
  | begin => exact h.elim
  | _ => trivial

/-- A part that reads the row of the incident sees the database it finds the row in. -/
theorem looksFrom_select {α : Type} {q : Read α} {err : SqlErr → ConnectError}
    {f : α → Go ConnectError Unit} (hq : watchIncident e n _ q = true)
    (hf : ∀ db a, q.eval db = .ok a → LooksFrom env inc e n (some db) (f a)) :
    LooksFrom env inc e n seen (select .pool q err >>= f) := by
  intro db r hr
  rw [hq, if_pos rfl]
  cases r with
  | ok a => exact hf db a (hr a rfl)
  | error x => exact ⟨err x, rfl⟩

/-- A part that does not leaves what was seen. -/
theorem looksFrom_unwatched {α : Type} {x : Go ConnectError α} {f : α → Go ConnectError Unit}
    {R : α → Prop} (hx : x.Every anyAnswer (unwatched (watchIncident e n)) (fun _ => True) R)
    (hf : ∀ a, R a → LooksFrom env inc e n seen (f a)) :
    LooksFrom env inc e n seen (x >>= f) := by
  rw [LooksFrom, Call.prog_bind]
  refine Prog.Looks.bind_unwatched (fun r hr => ?_) hx
  cases r with
  | ok a => exact hf a hr
  | error err => exact ⟨err, rfl⟩

/-- The transaction of an update and what follows it. -/
theorem writesFrom_transaction (s : Service) {payload : IncidentJSON}
    (hinc : ∀ stored p, Applied inc stored ScalarField.edited p →
      Applied payload stored ScalarField.edited p)
    (st : LoadedIncident) (author : Int) (admin : Bool) (event : String) {db : DB}
    (hrow : st.row.event = e ∧ st.row.number = n)
    (hdb : db.incident.find? (e, n) = some st.row.incident) :
    LooksFrom env payload e n (some db) (Call.mapErr herrToConnect
      (begin (.internalServerError "Failed to start transaction") >>= fun _ =>
        Call.deferRollback (updateIncidentBody s inc st author admin >>= fun touched =>
          commit (.internalServerError "Failed to commit transaction") >>= fun _ =>
            announceUpdate inc st author touched)) >>= fun _ => emit (.invalidateEvent event)) := by
  rw [LooksFrom, Call.prog_mapErr_bind]
  refine Prog.Looks.of_opens rfl fun w hw => ?_
  have hwrites : (updateIncidentBody s inc st author admin).Every anyAnswer
      (writesIn Call.sparesPool) (fun _ => True) fun _ => True := by
    refine Call.every_bind (every_scalarEdits (fun _ => trivial) s inc st author admin)
      fun ed _ => ?_
    refine Call.every_bind (Q := fun _ => True)
      (every_exec trivial (fun _ => trivial) fun _ _ => trivial) fun _ _ => ?_
    exact every_reconcileAll (permitsUpdate_sparesPool inc st) (fun _ => trivial) s author _
  have hburst := burst_transaction (S := imsDB) (F := IsError) (s := w.db)
    (h := Call.andThen herrToConnect fun _ => emit (.invalidateEvent event))
    (g := fun touched => announceUpdate inc st author touched)
    (fun _ _ => id) hwrites
    (triple_updateIncidentBody_wrote s inc st author admin w.db : Call.Triple imsDB env _ _ _ _)
    (fun touched => every_idle_of_noWrite (every_announceUpdate (A := anyAnswer)
      (E := fun _ => True) inc st author touched))
    (fun err => ⟨herrToConnect err, rfl⟩) (fun r => ?_)
    (.internalServerError "Failed to start transaction")
    (.internalServerError "Failed to commit transaction") hw rfl rfl
  · refine hburst.imp_right fun h => ⟨h.1, db, st.row.incident, rfl, hdb, ?_⟩
    obtain ⟨rfl, rfl⟩ := hrow
    intro cur hcur
    obtain ⟨new, hnew, happlied, hkept⟩ := h.2 cur hcur
    exact ⟨new, hnew, hinc _ _ happlied, hkept⟩
  · cases r with
    | ok _ => exact ⟨trivial, fun _ _ => trivial⟩
    | error _ => trivial

/-- From the row on, an update writes what it sets over what the row had. -/
theorem looksFrom_updateIncident (s : Service) (inc payload : IncidentJSON)
    (hinc : ∀ stored p, Applied inc stored ScalarField.edited p →
      Applied payload stored ScalarField.edited p) (author : Int) (admin : Bool) (event : String) :
    LooksFrom env payload inc.eventID inc.number seen
      (Call.mapErr herrToConnect (updateIncident s inc author admin) >>= fun _ =>
        emit (.invalidateEvent event)) := by
  have hload : updateIncident s inc author admin =
      select .pool (.incident inc.eventID inc.number)
        (.internalServerError "Failed to fetch incident") >>= fun row => loadRest inc row >>= fun st =>
          begin (.internalServerError "Failed to start transaction") >>= fun _ =>
            Call.deferRollback (updateIncidentBody s inc st author admin >>= fun touched =>
              commit (.internalServerError "Failed to commit transaction") >>= fun _ =>
                announceUpdate inc st author touched) := by
    simp only [updateIncident, updateIncidentTxn_bind, loadIncident, loadRest, bind_assoc, pure_bind]
  rw [hload, Call.mapErr_bind, bind_assoc]
  have hselect : Call.mapErr herrToConnect (select .pool (.incident inc.eventID inc.number)
      (HTTPError.internalServerError "Failed to fetch incident")) =
        select .pool (.incident inc.eventID inc.number)
          (herrToConnect ∘ HTTPError.internalServerError "Failed to fetch incident") :=
    Call.mapErr_mapErr _ _ _
  rw [hselect]
  refine looksFrom_select (by simp [watchIncident]) fun db row hrow => ?_
  rw [Call.mapErr_bind, bind_assoc]
  refine looksFrom_unwatched (Call.every_mapErr (every_loadRest inc row)) fun st hst => ?_
  rw [Read.eval, DB.one_eq_ok, Option.map_eq_some_iff] at hrow
  obtain ⟨i, hi, rfl⟩ := hrow
  exact writesFrom_transaction s hinc st author admin event (by rw [hst]; exact ⟨rfl, rfl⟩)
    (by rw [hst]; exact hi)

/-- The whole method: the gates look at the database too. -/
theorem looksFrom_updateIncidentRPC (s : Service) (caller : Option IMSClaims)
    (req : UpdateIncidentRequest) (seen : Option DB) :
    LooksFrom env (incidentUpdateToJSON req.update) req.eventId req.incidentNumber seen
      (updateIncidentRPC s caller req) := by
  have hevent : (fetchEvent req.eventId).Every (answersFrom imsDB env fun _ => True)
      (writesIn Call.noWrite) (fun _ => True) fun ev => ev.id = req.eventId := by
    refine every_select trivial (fun _ => trivial) fun ev hev => ?_
    obtain ⟨db, -, heval⟩ := hev ev rfl
    change (Read.event req.eventId).eval db = .ok ev at heval
    rw [Read.eval, DB.one_eq_ok, Option.map_eq_some_iff] at heval
    obtain ⟨row, -, rfl⟩ := heval
    rfl
  refine LooksFrom.bind (within_authenticated caller) fun claims seen _ => ?_
  refine LooksFrom.bind hevent fun ev seen hev => ?_
  refine LooksFrom.bind (within_permissionsAt _ _) fun perms seen _ => ?_
  refine LooksFrom.bind (within_requireWriteOrGrant _ _ _) fun _ seen _ => ?_
  refine LooksFrom.bind (within_requireIncidentVisible _ _ _) fun _ seen _ => ?_
  rw [← hev]
  exact looksFrom_updateIncident s { incidentUpdateToJSON req.update with
    event := ev.event.name, eventID := ev.id, number := req.incidentNumber }
    (incidentUpdateToJSON req.update) (fun _ _ h => ⟨h.set, h.kept, h.closed⟩) claims.personID claims.admin ev.event.name

end Looks

/-! ## Two updates of one incident -/

/-- The call `b` updates incident `n` of event `e` with the payload `u b`. -/
def updateOf (caller : Bool → Option IMSClaims) (e n : Int) (u : Bool → Option IncidentUpdate)
    (b : Bool) : IncidentCall :=
  .update (caller b) { eventId := e, incidentNumber := n, update := u b }

/-- A system of incident writes that have not started yet, none of which has seen the incident. -/
def observedSys {ι : Type} (s : Service) (calls : ι → IncidentCall) (w : ImsWorld) :
    Observed Read Write Ask SqlErr Effect DB (Except ConnectError Unit) ι :=
  { sys := incidentSys s calls w }

/-- Where the call is about to open its transaction, the fields it does not set are stored as it has
read them. -/
def Fresh (e n : Int) (u : Bool → Option IncidentUpdate)
    (t : Observed Read Write Ask SqlErr Effect DB (Except ConnectError Unit) Bool) (b : Bool) :
    Prop :=
  (t.sys.procs b).opens = true → ∀ db stored cur, t.seen b = some db →
    db.incident.find? (e, n) = some stored →
    t.sys.world.db.incident.find? (e, n) = some cur →
    ∀ f : ScalarField, f.setBy (incidentUpdateToJSON (u b)) = false →
      f.value stored.columns = f.value cur.columns

/-- Nothing is lost: what either update sets is set, and the rest is as it was. -/
structure KeepsBoth (u : Bool → Option IncidentUpdate) (before after : Incident) : Prop where
  set : ∀ (b : Bool) (f : ScalarField), f.setBy (incidentUpdateToJSON (u b)) = true →
    f.AsWanted (incidentUpdateToJSON (u b)) after.columns
  kept : ∀ f : ScalarField, (∀ b, f.setBy (incidentUpdateToJSON (u b)) = false) →
    f.value before.columns = f.value after.columns
  created : after.created = before.created ∧ after.createdBy = before.createdBy

section Runs

variable {env : ImsEnv} {e n : Int} {u : Bool → Option IncidentUpdate} {before : Incident}

/-- Two updates under way. -/
abbrev Updates : Type 1 :=
  Observed Read Write Ask SqlErr Effect DB (Except ConnectError Unit) Bool

/-- The row of the incident is `i`. -/
def HasRow (e n : Int) (db : DB) (i : Incident) : Prop := db.incident.find? (e, n) = some i

/-- The call has not written yet, and the row it saw last is one of `rows`. -/
structure Unwritten (env : ImsEnv) (e n : Int) (u : Bool → Option IncidentUpdate)
    (rows : Incident → Prop) (t : Updates) (b : Bool) : Prop where
  looks : (t.sys.procs b).Looks imsDB env (watchIncident e n)
    (WritesFrom env (incidentUpdateToJSON (u b)) e n) IsError (t.seen b)
  seen : ∀ db, t.seen b = some db → ∃ i, HasRow e n db i ∧ rows i

/-- The call `b` wrote `new` over `cur`, from the copy `stored`. -/
structure WroteRow (u : Bool → Option IncidentUpdate) (b : Bool) (stored cur new : Incident) :
    Prop where
  applied : Applied (incidentUpdateToJSON (u b)) stored ScalarField.edited new.columns
  created : new.created = cur.created ∧ new.createdBy = cur.createdBy

/-- Where a run stands: which of the two have written the row, and from which copy. `fresh` says that
every step so far was fresh. -/
inductive Phase (env : ImsEnv) (e n : Int) (u : Bool → Option IncidentUpdate) (before : Incident)
    (fresh : Prop) (t : Updates) : Prop
  | failed (b : Bool) (h : (t.sys.procs b).Every anyAnswer idle IsError)
  | neither (hrow : HasRow e n t.sys.world.db before)
      (hunwritten : ∀ b, Unwritten env e n u (· = before) t b) (hfresh : fresh)
  | first (c : Bool) (mid : Incident) (hrow : HasRow e n t.sys.world.db mid)
      (hwrote : WroteRow u c before before mid)
      (hidle : (t.sys.procs c).Every anyAnswer idle fun _ => True)
      (hunwritten : Unwritten env e n u (fun i => i = before ∨ i = mid) t (!c)) (hfresh : fresh)
  | both (c : Bool) (mid stored after : Incident) (hrow : HasRow e n t.sys.world.db after)
      (hfirst : WroteRow u c before before mid) (hsecond : WroteRow u (!c) stored mid after)
      (hstored : stored = before ∨ stored = mid)
      (hidle : ∀ b, (t.sys.procs b).Every anyAnswer idle fun _ => True)
      (hfresh : fresh ↔ ∀ f : ScalarField, f.setBy (incidentUpdateToJSON (u (!c))) = false →
        f.value stored.columns = f.value mid.columns)

variable {t t' : Updates} {a b : Bool} {rows rows' : Incident → Prop}

theorem Unwritten.of_ne (hp : Unwritten env e n u rows t b) (hrows : ∀ i, rows i → rows' i)
    (h : t.turn imsDB env (watchIncident e n) a = some t') (hb : b ≠ a) :
    Unwritten env e n u rows' t' b := by
  obtain ⟨hproc, hseen⟩ := turn_of_ne h hb
  refine ⟨?_, fun db hdb => ?_⟩
  · rw [hproc, hseen]
    exact hp.looks
  · rw [hseen] at hdb
    obtain ⟨i, hi, hri⟩ := hp.seen db hdb
    exact ⟨i, hi, hrows i hri⟩

/-- A step of a call that has not written yet: it looks on, or it fails, or it writes from the copy
it has seen. -/
theorem Unwritten.turn {cur : Incident} (hp : Unwritten env e n u rows t a)
    (h : t.turn imsDB env (watchIncident e n) a = some t') (htxn : t.sys.world.txn = none)
    (hrow : HasRow e n t.sys.world.db cur) (hcur : rows cur) :
    ((t.sys.procs a).opens = false ∧ Unwritten env e n u rows t' a ∧
      HasRow e n t'.sys.world.db cur) ∨
    (t'.sys.procs a).Every anyAnswer idle IsError ∨
    ∃ db stored new, t.seen a = some db ∧ HasRow e n db stored ∧ rows stored ∧
      (t.sys.procs a).opens = true ∧ HasRow e n t'.sys.world.db new ∧
      WroteRow u a stored cur new ∧ (t'.sys.procs a).Every anyAnswer idle fun _ => True := by
  rcases turn_looks h htxn hp.looks with ⟨hopens, hwrites⟩ | ⟨hopens, hlooks, hdb⟩
  · obtain ⟨hproc, hworld, -⟩ := turn_self h
    rcases hwrites t.sys.world htxn with ⟨hfails, -⟩ | ⟨hidle, db, stored, hseen, hstored, hwrote⟩
    · rw [← hproc] at hfails
      exact Or.inr (Or.inl hfails)
    · rw [← hproc] at hidle
      rw [← hworld] at hwrote
      obtain ⟨new, hnew, happlied, hcreated⟩ := hwrote cur hrow
      obtain ⟨i, hi, hri⟩ := hp.seen db hseen
      obtain rfl : i = stored := Option.some.inj (hi.symm.trans hstored)
      exact Or.inr (Or.inr ⟨db, i, new, hseen, hi, hri, hopens, hnew, ⟨happlied, hcreated⟩, hidle⟩)
  · refine Or.inl ⟨hopens, ⟨hlooks, fun db hseen => ?_⟩, hdb ▸ hrow⟩
    rw [(turn_self h).2.2] at hseen
    split at hseen
    · obtain rfl := Option.some.inj hseen
      exact ⟨cur, hrow, hcur⟩
    · exact hp.seen db hseen

theorem fresh_of_not_opens (h : (t.sys.procs a).opens = false) : Fresh e n u t a :=
  fun hopens => absurd (h.symm.trans hopens) Bool.false_ne_true

/-- The step that writes is fresh if and only if the copy and the row agree on the fields the update
does not set. -/
theorem fresh_iff {db : DB} {stored cur : Incident} (hopens : (t.sys.procs a).opens = true)
    (hseen : t.seen a = some db) (hstored : HasRow e n db stored)
    (hcur : HasRow e n t.sys.world.db cur) :
    Fresh e n u t a ↔ ∀ f : ScalarField, f.setBy (incidentUpdateToJSON (u a)) = false →
      f.value stored.columns = f.value cur.columns := by
  constructor
  · exact fun h => h hopens db stored cur hseen hstored hcur
  · intro h _ db' stored' cur' hseen' hstored' hcur'
    obtain rfl := Option.some.inj (hseen.symm.trans hseen')
    obtain rfl := Option.some.inj (hstored.symm.trans hstored')
    obtain rfl := Option.some.inj (hcur.symm.trans hcur')
    exact h

variable {fresh fresh' : Prop}

/-- **The step lemma.** -/
theorem Phase.turn (hp : Phase env e n u before fresh t) (htxn : t.sys.world.txn = none)
    (h : t.turn imsDB env (watchIncident e n) a = some t')
    (hfresh : fresh' ↔ fresh ∧ Fresh e n u t a) : Phase env e n u before fresh' t' := by
  cases hp with
  | failed b hfails =>
      by_cases hb : b = a
      · subst hb
        exact .failed b (turn_idle h htxn hfails).1
      · refine .failed b ?_
        rw [(turn_of_ne h hb).1]
        exact hfails
  | neither hrow hunwritten hf =>
      rcases (hunwritten a).turn h htxn hrow rfl with
        ⟨hopens, hlooks, hrow'⟩ | hfails | ⟨db, stored, new, hseen, hstored, rfl, hopens, hnew, hw, hi⟩
      · refine .neither hrow' (fun b => ?_) (hfresh.mpr ⟨hf, fresh_of_not_opens hopens⟩)
        by_cases hb : b = a
        · subst hb
          exact hlooks
        · exact (hunwritten b).of_ne (fun _ h => h) h hb
      · exact .failed a hfails
      · have hother : Unwritten env e n u (fun i => i = stored ∨ i = new) t' (!a) :=
          (hunwritten (!a)).of_ne (fun _ => Or.inl) h (Bool.not_ne_self a)
        refine .first a new hnew hw hi hother (hfresh.mpr ⟨hf, ?_⟩)
        exact (fresh_iff hopens hseen hstored hrow).mpr fun _ _ => rfl
  | first c mid hrow hwrote hidle hunwritten hf =>
      by_cases hc : a = c
      · subst hc
        obtain ⟨hidle', hdb⟩ := turn_idle h htxn hidle
        have hother := hunwritten.of_ne (fun _ h => h) h (Bool.not_ne_self a)
        exact .first a mid (hdb ▸ hrow) hwrote hidle' hother
          (hfresh.mpr ⟨hf, fresh_of_not_opens (opens_of_idle hidle)⟩)
      · obtain rfl : a = !c := Bool.eq_not.mpr hc
        have hidle' : (t'.sys.procs c).Every anyAnswer idle fun _ => True := by
          rw [(turn_of_ne h (Bool.self_ne_not c)).1]
          exact hidle
        rcases hunwritten.turn h htxn hrow (Or.inr rfl) with
          ⟨hopens, hlooks, hrow'⟩ | hfails | ⟨db, stored, new, hseen, hstored, hs, hopens, hnew, hw, hi⟩
        · exact .first c mid hrow' hwrote hidle' hlooks
            (hfresh.mpr ⟨hf, fresh_of_not_opens hopens⟩)
        · exact .failed _ hfails
        · refine .both c mid stored new hnew hwrote hw hs (fun b => ?_) ?_
          · by_cases hb : b = c
            · subst hb
              exact hidle'
            · obtain rfl : b = !c := Bool.eq_not.mpr hb
              exact hi
          · rw [hfresh, fresh_iff hopens hseen hstored hrow]
            exact and_iff_right hf
  | both c mid stored after hrow hfirst hsecond hstored hidle hf =>
      obtain ⟨hidle', hdb⟩ := turn_idle h htxn (hidle a)
      refine .both c mid stored after (hdb ▸ hrow) hfirst hsecond hstored (fun b => ?_) ?_
      · by_cases hb : b = a
        · subst hb
          exact hidle'
        · rw [(turn_of_ne h hb).1]
          exact hidle b
      · rw [hfresh, ← hf]
        exact and_iff_left (fresh_of_not_opens (opens_of_idle (hidle a)))

/-- The run lemma. -/
theorem phase_of_run (s : Service) (caller : Bool → Option IMSClaims) (w : ImsWorld)
    (htxn : w.txn = none) (hbefore : HasRow e n w.db before) {as : List Bool}
    (hr : Run (Observed.turn imsDB env (watchIncident e n))
      (observedSys s (updateOf caller e n u) w) as t) :
    t.sys.world.txn = none ∧ Phase env e n u before
      (RunMeeting (Observed.turn imsDB env (watchIncident e n)) (Fresh e n u)
        (observedSys s (updateOf caller e n u) w) as t) t := by
  induction hr with
  | start =>
      refine ⟨htxn, .neither hbefore (fun b => ⟨?_, fun db hdb => nomatch hdb⟩) .start⟩
      exact looksFrom_updateIncidentRPC s (caller b)
        { eventId := e, incidentNumber := n, update := u b } none
  | next hr hs ih =>
      refine ⟨turn_txn hs, ?_⟩
      exact ih.2.turn ih.1 hs (RunMeeting.snoc_iff hr hs)

/-- What two writes of disjoint fields leave: nothing is lost exactly if the second copy agrees with
the row it was written over on the fields the second call does not set. -/
theorem keepsBoth_iff {c : Bool} {mid stored after : Incident}
    (hdisjoint : ∀ f : ScalarField, ¬ (f.setBy (incidentUpdateToJSON (u c)) = true ∧
      f.setBy (incidentUpdateToJSON (u (!c))) = true))
    (hfirst : WroteRow u c before before mid) (hsecond : WroteRow u (!c) stored mid after)
    (hstored : stored = before ∨ stored = mid) :
    KeepsBoth u before after ↔ ∀ f : ScalarField, f.setBy (incidentUpdateToJSON (u (!c))) = false →
      f.value stored.columns = f.value mid.columns := by
  have hdone : ∀ (b : Bool) (f : ScalarField), f ∉ ScalarField.edited ∨
      f.setBy (incidentUpdateToJSON (u b)) = false ↔
        f.setBy (incidentUpdateToJSON (u b)) = false :=
    fun _ f => or_iff_right (not_not_intro f.mem_edited)
  constructor
  · intro hkeeps f hunset
    rcases hstored with rfl | rfl
    · have hafter := hsecond.applied.kept f ((hdone _ f).mpr hunset)
      cases hset : f.setBy (incidentUpdateToJSON (u c)) with
      | true =>
          have hwanted := hfirst.applied.set f f.mem_edited hset
          have hwanted' := (hkeeps.set c f hset).of_value_eq hafter.symm
          exact hwanted'.value_eq hwanted hfirst.applied.closed
      | false => exact hfirst.applied.kept f ((hdone _ f).mpr hset)
    · rfl
  · intro hagree
    have hafter : ∀ f : ScalarField, f.setBy (incidentUpdateToJSON (u (!c))) = false →
        f.value mid.columns = f.value after.columns := by
      intro f hunset
      exact (hagree f hunset).symm.trans (hsecond.applied.kept f ((hdone _ f).mpr hunset))
    refine ⟨fun b f hset => ?_, fun f hunset => ?_, ?_⟩
    · by_cases hb : b = c
      · subst hb
        have hunset : f.setBy (incidentUpdateToJSON (u (!b))) = false :=
          Bool.eq_false_iff.mpr fun h => hdisjoint f ⟨hset, h⟩
        exact (hfirst.applied.set f f.mem_edited hset).of_value_eq (hafter f hunset)
      · obtain rfl : b = !c := Bool.eq_not.mpr hb
        exact hsecond.applied.set f f.mem_edited hset
    · exact (hfirst.applied.kept f ((hdone _ f).mpr (hunset c))).trans (hafter f (hunset (!c)))
    · exact ⟨hsecond.created.1.trans hfirst.created.1, hsecond.created.2.trans hfirst.created.2⟩

end Runs

/-- **When no update is lost**: of two successful updates of one incident that set disjoint fields,
both survive, and what neither sets stays, exactly if each opened its transaction while the fields
it does not set were stored as it had read them. -/
theorem keepsBoth_of_run_iff (s : Service) (env : ImsEnv) (caller : Bool → Option IMSClaims)
    (e n : Int) (u : Bool → Option IncidentUpdate)
    (hdisjoint : ∀ f : ScalarField, ¬ (f.setBy (incidentUpdateToJSON (u true)) = true ∧
      f.setBy (incidentUpdateToJSON (u false)) = true))
    (w : ImsWorld) (htxn : w.txn = none) (before : Incident)
    (hbefore : w.db.incident.find? (e, n) = some before) {as : List Bool} {t : Updates}
    (hr : Run (Observed.turn imsDB env (watchIncident e n))
      (observedSys s (updateOf caller e n u) w) as t)
    (hdone : ∀ b, (t.sys.procs b).returned = some (.ok ())) :
    (∃ after, t.sys.world.db.incident.find? (e, n) = some after ∧ KeepsBoth u before after) ↔
      RunMeeting (Observed.turn imsDB env (watchIncident e n)) (Fresh e n u)
        (observedSys s (updateOf caller e n u) w) as t := by
  have hret : ∀ b, t.sys.procs b = .ret (.ok ()) := by
    intro b
    have hb := hdone b
    cases hp : t.sys.procs b with
    | ret r =>
        rw [hp] at hb
        exact congrArg Prog.ret (Option.some.inj hb)
    | op o k =>
        rw [hp] at hb
        cases hb
  have hunwritten : ∀ {rows b}, ¬ Unwritten env e n u rows t b := by
    intro rows b hp
    have hlooks := hp.looks
    rw [hret b] at hlooks
    obtain ⟨err, herr⟩ := hlooks
    cases herr
  obtain ⟨-, hphase⟩ := phase_of_run s caller w htxn hbefore hr
  cases hphase with
  | failed b h =>
      rw [hret b] at h
      obtain ⟨err, herr⟩ := h
      cases herr
  | neither _ hp _ => exact (hunwritten (hp true)).elim
  | first _ _ _ _ _ hp _ => exact (hunwritten hp).elim
  | both c mid stored after hrow hfirst hsecond hstored _ hfresh =>
      have hdisjoint' : ∀ f : ScalarField, ¬ (f.setBy (incidentUpdateToJSON (u c)) = true ∧
          f.setBy (incidentUpdateToJSON (u (!c))) = true) := by
        cases c with
        | true => exact hdisjoint
        | false => exact fun f h => hdisjoint f ⟨h.2, h.1⟩
      rw [hfresh, ← keepsBoth_iff hdisjoint' hfirst hsecond hstored]
      constructor
      · rintro ⟨i, hi, hkeeps⟩
        obtain rfl : after = i := Option.some.inj (hrow.symm.trans hi)
        exact hkeeps
      · exact fun hkeeps => ⟨after, hrow, hkeeps⟩

/-- One editor closes incident 1, the other changes its summary. -/
def closeOrEdit (first : Bool) : Option IncidentUpdate :=
  some (if first then { state := .stateClosed } else { summary := some "found" })

def anEditor (_ : Bool) : Option IMSClaims := some ⟨7, "hub", true⟩

theorem closeOrEdit_disjoint (f : ScalarField) :
    ¬ (f.setBy (incidentUpdateToJSON (closeOrEdit true)) = true ∧
      f.setBy (incidentUpdateToJSON (closeOrEdit false)) = true) := by
  cases f <;> decide

/-- What a schedule leads to: the row's state and summary, and what the calls returned. -/
def updatesEnd (as : List Bool) :
    Option (Option (IncidentState × Option String) × List (Option (Except ConnectError Unit))) :=
  (RunLib.exec (Observed.turn imsDB stillEnv (watchIncident 1 1))
    (observedSys {} (updateOf anEditor 1 1 closeOrEdit) { db := twoIncidentsDB, nextId := 1 })
    as).map fun t => ((t.sys.world.db.incident.find? (1, 1)).map fun i => (i.state, i.summary),
      [(t.sys.procs true).returned, (t.sys.procs false).returned])

/-- A schedule in which both calls succeed. -/
theorem run_of_updatesEnd {as : List Bool} {state : IncidentState} {summary : Option String}
    (h : updatesEnd as = some (some (state, summary), [some (.ok ()), some (.ok ())])) :
    ∃ t i, Run (Observed.turn imsDB stillEnv (watchIncident 1 1))
      (observedSys {} (updateOf anEditor 1 1 closeOrEdit) { db := twoIncidentsDB, nextId := 1 })
        as t ∧ (∀ b, (t.sys.procs b).returned = some (.ok ())) ∧
      t.sys.world.db.incident.find? (1, 1) = some i ∧ i.state = state ∧ i.summary = summary := by
  obtain ⟨t, ht, hend⟩ := Option.map_eq_some_iff.mp h
  simp only [Prod.mk.injEq, List.cons.injEq, and_true] at hend
  obtain ⟨hrow, htrue, hfalse⟩ := hend
  obtain ⟨i, hi, hvalues⟩ := Option.map_eq_some_iff.mp hrow
  rw [Prod.mk.injEq] at hvalues
  refine ⟨t, i, run_of_exec ht, fun b => ?_, hi, hvalues.1, hvalues.2⟩
  cases b with
  | true => exact htrue
  | false => exact hfalse

/-- One after the other, both survive. -/
theorem keepsBoth_of_run_iff_inTurn : ∃ t,
    Run (Observed.turn imsDB stillEnv (watchIncident 1 1))
      (observedSys {} (updateOf anEditor 1 1 closeOrEdit) { db := twoIncidentsDB, nextId := 1 })
      (List.replicate 13 true ++ List.replicate 13 false) t ∧
    ((∃ after, t.sys.world.db.incident.find? (1, 1) = some after ∧ KeepsBoth closeOrEdit
        { created := 5, priority := 3, state := .stateOpen, started := 5, createdBy := some 7 }
        after) ↔
      RunMeeting (Observed.turn imsDB stillEnv (watchIncident 1 1)) (Fresh 1 1 closeOrEdit)
        (observedSys {} (updateOf anEditor 1 1 closeOrEdit) { db := twoIncidentsDB, nextId := 1 })
        (List.replicate 13 true ++ List.replicate 13 false) t) := by
  have hend : updatesEnd (List.replicate 13 true ++ List.replicate 13 false) =
      some (some (.stateClosed, some "found"), [some (.ok ()), some (.ok ())]) := by
    decide
  obtain ⟨t, -, hrun, hdone, -⟩ := run_of_updatesEnd hend
  exact ⟨t, hrun, keepsBoth_of_run_iff {} stillEnv anEditor 1 1 closeOrEdit closeOrEdit_disjoint _
    rfl _ rfl hrun hdone⟩

/-- Both read the open row; the summary is written with it, and the closing is gone. -/
theorem not_keepsBoth_closeOrEdit : ∃ t after,
    Run (Observed.turn imsDB stillEnv (watchIncident 1 1))
      (observedSys {} (updateOf anEditor 1 1 closeOrEdit) { db := twoIncidentsDB, nextId := 1 })
      (List.replicate 6 true ++ List.replicate 6 false ++ [true, false] ++
        List.replicate 6 true ++ List.replicate 6 false) t ∧
    (∀ b, (t.sys.procs b).returned = some (.ok ())) ∧
    (∀ f : ScalarField, ¬ (f.setBy (incidentUpdateToJSON (closeOrEdit true)) = true ∧
      f.setBy (incidentUpdateToJSON (closeOrEdit false)) = true)) ∧
    twoIncidentsDB.incident.find? (1, 1) = some
      { created := 5, priority := 3, state := .stateOpen, started := 5, createdBy := some 7 } ∧
    t.sys.world.db.incident.find? (1, 1) = some after ∧
    ¬ KeepsBoth closeOrEdit
      { created := 5, priority := 3, state := .stateOpen, started := 5, createdBy := some 7 }
      after := by
  have hend : updatesEnd (List.replicate 6 true ++ List.replicate 6 false ++ [true, false] ++
      List.replicate 6 true ++ List.replicate 6 false) =
        some (some (.stateOpen, some "found"), [some (.ok ()), some (.ok ())]) := by
    decide
  obtain ⟨t, i, hrun, hdone, hi, hopen, -⟩ := run_of_updatesEnd hend
  refine ⟨t, i, hrun, hdone, closeOrEdit_disjoint, rfl, hi, fun hkeeps => ?_⟩
  have hclosed : some IncidentState.stateClosed = some i.state := hkeeps.set true .state rfl
  rw [hopen] at hclosed
  cases hclosed

end OcfIms
