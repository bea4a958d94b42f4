import OcfIms.UpdateAccepted

/-!
# An update applied twice

An accepted update without typed entries logs of each scalar whether it is stored differently
afterwards, and nothing else. Applied a second time it finds its scalars and its lists as it wants
them and changes nothing. A visit that is not stored would be logged as attached again and again, but
no payload of a client lists visits.
-/

namespace OcfIms

open TxnLib

/-! ## What is logged of a scalar -/

namespace ScalarField

/-- How the lines about a scalar begin. -/
def labels : ScalarField → List String
  | .state => ["Changed state: "]
  | .priority => ["Changed priority: "]
  | .outcome => ["Changed outcome: ", "Cleared outcome"]
  | .started => ["Changed start time: "]
  | .summary => ["Changed summary: "]
  | .isPrivate => ["Marked incident "]
  | .areaSlug => ["Changed location area: ", "Cleared location area"]
  | .description => ["Changed location description: "]
  | .booth => ["Changed location booth: "]

/-- No text is about two scalars. -/
theorem labels_apart {f g : ScalarField} (h : g ≠ f) :
    ∀ l ∈ g.labels, ∀ l' ∈ f.labels, Apart l l' := by
  cases f <;> cases g <;> first | exact absurd rfl h | decide

theorem labels_scalar (f : ScalarField) :
    ∀ l ∈ f.labels, ∃ w ∈ scalarWords, w.toList.isPrefixOf l.toList = true := by
  cases f <;> decide

end ScalarField

/-- A line about the scalar. -/
def JournalLine.isAbout (f : ScalarField) : JournalLine → Bool
  | .text s => f.labels.any fun label => label.toList.isPrefixOf s.toList
  | _ => false

section Lines

variable {f : ScalarField} {line : JournalLine}

theorem isAbout_label {label : String} (h : label ∈ f.labels) (rest : String) (g : ScalarField) :
    (JournalLine.text (label ++ rest)).isAbout g = true ↔ g = f := by
  constructor
  · intro habout
    by_contra hne
    obtain ⟨l, hl, hprefix⟩ := List.any_eq_true.mp habout
    rw [(ScalarField.labels_apart hne l hl label h).startsWith_append rest] at hprefix
    exact Bool.false_ne_true hprefix
  · rintro rfl
    refine List.any_eq_true.mpr ⟨label, h, ?_⟩
    rw [List.isPrefixOf_iff_prefix, String.toList_append]
    exact List.prefix_append ..

theorem isScalar_of_isAbout (h : line.isAbout f = true) : line.isScalar = true := by
  cases line with
  | text s =>
      obtain ⟨l, hl, hprefix⟩ := List.any_eq_true.mp h
      obtain ⟨w, hw, hword⟩ := f.labels_scalar l hl
      rw [List.isPrefixOf_iff_prefix] at hprefix hword
      exact List.any_eq_true.mpr ⟨w, hw, List.isPrefixOf_iff_prefix.mpr (hword.trans hprefix)⟩
  | _ => exact absurd h Bool.false_ne_true

end Lines

/-- After some of the edits: the log has a line about a scalar exactly if the columns differ in it,
and no other lines. -/
structure Logged (stored : Incident) (done : List ScalarField) (ed : Edit) : Prop where
  kept : ∀ f, f ∉ done → f.value stored.columns = f.value ed.update
  about : ∀ f, (∃ line ∈ ed.logs, line.isAbout f = true) ↔
    f.value stored.columns ≠ f.value ed.update
  scalar : ∀ line ∈ ed.logs, ∃ f, line.isAbout f = true

section Edits

variable {inc : IncidentJSON} {stored : Incident} {done : List ScalarField} {ed : Edit}
  {p : UpdateIncidentParams} {f : ScalarField} {line : String}

theorem logged_ofStored : Logged stored [] (Edit.ofStored stored) :=
  ⟨fun _ _ => rfl, fun _ => ⟨fun ⟨_, h, _⟩ => (nomatch h), fun h => absurd rfl h⟩,
    fun _ h => nomatch h⟩

/-- An edit that finds nothing to change. -/
theorem Logged.skip (h : Logged stored done ed) : Logged stored (f :: done) ed :=
  ⟨fun g hg => h.kept g fun hd => hg (List.mem_cons_of_mem f hd), h.about, h.scalar⟩

/-- An edit that changes its scalar, and says so. -/
theorem Logged.set (h : Logged stored done ed)
    (hline : ∀ g, (JournalLine.text line).isAbout g = true ↔ g = f)
    (hother : ∀ g, g ≠ f → g.value ed.update = g.value p)
    (hnew : f.value stored.columns ≠ f.value p) : Logged stored (f :: done) (ed.set p line) := by
  refine ⟨fun g hg => ?_, fun g => ?_, fun l hl => ?_⟩
  · have hne : g ≠ f := fun heq => hg (heq ▸ List.mem_cons_self)
    exact (h.kept g fun hd => hg (List.mem_cons_of_mem f hd)).trans (hother g hne)
  · by_cases hgf : g = f
    · subst hgf
      exact ⟨fun _ => hnew, fun _ => ⟨_, List.mem_append_right _ List.mem_cons_self, (hline g).mpr rfl⟩⟩
    · show _ ↔ g.value stored.columns ≠ g.value p
      rw [← hother g hgf, ← h.about g]
      refine ⟨fun ⟨l, hl, habout⟩ => ?_, fun ⟨l, hl, habout⟩ => ⟨l, List.mem_append_left _ hl, habout⟩⟩
      rcases List.mem_append.mp hl with hl | hl
      · exact ⟨l, hl, habout⟩
      · rw [List.mem_singleton.mp hl, hline] at habout
        exact absurd habout hgf
  · rcases List.mem_append.mp hl with hl | hl
    · exact h.scalar l hl
    · exact ⟨f, List.mem_singleton.mp hl ▸ (hline f).mpr rfl⟩

theorem Logged.ite {c : Prop} [Decidable c] (h : Logged stored done ed)
    (hline : ∀ g, (JournalLine.text line).isAbout g = true ↔ g = f)
    (hother : ∀ g, g ≠ f → g.value ed.update = g.value p)
    (hnew : c → f.value stored.columns ≠ f.value p) :
    Logged stored (f :: done) (if c then ed.set p line else ed) := by
  split
  · exact h.set hline hother (hnew ‹_›)
  · exact h.skip

theorem logged_editPriority (h : Logged stored done ed) :
    Logged stored (.priority :: done) (editPriority inc stored ed) := by
  refine h.ite (isAbout_label List.mem_cons_self _) (fun g hg => ?_) fun hc heq => ?_
  · cases g <;> first | exact absurd rfl hg | rfl
  · exact hc.2 (ScalarValue.int.inj heq).symm

theorem logged_editStarted (s : Service) (h : Logged stored done ed) :
    Logged stored (.started :: done) (editStarted inc stored s ed) := by
  unfold editStarted
  split
  · exact h.skip
  · refine h.ite (isAbout_label List.mem_cons_self _) (fun g hg => ?_) fun hc heq => ?_
    · cases g <;> first | exact absurd rfl hg | rfl
    · exact hc (ScalarValue.int.inj heq).symm

theorem logged_editSummary (h : Logged stored done ed) :
    Logged stored (.summary :: done) (editSummary inc stored ed) := by
  refine h.ite (isAbout_label List.mem_cons_self _) (fun g hg => ?_) fun hc heq => ?_
  · cases g <;> first | exact absurd rfl hg | rfl
  · exact hc.2 (ScalarValue.text.inj heq).symm

theorem logged_editDescription (h : Logged stored done ed) :
    Logged stored (.description :: done) (editDescription inc stored ed) := by
  refine h.ite (isAbout_label List.mem_cons_self _) (fun g hg => ?_) fun hc heq => ?_
  · cases g <;> first | exact absurd rfl hg | rfl
  · exact hc.2 (ScalarValue.text.inj heq).symm

theorem logged_editBooth (h : Logged stored done ed) :
    Logged stored (.booth :: done) (editBooth inc stored ed) := by
  refine h.ite (isAbout_label List.mem_cons_self _) (fun g hg => ?_) fun hc heq => ?_
  · cases g <;> first | exact absurd rfl hg | rfl
  · exact hc.2 (ScalarValue.booth.inj heq).symm

variable {A : ∀ β : Type, Op β → β → Prop}

theorem every_editPrivacy_logged (author : Int) (admin : Bool) (h : Logged stored done ed) :
    (editPrivacy inc stored author admin ed).Every A (writesIn Call.noWrite) (fun _ => True)
      (Logged stored (.isPrivate :: done)) := by
  unfold editPrivacy
  split
  · exact Call.every_pure h.skip
  · rename_i p _
    refine Call.every_ite (fun _ => Call.every_throw trivial) fun _ => ?_
    refine Call.every_ite (fun hne => Call.every_pure (h.set (fun g => ?_) (fun g hg => ?_)
      fun heq => hne (ScalarValue.flag.inj heq).symm)) fun _ => Call.every_pure h.skip
    · cases p <;> cases g <;> decide
    · cases g <;> first | exact absurd rfl hg | rfl

theorem every_editState_logged (h : Logged stored done ed) :
    (editState inc stored ed).Every A (writesIn Call.noWrite) (fun _ => True)
      (Logged stored (.state :: done)) := by
  have hnew : ∀ {newState : IncidentState} {closed : Option Int}, newState ≠ stored.state →
      Logged stored (.state :: done) (ed.set { ed.update with state := newState, closed := closed }
        ("Changed state: " ++ formatState newState)) := by
    intro newState closed hne
    refine h.set (isAbout_label List.mem_cons_self _) (fun g hg => ?_) fun heq => ?_
    · cases g <;> first | exact absurd rfl hg | rfl
    · exact hne (ScalarValue.state.inj heq).1.symm
  unfold editState
  split
  · exact Call.every_pure h.skip
  · refine Call.every_ite (fun _ => Call.every_pure h.skip) fun hne => ?_
    refine Call.every_ite (fun _ => ?_) fun _ => Call.every_pure (hnew hne)
    exact Call.every_bind (Q := fun _ => True) (every_now trivial fun _ => trivial)
      fun _ _ => Call.every_pure (hnew hne)

theorem every_editOutcome_logged (allOutcomes : List (Int × String)) (h : Logged stored done ed) :
    (editOutcome inc stored allOutcomes ed).Every A (writesIn Call.noWrite) (fun _ => True)
      (Logged stored (.outcome :: done)) := by
  unfold editOutcome
  split
  · exact Call.every_pure h.skip
  · refine Call.every_ite (fun _ => ?_) fun _ => ?_
    · refine Call.every_ite (fun hsome => Call.every_pure (h.set (fun g => ?_) (fun g hg => ?_)
        fun heq => ?_)) fun _ => Call.every_pure h.skip
      · cases g <;> decide
      · cases g <;> first | exact absurd rfl hg | rfl
      · have hnone : stored.outcomeID = none := ScalarValue.outcome.inj heq
        rw [hnone] at hsome
        exact Bool.false_ne_true hsome
    · refine Call.every_ite (fun _ => Call.every_pure h.skip) fun hne => ?_
      split
      · exact Call.every_throw trivial
      · refine Call.every_pure (h.set (isAbout_label List.mem_cons_self _) (fun g hg => ?_)
          fun heq => hne (ScalarValue.outcome.inj heq))
        cases g <;> first | exact absurd rfl hg | rfl

theorem every_editArea_logged (e : Int) (h : Logged stored done ed) :
    (editArea inc stored e ed).Every A (writesIn Call.noWrite) (fun _ => True)
      (Logged stored (.areaSlug :: done)) := by
  unfold editArea
  split
  · exact Call.every_pure h.skip
  · refine Call.every_ite (fun _ => ?_) fun _ => ?_
    · refine Call.every_ite (fun hsome => Call.every_pure (h.set (fun g => ?_) (fun g hg => ?_)
        fun heq => ?_)) fun _ => Call.every_pure h.skip
      · cases g <;> decide
      · cases g <;> first | exact absurd rfl hg | rfl
      · have hnone : stored.locationAreaSlug = none := ScalarValue.text.inj heq
        rw [hnone] at hsome
        exact Bool.false_ne_true hsome
    · refine Call.every_ite (fun _ => Call.every_pure h.skip) fun hne => ?_
      refine Call.every_bind (within_select _ _ _) fun _ _ => Call.every_pure
        (h.set (isAbout_label List.mem_cons_self _) (fun g hg => ?_)
          fun heq => hne (ScalarValue.text.inj heq))
      cases g <;> first | exact absurd rfl hg | rfl

/-- **What an update logs of its scalars.** -/
theorem every_scalarEdits_logged (s : Service) (inc : IncidentJSON) (st : LoadedIncident)
    (author : Int) (admin : Bool) :
    (scalarEdits s inc st author admin).Every A (writesIn Call.noWrite) (fun _ => True)
      (Logged st.row.incident ScalarField.edited) := by
  refine Call.every_bind (every_editPrivacy_logged author admin logged_ofStored) fun ed hed => ?_
  refine Call.every_bind (every_editState_logged (logged_editPriority hed)) fun ed hed => ?_
  refine Call.every_bind (every_editOutcome_logged st.allOutcomes hed) fun ed hed => ?_
  exact every_editArea_logged st.row.event (logged_editBooth (logged_editDescription
    (logged_editSummary (logged_editStarted s hed))))

end Edits

/-! ## What stays consistent -/

/-- References name stored rows. -/
structure Ties (db : DB) : Prop where
  pair : ∀ k, db.incidentLinkedIncident.contains k = true →
    db.incident.contains k.1 = true ∧ db.incident.contains k.2 = true
  event : ∀ k, db.incident.contains k = true → db.event.contains k.1 = true
  references : ∀ k i, db.incident.find? k = some i → DB.nullOr db.outcome i.outcomeID = true ∧
    DB.nullOr db.area (i.locationAreaSlug.map (k.1, ·)) = true

theorem contains_of_contains_erase {κ ρ : Type} [DecidableEq κ] {t : Table κ ρ} {k k' : κ}
    (h : (t.erase k).contains k' = true) : t.contains k' = true := by
  obtain ⟨v, hv⟩ := Table.contains_iff.mp h
  rw [Table.find?_erase] at hv
  split at hv
  · cases hv
  · exact Table.contains_iff.mpr ⟨v, hv⟩

theorem ties_of_apply {β : Type} {q : Write β} {id : Int} {db db' : DB} {b : β} (hties : Ties db)
    (h : q.apply id db = .ok (b, db')) : Ties db' := by
  cases Write.effect_of_apply h with
  | createIncident hnew hev hby =>
      refine ⟨fun k hk => ⟨?_, ?_⟩, fun k hk => ?_, fun k i hi => ?_⟩
      · exact Table.contains_insert_of_contains _ (hties.pair k hk).1
      · exact Table.contains_insert_of_contains _ (hties.pair k hk).2
      · rw [Table.contains_insert hnew] at hk
        rcases Bool.or_eq_true _ _ |>.mp hk with heq | hk
        · rw [of_decide_eq_true heq]
          exact hev
        · exact hties.event k hk
      · rw [Table.find?_insert hnew] at hi
        split at hi
        · cases hi
          exact ⟨rfl, rfl⟩
        · exact hties.references k i hi
  | updateIncident hi hbooth hout harea =>
      refine ⟨fun k hk => ⟨?_, ?_⟩, fun k hk => ?_, fun k j hj => ?_⟩
      · exact (Table.contains_modify ..).trans (hties.pair k hk).1
      · exact (Table.contains_modify ..).trans (hties.pair k hk).2
      · exact hties.event k ((Table.contains_modify ..).symm.trans hk)
      · rw [Table.find?_modify] at hj
        split at hj
        · rename_i heq
          subst heq
          rw [hi] at hj
          cases hj
          exact ⟨hout, harea⟩
        · exact hties.references k j hj
  | linkIncidents hnew h1 h2 =>
      refine ⟨fun k hk => ?_, hties.event, hties.references⟩
      rw [Table.contains_insert hnew] at hk
      rcases Bool.or_eq_true _ _ |>.mp hk with heq | hk
      · rw [of_decide_eq_true heq]
        exact ⟨h1, h2⟩
      · exact hties.pair k hk
  | unlinkIncidents =>
      exact ⟨fun k hk => hties.pair k (contains_of_contains_erase hk), hties.event, hties.references⟩
  | _ => exact ⟨hties.pair, hties.event, hties.references⟩

section Keeps

variable {env : ImsEnv} {s : Service} {inc : IncidentJSON} {author : Int} {admin : Bool}

theorem triple_noWrite_db {ε α : Type} {x : Go ε α} {D : DB → Prop} {E : ε → Prop} {Q : α → Prop}
    (hx : x.Every anyAnswer (writesIn Call.noWrite) E Q) :
    Call.Triple imsDB env (fun w => D w.db) x (fun _ w => D w.db) fun _ _ => True :=
  (Call.triple_noWrite (c := .pool) (R := D) hx fun _ _ => trivial).conseq
    (fun _ h _ hs => Option.some.inj hs ▸ h) (fun _ w h => h.1 w.db rfl) fun _ _ h => h

/-- What every update's transaction keeps, the update keeps. -/
theorem triple_updateIncident_keeps {D : DB → Prop}
    (hbody : ∀ st, Call.Triple imsDB env (World.Holds D D)
      (updateIncidentBody s inc st author admin) (fun _ w => w.Holds D D) fun _ _ => True) :
    Call.Triple imsDB env (fun w => D w.db) (updateIncident s inc author admin)
      (fun _ w => D w.db) fun _ _ => True := by
  have hbegin : Call.Triple imsDB env (World.Holds D fun _ => True)
      (begin (HTTPError.internalServerError "Failed to start transaction"))
      (fun _ w => w.Holds D D) fun _ _ => True :=
    Call.Triple.mapErr (Call.triple_begin_holds fun _ _ _ => trivial)
  have hcommit : Call.Triple imsDB env (World.Holds D D)
      (commit (HTTPError.internalServerError "Failed to commit transaction"))
      (fun _ w => w.Holds D D) fun _ _ => True :=
    Call.Triple.mapErr (Call.triple_commit_holds fun _ _ _ => trivial)
  refine (triple_noWrite_db (within_loadIncident inc)).bind fun st => ?_
  refine (hbegin.conseq (fun w h => ⟨h, fun _ _ => trivial⟩) (fun _ _ h => h)
    fun _ _ h => h).bind fun _ => ?_
  rw [updateIncidentTxn_bind]
  refine Call.triple_deferRollback ((hbody st).bind fun touched => hcommit.bind fun _ => ?_)
  exact (triple_noWrite_db (every_announceUpdate (E := fun _ => True) inc st author touched)).conseq
    (fun _ h => h.1) (fun _ _ h => h) fun _ _ h => h

theorem ties_updateIncident {w w' : ImsWorld} (hties : Ties w.db)
    (hrun : (updateIncident s inc author admin).run imsDB env w = (.ok (), w')) : Ties w'.db := by
  refine Call.Triple.of_run_ok (triple_updateIncident_keeps fun st => ?_) hties hrun
  have hwrites : (updateIncidentBody s inc st author admin).Every anyAnswer (writesIn anyWrite)
      (fun _ => True) fun _ => True := by
    refine Call.every_bind (every_scalarEdits (fun _ => trivial) s inc st author admin)
      fun ed _ => ?_
    refine Call.every_bind (Q := fun _ => True)
      (every_exec trivial (fun _ => trivial) fun _ _ => trivial) fun _ _ => ?_
    exact every_reconcileAll (permitsUpdate_anyWrite inc st) (fun _ => trivial) s author _
  exact (Call.triple_writesIn (fun _ _ _ _ _ _ _ hs h => ties_of_apply hs h)
    (fun _ _ _ _ _ _ _ hs h => ties_of_apply hs h) hwrites fun _ _ _ _ => trivial).conseq
    (fun _ h => h) (fun _ _ h => h.1) fun _ _ h => h

theorem consistent_updateIncident {w w' : ImsWorld} {id : Int} (hcons : w.db.Consistent id)
    (hrun : (updateIncident s inc author admin).run imsDB env w = (.ok (), w'))
    (horderly : w'.db.Orderly w'.nextId) : w'.db.Consistent w'.nextId := by
  have hties := ties_updateIncident ⟨hcons.pair, hcons.event, hcons.references⟩ hrun
  have hlinks := Call.Triple.of_run_ok (triple_updateIncident_keeps fun st =>
    triple_updateIncidentBody_links s inc st author admin) hcons.links hrun
  exact ⟨hlinks, hties.pair, hties.event, hties.references, horderly⟩

end Keeps

/-! ## Lists that are as wanted -/

section Quiet

variable {inc : IncidentJSON} {st : LoadedIncident}

theorem sliceSubtract_of_not_changes {γ : Type} [DecidableEq γ] {l current : List γ}
    (h : ¬ Changes (some l) current) :
    sliceSubtract l current = [] ∧ sliceSubtract current l = [] := by
  constructor
  · by_contra hne
    exact h ⟨l, rfl, Or.inl hne⟩
  · by_contra hne
    exact h ⟨l, rfl, Or.inr hne⟩

theorem reconcileTypes_quiet (h : ¬ Changes inc.incidentTypeIDs st.row.incidentTypeIds) :
    reconcileTypes inc st = pure [] := by
  unfold reconcileTypes
  cases hl : inc.incidentTypeIDs with
  | none => rfl
  | some l =>
      rw [hl] at h
      simp only [sliceSubtract_of_not_changes h]
      rfl

theorem reconcileReports_quiet (author : Int) (h : ¬ Changes inc.reports st.row.reportNumbers) :
    reconcileReports inc st author = pure ([], []) := by
  unfold reconcileReports
  cases hl : inc.reports with
  | none => rfl
  | some l =>
      rw [hl] at h
      simp only [sliceSubtract_of_not_changes h]
      rfl

theorem reconcileVisits_quiet (h : ¬ Changes inc.visits st.row.visitNumbers) :
    reconcileVisits inc st = pure ([], []) := by
  unfold reconcileVisits
  cases hl : inc.visits with
  | none => rfl
  | some l =>
      rw [hl] at h
      simp only [sliceSubtract_of_not_changes h]
      rfl

theorem reconcileLinkedIncidents_quiet (author : Int) (h : ¬ Changes inc.linkTargets st.links) :
    reconcileLinkedIncidents inc st author = pure ([], []) := by
  unfold reconcileLinkedIncidents
  cases hl : inc.linkedIncidents with
  | none => rfl
  | some l =>
      have htargets : inc.linkTargets = some (l.map fun dli => (dli.eventID, dli.number)) :=
        congrArg _ hl
      rw [htargets] at h
      obtain ⟨hadd, hsub⟩ := sliceSubtract_of_not_changes h
      simp only [LoadedIncident.links] at hadd hsub
      simp only [hadd, hsub]
      rfl

/-- Nothing to reconcile, nothing logged and nothing typed: nothing is written. -/
theorem reconcileAll_quiet (s : Service) (author : Int) (h : ¬ AnyChange inc st)
    (hplain : inc.journalEntries = []) :
    reconcileAll s inc st author [] = pure ⟨[], [], [], []⟩ := by
  rw [AnyChange, not_or, not_or, not_or] at h
  unfold reconcileAll
  rw [reconcileTypes_quiet h.1, reconcileReports_quiet author h.2.1, reconcileVisits_quiet h.2.2.1,
    reconcileLinkedIncidents_quiet author h.2.2.2, hplain]
  rfl

/-- Once a list has been set, it is found as wanted, up to what could not be attached. -/
theorem not_changes_iff {γ : Type} [DecidableEq γ] {desired : Option (List γ)} {current : List γ}
    {has : γ → Prop} {before : Set γ} (h : {a | a ∈ current} = wanted has desired before) :
    ¬ Changes desired current ↔ ∀ l, desired = some l → ∀ a ∈ l, a ∈ before ∨ has a := by
  have hmem : ∀ a, a ∈ current ↔ a ∈ wanted has desired before := Set.ext_iff.mp h
  cases desired with
  | none => exact ⟨fun _ _ h => (nomatch h), fun _ ⟨_, h, _⟩ => nomatch h⟩
  | some l =>
      constructor
      · rintro hquiet l ⟨⟩ a ha
        have hcurrent : a ∈ current := by
          by_contra hn
          have hsub := mem_sliceSubtract.mpr ⟨ha, hn⟩
          rw [(sliceSubtract_of_not_changes hquiet).1] at hsub
          cases hsub
        exact ((hmem a).mp hcurrent).2
      · rintro hhas ⟨_, ⟨⟩, hadd | hsub⟩
        · obtain ⟨a, ha⟩ := List.exists_mem_of_ne_nil _ hadd
          obtain ⟨hl, hn⟩ := mem_sliceSubtract.mp ha
          exact hn ((hmem a).mpr ⟨hl, hhas l rfl a hl⟩)
        · obtain ⟨a, ha⟩ := List.exists_mem_of_ne_nil _ hsub
          obtain ⟨hcurrent, hn⟩ := mem_sliceSubtract.mp ha
          exact hn ((hmem a).mp hcurrent).1

end Quiet

/-! ## The second application -/

section Repeat

variable {env : ImsEnv} {db : DB} {inc : IncidentJSON} {i : Incident} {author : Int} {admin : Bool}

theorem columns_ext {p q : UpdateIncidentParams} (h : ∀ f : ScalarField, f.value p = f.value q) :
    p = q := by
  obtain ⟨hstate, hclosed⟩ := ScalarValue.state.inj (h .state)
  have hpriority := ScalarValue.int.inj (h .priority)
  have houtcome := ScalarValue.outcome.inj (h .outcome)
  have hstarted := ScalarValue.int.inj (h .started)
  have hsummary := ScalarValue.text.inj (h .summary)
  have hprivate := ScalarValue.flag.inj (h .isPrivate)
  have harea := ScalarValue.text.inj (h .areaSlug)
  have hdescription := ScalarValue.text.inj (h .description)
  have hbooth := ScalarValue.booth.inj (h .booth)
  cases p
  cases q
  simp only [UpdateIncidentParams.mk.injEq]
  exact ⟨hpriority, hstate, houtcome, hstarted, hclosed, hsummary, hdescription, harea, hbooth,
    hprivate⟩

/-- The incident is as the update wants it. -/
def ScalarsWanted (inc : IncidentJSON) (i : Incident) : Prop :=
  ∀ f : ScalarField, f.setBy inc = true → f.AsWanted inc i.columns

/-- Edits of an incident that is as wanted choose its columns again, and log nothing. -/
theorem edit_of_wanted {ed : Edit} (hwanted : ScalarsWanted inc i)
    (happlied : Applied inc i ScalarField.edited ed.update)
    (hlogged : Logged i ScalarField.edited ed) : ed.update = i.columns ∧ ed.logs = [] := by
  have hsame : ∀ f : ScalarField, f.value i.columns = f.value ed.update := by
    intro f
    cases hset : f.setBy inc with
    | false => exact happlied.kept f (Or.inr hset)
    | true =>
        exact (hwanted f hset).value_eq (happlied.set f (ScalarField.mem_edited f) hset)
          happlied.closed
  refine ⟨(columns_ext hsame).symm, List.eq_nil_iff_forall_not_mem.mpr fun line hline => ?_⟩
  obtain ⟨f, hf⟩ := hlogged.scalar line hline
  exact (hlogged.about f).mp ⟨line, hline, hf⟩ (hsame f)

theorem scalarsOk_of_wanted (hwanted : ScalarsWanted inc i)
    (hprivacy : PrivacyOk inc i author admin) : ScalarsOk db inc i author admin := by
  refine ⟨hprivacy, fun id hid hne hnew => ?_, fun slug hslug hne hnew => ?_, fun hbooth => ?_⟩
  · have hset := hwanted .outcome (by simp [ScalarField.setBy, hid])
    rw [ScalarField.AsWanted, hid] at hset
    have hsame : i.outcomeID = some id := (Option.some.inj hset).symm.trans (if_neg hne)
    exact absurd hsame hnew
  · have hset := hwanted .areaSlug (by simp [ScalarField.setBy, hslug])
    rw [ScalarField.AsWanted, hslug] at hset
    have hsame : i.locationAreaSlug = some (trimSpace slug) :=
      (Option.some.inj hset).symm.trans (if_neg hne)
    exact absurd hsame hnew
  · exact ⟨i.locationBooth, (hwanted .booth hbooth).symm⟩

/-- Writing the columns a row has changes nothing. -/
theorem settles_rewriteRow {err : SqlErr → HTTPError} (hq : env.Quiet)
    (hi : db.incident.find? (inc.eventID, inc.number) = some i)
    (href : DB.nullOr db.outcome i.outcomeID = true ∧
      DB.nullOr db.area (i.locationAreaSlug.map (inc.eventID, ·)) = true) :
    Call.Settles imsDB env (Call.InTxn db fun T _ => T = db)
      (exec .txn (.updateIncident inc.eventID inc.number i.columns) err) True
      fun _ => Call.InTxn db fun T _ => T = db := by
  refine settles_exec (K := fun _ T _ => T = db) hq
    fun T id hT => ⟨fun _ => ⟨(), db, ?_, rfl⟩, fun _ _ _ => trivial⟩
  subst hT
  have htext : ∀ k : Option String → Except SqlErr (Unit × DB),
      DB.textColumn i.columns.locationBooth k = k i.locationBooth := by
    intro k
    show DB.textColumn (i.locationBooth.map .text) k = k i.locationBooth
    cases i.locationBooth <;> rfl
  have hsame : T.incident.modify (inc.eventID, inc.number)
      (fun _ => DB.updatedIncident i.columns i.locationBooth i) = T.incident :=
    Table.modify_eq_self hi rfl
  have hcolumns : DB.nullOr T.outcome i.columns.outcomeID = true ∧
      DB.nullOr T.area (i.columns.locationAreaSlug.map (inc.eventID, ·)) = true := href
  simp only [Write.apply, hi, htext, DB.references, hcolumns.1, hcolumns.2, if_true, hsame]

theorem settles_repeatTxn (s : Service) {id : Int} (hq : env.Quiet) (hcons : db.Consistent id)
    (hi : db.incident.find? (inc.eventID, inc.number) = some i) (hwanted : ScalarsWanted inc i)
    (hprivacy : PrivacyOk inc i author admin) (hquiet : ¬ AnyChange inc (loadedFrom db inc i))
    (hplain : inc.journalEntries = []) :
    Call.Settles imsDB env (Call.InTxn db fun T _ => T = db)
      (updateIncidentTxn s inc (loadedFrom db inc i) author admin) True fun _ w => w.db = db := by
  have hok : ScalarsOk db inc i author admin := scalarsOk_of_wanted hwanted hprivacy
  have hedits := (settles_scalarEdits (R := fun T _ => T = db) s hq).and_every
    (every_scalarEdits_logged s inc (loadedFrom db inc i) author admin)
  refine Call.Settles.bind_sure (hedits.conseq (fun _ h => h)
    ⟨fun _ => trivial, fun _ => ⟨hok.privacy, hok.outcome, hok.area⟩⟩ fun _ _ _ h => h) fun ed => ?_
  refine Call.Settles.of_fact (fun _ h => h.1) fun hlogged =>
    Call.Settles.of_fact (fun _ h => h.2.1) fun happlied => ?_
  obtain ⟨hcolumns, hlogs⟩ := edit_of_wanted hwanted happlied hlogged
  rw [hcolumns, hlogs]
  refine Call.Settles.conseq ((settles_rewriteRow hq hi (hcons.references _ i hi)).bind_sure
    fun _ => ?_) (fun _ h => h.2.2) Iff.rfl fun _ _ _ h => h
  rw [reconcileAll_quiet s author hquiet hplain, pure_bind]
  refine (Call.Settles.mapErr (Call.settles_commit hq (K := fun _ w => w.db = db)
    fun w hw => ?_)).bind_pure fun _ _ h => h
  obtain ⟨-, T, hT, hsame⟩ := hw
  exact ⟨T, hT, hsame⟩

/-- An update that finds everything as it wants it succeeds and changes no table. -/
theorem settles_repeat (s : Service) {id : Int} (hq : env.Quiet) (hcons : db.Consistent id)
    (hi : db.incident.find? (inc.eventID, inc.number) = some i) (hwanted : ScalarsWanted inc i)
    (hprivacy : PrivacyOk inc i author admin) (hquiet : ¬ AnyChange inc (loadedFrom db inc i))
    (hplain : inc.journalEntries = []) :
    Call.Settles imsDB env (fun w => w.db = db ∧ w.nextId = id) (updateIncident s inc author admin)
      True fun _ w => w.db = db := by
  refine Call.Settles.bind_sure (Call.Answers.settles (R := (· = id)) (answers_loadIncident hq hi))
    fun st => ?_
  refine Call.Settles.of_fact (fun _ h => h.1) fun hst => ?_
  subst hst
  refine Call.Settles.bind_sure (Call.Settles.mapErr (Call.settles_begin hq
    (K := fun _ => Call.InTxn db fun T _ => T = db) fun w hw => ?_)) fun _ => ?_
  · obtain ⟨-, hw, -⟩ := hw
    exact ⟨hw, w.db, rfl, hw⟩
  · refine Call.Settles.deferRollback (Call.Settles.bind_sure
      (settles_repeatTxn s hq hcons hi hwanted hprivacy hquiet hplain) fun touched => ?_)
    exact Call.settles_unfailing (R := fun T _ => T = db)
      (every_announceUpdate inc _ author touched)

end Repeat

/-! ## Both applications -/

/-- The lines that have been added to the journal are about exactly the scalars that are stored
differently. -/
def HonestJournal (e n : Int) (db db' : DB) : Prop :=
  ∃ stored after entries, db.incident.find? (e, n) = some stored ∧
    db'.incident.find? (e, n) = some after ∧ db'.journalOf e n = db.journalOf e n ++ entries ∧
    ∀ f : ScalarField, (∃ je ∈ entries, ∃ line ∈ je.text, line.isAbout f = true) ↔
      f.value stored.columns ≠ f.value after.columns

/-- The same update once more succeeds and changes no table. -/
def RepeatsQuietly (env : ImsEnv) (s : Service) (inc : IncidentJSON) (author : Int) (admin : Bool)
    (w : ImsWorld) : Prop :=
  ∀ w₁, w₁.db = w.db → w₁.nextId = w.nextId →
    ∃ w₂, (updateIncident s inc author admin).run imsDB env w₁ = (.ok (), w₂) ∧ w₂.db = w.db

/-- Every visit the update lists is stored. -/
def VisitsStored (db : DB) (inc : IncidentJSON) : Prop :=
  ∀ l, inc.visits = some l → ∀ a ∈ l, db.HasVisit inc.eventID a

section Both

variable {env : ImsEnv} {s : Service} {db T : DB} {inc : IncidentJSON} {i : Incident} {author : Int}
  {admin : Bool} {id : Int}

/-- What the edits choose and what they log. -/
theorem every_scalarEdits_honest (s : Service) (inc : IncidentJSON) (st : LoadedIncident)
    (author : Int) (admin : Bool) :
    (scalarEdits s inc st author admin).Every anyAnswer (writesIn Call.noWrite) (fun _ => True)
      fun ed => Applied inc st.row.incident ScalarField.edited ed.update ∧
        Logged st.row.incident ScalarField.edited ed :=
  ((every_scalarEdits_applied s inc st author admin).and
    (every_scalarEdits_logged s inc st author admin)).mono (fun _ _ _ h => h) (fun _ _ h => h)
      (fun _ _ => trivial) fun _ h => h

theorem exists_line_iff {entries : List JournalEntry} {lines : List JournalLine}
    {P : JournalLine → Prop}
    (h : entries.map (·.text) = if lines = [] then [] else [lines]) :
    (∃ je ∈ entries, ∃ line ∈ je.text, P line) ↔ ∃ line ∈ lines, P line := by
  have htexts : (∃ je ∈ entries, ∃ line ∈ je.text, P line) ↔
      ∃ text ∈ entries.map (·.text), ∃ line ∈ text, P line :=
    ⟨fun ⟨je, hje, hline⟩ => ⟨_, List.mem_map_of_mem hje, hline⟩, fun ⟨text, htext, hline⟩ =>
      have ⟨je, hje, hname⟩ := List.mem_map.mp htext
      ⟨je, hje, hname ▸ hline⟩⟩
  rw [htexts, h]
  split
  · rename_i hnil
    simp [hnil]
  · simp

/-- The lists of the incident, once reconciled, need no more changes unless a visit is missing. -/
theorem not_anyChange_iff {v : ListView} {journal : List JournalEntry} {row : Option Incident}
    {id' : Int} {i' : Incident} (hst : LoadedAs inc (loadedFrom db inc i) v)
    (hreports : ReportsOk db inc author (loadedFrom db inc i).row.reportNumbers)
    (hstored : ∀ r ∈ v.reports, db.HasReport inc.eventID r)
    (hvisits : ∀ a ∈ v.visits, db.HasVisit inc.eventID a)
    (hview : T.listView inc.eventID inc.number = { v.reconciled db inc with journal, row })
    (hcons : T.Consistent id') :
    ¬ AnyChange inc (loadedFrom T inc i') ↔ VisitsStored db inc := by
  have hloaded := @loadedAs_loadedFrom T inc id' i' none hcons
  rw [hview] at hloaded
  rw [AnyChange, not_or, not_or, not_or, not_changes_iff hloaded.types.symm,
    not_changes_iff hloaded.reports.symm, not_changes_iff hloaded.visits.symm,
    not_changes_iff hloaded.links.symm]
  constructor
  · rintro ⟨-, -, h, -⟩ l hl a ha
    exact (h l hl a ha).elim (hvisits a) fun h => h
  · intro h
    refine ⟨fun _ _ _ _ => Or.inr trivial, fun l hl r hr => Or.inr ?_,
      fun l hl a ha => Or.inr (h l hl a ha), fun _ _ _ _ => Or.inr trivial⟩
    by_cases hmem : r ∈ (loadedFrom db inc i).row.reportNumbers
    · exact hstored r (hst.reports ▸ hmem)
    · exact (hreports.attach l hl r (mem_sliceSubtract.mpr ⟨hr, hmem⟩)).2

theorem stored_of_linkOf {e r n : Int} (h : db.linkOf e r = some n) : db.HasReport e r := by
  obtain ⟨row, hrow, -⟩ := Option.bind_eq_some_iff.mp h
  exact Table.contains_iff.mpr ⟨row, hrow⟩

theorem stored_of_visitLink {e a n : Int} (h : db.visitLink e a = some n) : db.HasVisit e a := by
  obtain ⟨row, hrow, -⟩ := Option.bind_eq_some_iff.mp h
  exact Table.contains_iff.mpr ⟨row, hrow⟩

/-- What an accepted update without typed entries has left: the row `i'` with the columns of the
edits, the lists, and the entries with the lines of the edits and the lists. -/
structure Left (db : DB) (inc : IncidentJSON) (i i' : Incident) (ed : Edit)
    (logs : List JournalLine) (entries : List JournalEntry) (T : DB) (id : Int) : Prop where
  row : T.incident.find? (inc.eventID, inc.number) = some i'
  columns : i'.columns = ed.update
  createdBy : i'.createdBy = i.createdBy
  viewed : Viewed db inc.eventID inc.number
    { (db.listView inc.eventID inc.number).reconciled db inc with
      journal := db.journalOf inc.eventID inc.number ++ entries
      row := some i' } T id
  lines : ListLines (AnyChange inc (loadedFrom db inc i)) logs
  texts : entries.map (·.text) = if ed.logs ++ logs = [] then [] else [ed.logs ++ logs]

theorem UpdateLeaves.left {Q : Edit → Prop} (h : UpdateLeaves db inc i Q T id)
    (hplain : inc.journalEntries = []) :
    ∃ ed i' logs entries, Q ed ∧ Left db inc i i' ed logs entries T id := by
  obtain ⟨ed, booth, hQ, hbooth, journal, logs, hviewed, hlines, hjournal⟩ := h
  obtain ⟨entries, rfl, htexts⟩ := hjournal hplain
  refine ⟨ed, DB.updatedIncident ed.update booth i, logs, entries, hQ, ?_,
    columns_updatedIncident hbooth i, rfl, hviewed, hlines, htexts⟩
  exact congrArg ListView.row hviewed.view

section Left

variable {i' : Incident} {ed : Edit} {logs : List JournalLine} {entries : List JournalEntry}

theorem Left.journal (h : Left db inc i i' ed logs entries T id) :
    T.journalOf inc.eventID inc.number = db.journalOf inc.eventID inc.number ++ entries :=
  congrArg ListView.journal h.viewed.view

theorem Left.honest (h : Left db inc i i' ed logs entries T id)
    (hi : db.incident.find? (inc.eventID, inc.number) = some i)
    (hlogged : Logged i ScalarField.edited ed) :
    HonestJournal inc.eventID inc.number db T := by
  refine ⟨i, i', entries, hi, h.row, h.journal, fun f => ?_⟩
  rw [exists_line_iff h.texts, h.columns, ← hlogged.about f]
  refine ⟨fun ⟨line, hline, hf⟩ => ?_, fun ⟨line, hline, hf⟩ =>
    ⟨line, List.mem_append_left _ hline, hf⟩⟩
  rcases List.mem_append.mp hline with hline | hline
  · exact ⟨line, hline, hf⟩
  · have hother := h.lines.other line hline
    rw [isScalar_of_isAbout hf] at hother
    exact absurd hother.symm Bool.false_ne_true

theorem Left.wanted (h : Left db inc i i' ed logs entries T id)
    (happlied : Applied inc i ScalarField.edited ed.update) : ScalarsWanted inc i' := by
  intro f hset
  rw [h.columns]
  exact happlied.set f (ScalarField.mem_edited f) hset

/-- Where a list changes something, the journal is longer. -/
theorem Left.ne_of_anyChange (h : Left db inc i i' ed logs entries T id)
    (hchange : AnyChange inc (loadedFrom db inc i)) : T ≠ db := by
  rintro rfl
  have hnone : entries = [] := List.append_cancel_left (h.journal.symm.trans (List.append_nil _).symm)
  have htexts := h.texts
  rw [hnone, if_neg fun hnil => h.lines.silent.mpr hchange (List.append_eq_nil_iff.mp hnil).2]
    at htexts
  cases htexts

theorem Left.quiet_iff {id₀ : Int} (h : Left db inc i i' ed logs entries T id)
    (hcons : db.Consistent id₀) (hcons' : T.Consistent id)
    (hreports : ReportsOk db inc author (loadedFrom db inc i).row.reportNumbers) :
    ¬ AnyChange inc (loadedFrom T inc i') ↔ VisitsStored db inc :=
  not_anyChange_iff (loadedAs_loadedFrom i (some i) hcons) hreports
    (fun _ hr => stored_of_linkOf hr) (fun _ ha => stored_of_visitLink ha) h.viewed.view hcons'

end Left

/-- The first application logs of each scalar whether it is stored differently afterwards; the second
succeeds and changes nothing, unless the update lists a visit that is not stored. -/
theorem updateIncident_repeats_iff (env : ImsEnv) (s : Service) (w w' : ImsWorld)
    (inc : IncidentJSON) (author : Int) (admin : Bool) (hq : env.Quiet)
    (hcons : w.db.Consistent w.nextId) (hauthor : w.db.person.contains author = true)
    (hi : w.db.incident.contains (inc.eventID, inc.number) = true)
    (hplain : inc.journalEntries = [])
    (hrun : (updateIncident s inc author admin).run imsDB env w = (.ok (), w')) :
    HonestJournal inc.eventID inc.number w.db w'.db ∧
      (RepeatsQuietly env s inc author admin w' ↔ VisitsStored w.db inc) := by
  obtain ⟨i, hi⟩ := Table.contains_iff.mp hi
  obtain ⟨hok, hleaves⟩ := Call.Settles.of_run (settles_updateIncident s inc admin hq
    (fun h => absurd hplain h) hcons hi hauthor
    (every_scalarEdits_honest s inc (loadedFrom w.db inc i) author admin)) ⟨rfl, rfl⟩ hrun
  obtain ⟨ed, i', logs, entries, ⟨happlied, hlogged⟩, hleft⟩ := hleaves.left hplain
  have hcons' : w'.db.Consistent w'.nextId :=
    consistent_updateIncident hcons hrun hleft.viewed.orderly
  have hquiet := hleft.quiet_iff hcons hcons' hok.2.reports
  refine ⟨hleft.honest hi hlogged, fun hrepeats => ?_, fun hstored w₁ hdb hid => ?_⟩
  · -- a second run that changed something would have lengthened the journal
    refine hquiet.mp fun hchange => ?_
    obtain ⟨w₂, hrun₂, hsame⟩ := hrepeats w' rfl rfl
    have hauthor' : w'.db.person.contains author = true := by
      rw [hleft.viewed.same.person]
      exact hauthor
    obtain ⟨-, hleaves₂⟩ := Call.Settles.of_run (settles_updateIncident s inc admin hq
      (fun h => absurd hplain h) hcons' hleft.row hauthor'
      (every_scalarEdits_honest s inc (loadedFrom w'.db inc i') author admin)) ⟨rfl, rfl⟩ hrun₂
    obtain ⟨ed₂, i₂, logs₂, entries₂, -, hleft₂⟩ := hleaves₂.left hplain
    exact hleft₂.ne_of_anyChange hchange hsame
  · have hprivacy : PrivacyOk inc i' author admin := fun hset =>
      (hok.1.privacy hset).imp_right fun hby => hleft.createdBy.trans hby
    have hset := settles_repeat s hq hcons' hleft.row (hleft.wanted happlied) hprivacy
      (hquiet.mpr hstored) hplain
    obtain ⟨⟨⟩, w₂, hrun₂⟩ := (hset.iff ⟨hdb, hid⟩).mpr trivial
    exact ⟨w₂, hrun₂, (hset.of_run ⟨hdb, hid⟩ hrun₂).2⟩

/-- **An update applied twice.** The first application of what a client sends logs of each scalar
whether it is stored differently afterwards; the second succeeds and changes nothing. -/
theorem updatePayload_repeats (env : ImsEnv) (s : Service) (w w' : ImsWorld) (ev : Event) (e n : Int)
    (u : Option IncidentUpdate) (author : Int) (admin : Bool) (hq : env.Quiet)
    (hcons : w.db.Consistent w.nextId) (hauthor : w.db.person.contains author = true)
    (hi : w.db.incident.contains (e, n) = true)
    (hplain : (updatePayload ev e n u).journalEntries = [])
    (hrun : (updateIncident s (updatePayload ev e n u) author admin).run imsDB env w = (.ok (), w')) :
    HonestJournal e n w.db w'.db ∧ RepeatsQuietly env s (updatePayload ev e n u) author admin w' := by
  have hvisits : (updatePayload ev e n u).visits = none := by cases u <;> rfl
  obtain ⟨hhonest, hrepeats⟩ := updateIncident_repeats_iff env s w w' (updatePayload ev e n u) author
    admin hq hcons hauthor hi hplain hrun
  refine ⟨hhonest, hrepeats.mpr fun l hl => ?_⟩
  rw [hvisits] at hl
  cases hl

/-- Nearly everything at once: the incident is closed, private, and has started earlier. -/
def updatesAll : IncidentUpdate where
  state := .stateClosed
  isPrivate := some true
  started := some 1783684800000000100
  priority := .high
  summary := some "Smoke"
  location := some { description := some "Main gate", booth := some "12" }
  incidentTypeIds := some [4]
  reports := some [1]
  linkedIncidents := some [{ eventId := 1, incidentNumber := 2 }]

theorem updatePayload_repeats_all : ∃ w',
    (updateIncident {} (updatePayload { name := "fair" } 1 1 (some updatesAll)) 7 true).run imsDB
      stillEnv { db := listsDB, nextId := 1 } = (.ok (), w') ∧ HonestJournal 1 1 listsDB w'.db ∧
        RepeatsQuietly stillEnv {} (updatePayload { name := "fair" } 1 1 (some updatesAll)) 7 true
          w' := by
  have hrun : ((updateIncident {} (updatePayload { name := "fair" } 1 1 (some updatesAll)) 7 true).run
    imsDB stillEnv { db := listsDB, nextId := 1 }).1 = .ok () := by decide
  refine ⟨_, Prod.ext hrun rfl, ?_⟩
  exact updatePayload_repeats stillEnv {} { db := listsDB, nextId := 1 } _ { name := "fair" } 1 1
    (some updatesAll) 7 true stillEnv_quiet listsDB_consistent (by decide) (by decide) rfl
    (Prod.ext hrun rfl)

end Both

end OcfIms
