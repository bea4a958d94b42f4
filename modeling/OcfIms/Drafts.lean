import OcfIms.LibCell
import OcfIms.LibRecord
import OcfIms.JSText

/-!
# Drafts

What a composer has not sent yet: for each event and each target, the draft. One storage key holds
every draft of the device, so a save reads them all, changes one, and writes them all back. The
composers do not wait for their saves, and signing out removes the key.
-/

namespace OcfIms

open RunLib RecordLib

/-! ## Drafts and their text -/

inductive DraftTarget
  | new
  | reportNew
  | incident (number : Int)
  | report (number : Int)
  deriving DecidableEq, Repr

structure OnBehalfOf (ν : Type) where
  personId : ν
  label : JSString
  deriving DecidableEq, Repr

structure Draft (ν : Type) where
  summary : Option JSString
  text : JSString
  onBehalfOf : Option (OnBehalfOf ν)
  deriving DecidableEq, Repr

abbrev Drafts (ν : Type) := Record JSString (Draft ν)

/-- The text under the key as `JSON.parse` reads it, nothing where it throws. -/
abbrev DraftsText (ν : Type) := Option (JSValue ν)

def DraftTarget.text : DraftTarget → JSString
  | .new => utf16 "new"
  | .reportNew => utf16 "report-new"
  | .incident number => numberText number
  | .report number => utf16 "report-" ++ numberText number

def draftKey (eventId : Int) (target : DraftTarget) : JSString :=
  numberText eventId ++ utf16 "/" ++ target.text

variable {ν ι : Type}

def isEmptyDraft (draft : Draft ν) : Bool :=
  trimText (draft.summary.getD []) = [] && trimText draft.text = []

/-- The person and the label, where both are there. -/
def onBehalfOfValue : JSValue ν → Option (OnBehalfOf ν)
  | .object members =>
    match Record.get members (utf16 "personId"), Record.get members (utf16 "label") with
    | some (.number personId), some (.string label) => some ⟨personId, label⟩
    | _, _ => none
  | _ => none

def textValue : JSValue ν → Option JSString
  | .string s => some s
  | _ => none

/-- What `parseDrafts` keeps of a value. -/
def draftOfValue : JSValue ν → Option (Draft ν)
  | .object members =>
    ((Record.get members (utf16 "text")).bind textValue).map fun text =>
      { text
        summary := (Record.get members (utf16 "summary")).bind textValue
        onBehalfOf := (Record.get members (utf16 "onBehalfOf")).bind onBehalfOfValue }
  | _ => none

def parseDrafts : DraftsText ν → Drafts ν
  | some (.object members) => Record.read draftOfValue members
  | _ => []

def loadDrafts : Option (DraftsText ν) → Drafts ν
  | none => []
  | some raw => parseDrafts raw

/-- A draft as `JSON.stringify` writes it: a member that is undefined is left out. -/
def draftValue (draft : Draft ν) : JSValue ν :=
  .object ((utf16 "text", .string draft.text) ::
    ((draft.summary.map fun s => (utf16 "summary", .string s)).toList ++
      (draft.onBehalfOf.map fun pick => (utf16 "onBehalfOf",
        .object [(utf16 "personId", .number pick.personId),
          (utf16 "label", .string pick.label)])).toList))

def draftsText (drafts : Drafts ν) : DraftsText ν := some (.object (drafts.write draftValue))

theorem draftOfValue_draftValue (draft : Draft ν) : draftOfValue (draftValue draft) = some draft := by
  obtain ⟨summary, text, onBehalfOf⟩ := draft
  cases summary <;> cases onBehalfOf <;> rfl

/-- Drafts that were written are read back. -/
theorem parseDrafts_draftsText (drafts : Drafts ν) : parseDrafts (draftsText drafts) = drafts :=
  Record.read_write draftOfValue_draftValue drafts

/-! ## The calls -/

/-- An empty draft is removed rather than stored. -/
def saveDraft (eventId : Int) (target : DraftTarget) (draft : Draft ν) (drafts : Drafts ν) :
    Drafts ν :=
  if isEmptyDraft draft then drafts.delete (draftKey eventId target)
  else drafts.set (draftKey eventId target) draft

def clearDraft (eventId : Int) (target : DraftTarget) (drafts : Drafts ν) : Drafts ν :=
  drafts.delete (draftKey eventId target)

inductive DraftCall (ν : Type)
  | saveDraft (eventId : Int) (target : DraftTarget) (draft : Draft ν)
  | clearDraft (eventId : Int) (target : DraftTarget)
  | clearDrafts

/-- How far a call is; from its read on it holds the drafts as they were then. -/
inductive DraftPhase (ν : Type)
  | idle
  | started
  | loaded (drafts : Drafts ν)
  | done

/-- The storage under the key, the calls, and the order in which they started. -/
structure DraftStore (ι ν : Type) where
  stored : Option (DraftsText ν)
  phase : ι → DraftPhase ν := fun _ => .idle
  begun : List ι := []

def DraftStore.step [DecidableEq ι] (calls : ι → DraftCall ν) (s : DraftStore ι ν) (i : ι) :
    Option (DraftStore ι ν) :=
  match s.phase i, calls i with
  | .idle, _ =>
    some { s with phase := Function.update s.phase i .started, begun := s.begun ++ [i] }
  | .started, .saveDraft _ _ _ =>
    some { s with phase := Function.update s.phase i (.loaded (loadDrafts s.stored)) }
  | .started, .clearDraft _ _ =>
    some { s with phase := Function.update s.phase i (.loaded (loadDrafts s.stored)) }
  | .loaded drafts, .saveDraft eventId target draft =>
    some { s with
      stored := some (draftsText (saveDraft eventId target draft drafts))
      phase := Function.update s.phase i .done }
  | .loaded drafts, .clearDraft eventId target =>
    some { s with
      stored := some (draftsText (clearDraft eventId target drafts))
      phase := Function.update s.phase i .done }
  | .started, .clearDrafts =>
    some { s with stored := none, phase := Function.update s.phase i .done }
  | _, _ => none

/-- The call run alone. -/
def DraftCall.alone : DraftCall ν → Option (DraftsText ν) → Option (DraftsText ν)
  | .saveDraft eventId target draft, stored =>
    some (draftsText (OcfIms.saveDraft eventId target draft (loadDrafts stored)))
  | .clearDraft eventId target, stored =>
    some (draftsText (OcfIms.clearDraft eventId target (loadDrafts stored)))
  | .clearDrafts, _ => none

/-- The call stores the draft under the key. -/
def DraftCall.Saves (call : DraftCall ν) (key : JSString) (draft : Draft ν) : Prop :=
  ∃ eventId target, call = .saveDraft eventId target draft ∧ draftKey eventId target = key ∧
    isEmptyDraft draft = false

def DraftStore.StartedBefore (s : DraftStore ι ν) (i j : ι) : Prop := List.Sublist [i, j] s.begun

/-- The call has started, and is still to write. -/
def DraftPhase.InFlight : DraftPhase ν → Prop
  | .started => True
  | .loaded _ => True
  | _ => False

/-- No draft but that of the key differs. -/
def SameBut (key : JSString) (drafts drafts' : Drafts ν) : Prop :=
  ∀ other, other ≠ key → drafts.get other = drafts'.get other

/-- A call writes where no draft of another target has changed in the storage since it read them, and
the drafts are removed where no save that had started before is still to write one. -/
def DraftStore.Apart (calls : ι → DraftCall ν) (s : DraftStore ι ν) (i : ι) : Prop :=
  match s.phase i, calls i with
  | .loaded drafts, .saveDraft eventId target _ =>
    SameBut (draftKey eventId target) drafts (loadDrafts s.stored)
  | .loaded drafts, .clearDraft eventId target =>
    SameBut (draftKey eventId target) drafts (loadDrafts s.stored)
  | .started, .clearDrafts =>
    ∀ j key draft, (calls j).Saves key draft → s.StartedBefore j i → ¬ (s.phase j).InFlight
  | _, _ => True

/-! ## The storage as a map that is edited -/

def DraftCall.edit : DraftCall ν → CellLib.Edit JSString (Draft ν)
  | .saveDraft eventId target draft =>
    .put (draftKey eventId target) (if isEmptyDraft draft then none else some draft)
  | .clearDraft eventId target => .put (draftKey eventId target) none
  | .clearDrafts => .wipe

def DraftPhase.cell : DraftPhase ν → CellLib.Phase JSString (Draft ν)
  | .idle => .idle
  | .started => .started
  | .loaded drafts => .read drafts.get
  | .done => .done

def DraftStore.cell (s : DraftStore ι ν) : CellLib.Cell ι JSString (Draft ν) :=
  ⟨(loadDrafts s.stored).get, fun i => (s.phase i).cell, s.begun⟩

theorem get_saveDraft (eventId : Int) (target : DraftTarget) (draft : Draft ν) (drafts : Drafts ν) :
    (saveDraft eventId target draft drafts).get =
      (DraftCall.saveDraft eventId target draft).edit.effect drafts.get := by
  funext key
  rw [saveDraft, DraftCall.edit, CellLib.Edit.effect, Function.update_apply]
  split
  · rw [Record.get_delete]
    exact if_congr eq_comm rfl rfl
  · rw [Record.get_set]
    exact if_congr eq_comm rfl rfl

theorem get_clearDraft (eventId : Int) (target : DraftTarget) (drafts : Drafts ν) :
    (clearDraft eventId target drafts).get =
      (DraftCall.clearDraft (ν := ν) eventId target).edit.effect drafts.get := by
  funext key
  rw [clearDraft, DraftCall.edit, CellLib.Edit.effect, Function.update_apply, Record.get_delete]
  exact if_congr eq_comm rfl rfl

theorem get_alone (call : DraftCall ν) (stored : Option (DraftsText ν)) :
    (loadDrafts (call.alone stored)).get = call.edit.effect (loadDrafts stored).get := by
  cases call with
  | saveDraft eventId target draft =>
      rw [DraftCall.alone, loadDrafts, parseDrafts_draftsText, get_saveDraft]
  | clearDraft eventId target =>
      rw [DraftCall.alone, loadDrafts, parseDrafts_draftsText, get_clearDraft]
  | clearDrafts => rfl

theorem puts_edit_iff {call : DraftCall ν} {key : JSString} {draft : Draft ν} :
    call.edit.Puts key draft ↔ call.Saves key draft := by
  cases call with
  | saveDraft eventId target draft' =>
      cases hempty : isEmptyDraft draft' with
      | true =>
          simp only [DraftCall.edit, CellLib.Edit.Puts, DraftCall.Saves, hempty]
          constructor
          · intro h
            cases h
          · rintro ⟨_, _, h, -, hfull⟩
            cases h
            rw [hempty] at hfull
            cases hfull
      | false =>
          simp only [DraftCall.edit, CellLib.Edit.Puts, DraftCall.Saves, hempty]
          constructor
          · intro h
            cases h
            exact ⟨eventId, target, rfl, rfl, hempty⟩
          · rintro ⟨_, _, h, rfl, -⟩
            cases h
            rfl
  | clearDraft eventId target =>
      simp [DraftCall.edit, CellLib.Edit.Puts, DraftCall.Saves]
  | clearDrafts => simp [DraftCall.edit, CellLib.Edit.Puts, DraftCall.Saves]

theorem inFlight_cell_iff {phase : DraftPhase ν} : phase.cell.InFlight ↔ phase.InFlight := by
  cases phase <;> exact Iff.rfl

theorem cell_update [DecidableEq ι] (s : DraftStore ι ν) (stored : Option (DraftsText ν)) (i : ι)
    (p : DraftPhase ν) (begun : List ι) :
    DraftStore.cell { stored, phase := Function.update s.phase i p, begun } =
      ⟨(loadDrafts stored).get, Function.update s.cell.phase i p.cell, begun⟩ := by
  rw [DraftStore.cell, CellLib.Cell.mk.injEq]
  refine ⟨rfl, ?_, rfl⟩
  funext j
  change (Function.update s.phase i p j).cell = Function.update s.cell.phase i p.cell j
  by_cases hj : j = i
  · rw [hj, Function.update_self, Function.update_self]
  · rw [Function.update_of_ne hj, Function.update_of_ne hj]
    rfl

section Runs

variable [DecidableEq ι] {calls : ι → DraftCall ν} {s s' : DraftStore ι ν} {i : ι}

/-- A step of the storage is a step of the map. -/
theorem cell_step (h : s.step calls i = some s') :
    CellLib.step (fun i => (calls i).edit) s.cell i = some s'.cell := by
  have hphase : s.cell.phase i = (s.phase i).cell := rfl
  rw [DraftStore.step] at h
  rw [CellLib.step, hphase]
  split at h
  · rename_i hi
    cases h
    rw [hi, cell_update]
    rfl
  · rename_i hi hcall
    cases h
    rw [hi, hcall, cell_update]
    rfl
  · rename_i hi hcall
    cases h
    rw [hi, hcall, cell_update]
    rfl
  · rename_i drafts eventId target draft hi hcall
    cases h
    rw [hi, hcall, cell_update, loadDrafts, parseDrafts_draftsText, get_saveDraft]
    rfl
  · rename_i drafts eventId target hi hcall
    cases h
    rw [hi, hcall, cell_update, loadDrafts, parseDrafts_draftsText, get_clearDraft]
    rfl
  · rename_i hi hcall
    cases h
    rw [hi, hcall, cell_update]
    rfl
  · cases h

omit [DecidableEq ι] in
theorem cell_apart (h : s.Apart calls i) : CellLib.Apart (fun i => (calls i).edit) s.cell i := by
  rw [DraftStore.Apart] at h
  simp only [CellLib.Apart, DraftStore.cell]
  cases hi : s.phase i with
  | idle => trivial
  | done => trivial
  | started =>
      cases hcall : calls i with
      | saveDraft _ _ _ => trivial
      | clearDraft _ _ => trivial
      | clearDrafts =>
          rw [hi, hcall] at h
          intro j key draft hputs hbefore hflight
          exact h j key draft (puts_edit_iff.mp hputs) hbefore (inFlight_cell_iff.mp hflight)
  | loaded drafts =>
      cases hcall : calls i with
      | saveDraft _ _ _ =>
          rw [hi, hcall] at h
          exact h
      | clearDraft _ _ =>
          rw [hi, hcall] at h
          exact h
      | clearDrafts => trivial

omit [DecidableEq ι] in
/-- One call after the other comes to what the edits come to. -/
theorem get_foldl_alone (calls : ι → DraftCall ν) (order : List ι)
    (stored : Option (DraftsText ν)) :
    (loadDrafts (order.foldl (fun stored i => (calls i).alone stored) stored)).get =
      order.foldl (fun m i => (calls i).edit.effect m) (loadDrafts stored).get := by
  induction order generalizing stored with
  | nil => rfl
  | cons i order ih => rw [List.foldl_cons, List.foldl_cons, ih, get_alone]

end Runs

/-- **Drafts survive each other and die at sign-out**, in every run whose calls are kept apart. The
drafts stored are those of the calls made one after the other, each once; and each of them was saved by
a call that had not started before any call that removed them all, or was there at first. -/
theorem drafts_survive [DecidableEq ι] {calls : ι → DraftCall ν} {first : Option (DraftsText ν)}
    {as : List ι} {s : DraftStore ι ν}
    (h : RunMeeting (DraftStore.step calls) (DraftStore.Apart calls) { stored := first } as s) :
    (∃ order : List ι, order.Nodup ∧ (∀ i, i ∈ order ↔ s.phase i = .done) ∧
        ∀ key, (loadDrafts s.stored).get key =
          (loadDrafts (order.foldl (fun stored i => (calls i).alone stored) first)).get key) ∧
      ∀ key draft, (loadDrafts s.stored).get key = some draft →
        (∃ i, s.phase i = .done ∧ (calls i).Saves key draft ∧
          ∀ c, s.phase c = .done → calls c = .clearDrafts → ¬ s.StartedBefore i c) ∨
        (loadDrafts first).get key = some draft ∧
          ∀ c, s.phase c = .done → calls c ≠ .clearDrafts := by
  have hrun : RunMeeting (CellLib.step fun i => (calls i).edit)
      (CellLib.Apart fun i => (calls i).edit) (CellLib.fresh (loadDrafts first).get) as s.cell :=
    h.map (fun _ _ _ => cell_step) fun _ _ => cell_apart
  obtain ⟨order, hserial⟩ := CellLib.serial_of_run hrun
  have hdone : ∀ i, s.cell.phase i = .done ↔ s.phase i = .done := by
    intro i
    change (s.phase i).cell = .done ↔ _
    cases s.phase i <;> simp [DraftPhase.cell]
  have hwipe : ∀ c, (calls c).edit = .wipe ↔ calls c = .clearDrafts := by
    intro c
    cases calls c <;> simp [DraftCall.edit]
  refine ⟨⟨order.map Prod.fst, hserial.linear.once, fun i => (hserial.done i).trans (hdone i),
    fun key => ?_⟩, fun key draft hstored => ?_⟩
  · rw [get_foldl_alone, List.foldl_map, hserial.linear.outcome]
    rfl
  · rcases hserial.outlives hstored with ⟨i, hi, hputs, hbefore⟩ | ⟨hfirst, hall⟩
    · exact .inl ⟨i, (hdone i).mp hi, puts_edit_iff.mp hputs,
        fun c hc hclear => hbefore c ((hdone c).mpr hc) ((hwipe c).mpr hclear)⟩
    · exact .inr ⟨hfirst, fun c hc hclear =>
        hall c ((hdone c).mpr hc) ((hwipe c).mpr hclear)⟩

/-- One composer has saved, the user signs out, and another composer starts to save before the drafts
are removed. -/
def savesAroundSignOut (draft : Draft Int) : Fin 3 → DraftCall Int
  | 0 => .saveDraft 1 .new draft
  | 1 => .clearDrafts
  | 2 => .saveDraft 1 .reportNew draft

theorem drafts_survive_signOut :
    let draft : Draft Int := ⟨none, utf16 "a tree", none⟩
    let calls := savesAroundSignOut draft
    ∃ s : DraftStore (Fin 3) Int, (∀ i, s.phase i = .done) ∧
      loadDrafts s.stored = [(draftKey 1 .reportNew, draft)] ∧
      (∃ order : List (Fin 3), order.Nodup ∧ (∀ i, i ∈ order) ∧ ∀ key,
        (loadDrafts s.stored).get key =
          (loadDrafts (order.foldl (fun stored i => (calls i).alone stored) none)).get key) ∧
      ∀ key stored, (loadDrafts s.stored).get key = some stored →
        ∃ i, (calls i).Saves key stored ∧ ¬ s.StartedBefore i 1 := by
  intro draft calls
  have hsame : ∀ key (drafts : Drafts Int), SameBut key drafts drafts := fun _ _ _ _ => rfl
  have hstarted : RunMeeting (DraftStore.step calls) (DraftStore.Apart calls) { stored := none }
      [0] _ := RunMeeting.start.next trivial rfl
  have hread : RunMeeting (DraftStore.step calls) (DraftStore.Apart calls) { stored := none }
      [0, 0] _ := hstarted.next trivial rfl
  have hwritten : RunMeeting (DraftStore.step calls) (DraftStore.Apart calls) { stored := none }
      [0, 0, 0] _ := hread.next (hsame (draftKey 1 .new) []) rfl
  have hout : RunMeeting (DraftStore.step calls) (DraftStore.Apart calls) { stored := none }
      [0, 0, 0, 1] _ := hwritten.next trivial rfl
  have hnext : RunMeeting (DraftStore.step calls) (DraftStore.Apart calls) { stored := none }
      [0, 0, 0, 1, 2] _ := hout.next trivial rfl
  have hcleared : RunMeeting (DraftStore.step calls) (DraftStore.Apart calls) { stored := none }
      [0, 0, 0, 1, 2, 1] _ := hnext.next (fun j key saved hsaves hbefore hflight => by
    fin_cases j
    · exact hflight
    · obtain ⟨_, _, h, -⟩ := hsaves
      cases h
    · -- the second composer has started after the sign-out
      have hafter : ¬ List.Sublist [(2 : Fin 3), 1] [0, 1, 2] := by decide
      exact hafter hbefore) rfl
  have hread' : RunMeeting (DraftStore.step calls) (DraftStore.Apart calls) { stored := none }
      [0, 0, 0, 1, 2, 1, 2] _ := hcleared.next trivial rfl
  obtain ⟨s, hrun, hdone, hstored⟩ : ∃ s, RunMeeting (DraftStore.step calls) (DraftStore.Apart calls)
      { stored := none } [0, 0, 0, 1, 2, 1, 2, 2] s ∧ (∀ i, s.phase i = .done) ∧
        loadDrafts s.stored = [(draftKey 1 .reportNew, draft)] :=
    ⟨_, hread'.next (hsame (draftKey 1 .reportNew) _) rfl, by intro i; fin_cases i <;> rfl, rfl⟩
  obtain ⟨⟨order, hnodup, hall, hget⟩, hsaved⟩ := drafts_survive hrun
  refine ⟨s, hdone, hstored, ⟨order, hnodup, fun i => (hall i).mpr (hdone i), hget⟩,
    fun key stored h => ?_⟩
  rcases hsaved key stored h with ⟨i, -, hi, hbefore⟩ | ⟨hfirst, -⟩
  · exact ⟨i, hi, hbefore 1 (hdone 1) rfl⟩
  · cases hfirst

/-- A save has read the drafts when signing out removes them, and writes its own back: a draft whose
save started first is stored when both calls are done. -/
theorem draft_outlives_sign_out :
    let draft : Draft Int := ⟨none, utf16 "a tree", none⟩
    let calls : Bool → DraftCall Int := fun
      | false => .saveDraft 1 .new draft
      | true => .clearDrafts
    ∃ s, Run (DraftStore.step calls) { stored := none } [false, false, true, true, false] s ∧
      (∀ i, s.phase i = .done) ∧ s.StartedBefore false true ∧
      (calls false).Saves (draftKey 1 .new) draft ∧
      loadDrafts s.stored = [(draftKey 1 .new, draft)] := by
  intro draft calls
  refine ⟨_, run_of_exec rfl, by rintro (_ | _) <;> rfl, List.Sublist.refl _, ⟨1, .new, rfl, rfl, ?_⟩, ?_⟩
  · decide
  · rfl

end OcfIms
