import OcfIms.EditIncident

/-!
# Editing a report

The report pane saves its summary, the incident it belongs to, and an entry's strike, each as the
incident editor saves a field: written into the cached report at once, and written back on an error.
Nothing a report's save puts back belongs to another, so no refusal can take an accepted save with
it, whatever overlaps: it is enough that the cached report is one a server can send.
-/

namespace OcfIms

open OptimisticLib RunLib

/-- The `Report` message of a cached response. -/
structure CachedReport where
  summary : Option String := none
  incident : Option Int := none
  journalEntries : List JournalEntryMsg := []
  deriving DecidableEq, Repr

/-! ## The setters -/

/-- What `run` reads of a field, and how it writes it. -/
structure ReportRun (T : Type) where
  read : CachedReport → T
  write : CachedReport → T → CachedReport

/-- What an error does. -/
def ReportRun.restore {T : Type} (f : ReportRun T) (previous r : CachedReport) : CachedReport :=
  f.write r (f.read previous)

def reportSummaryRun : ReportRun String where
  read r := r.summary.getD ""
  write r v := { r with summary := orUndefined v }

def reportIncidentRun : ReportRun Int where
  read r := r.incident.getD 0
  write r v := { r with incident := if v > 0 then some v else none }

def reportStrikeRun (entryId : Int) : ReportRun Bool where
  read r := isStricken entryId r.journalEntries
  write r v := { r with journalEntries := strikeEntries entryId v r.journalEntries }

/-- The setters of `useEditReport`; the number of an incident, or 0 to detach. -/
inductive ReportEdit
  | setSummary (summary : String)
  | setIncident (incidentNumber : Int)
  | strike (entryId : Int) (stricken : Bool)
  deriving DecidableEq, Repr

namespace ReportEdit

/-- What a save does to the cached report when it starts. -/
def apply : ReportEdit → CachedReport → CachedReport
  | setSummary summary, r => reportSummaryRun.write r summary
  | setIncident incidentNumber, r => reportIncidentRun.write r incidentNumber
  | strike entryId stricken, r => (reportStrikeRun entryId).write r stricken

/-- What it does when it fails, from the report as it found it. -/
def restore : ReportEdit → CachedReport → CachedReport → CachedReport
  | setSummary _, previous, r => reportSummaryRun.restore previous r
  | setIncident _, previous, r => reportIncidentRun.restore previous r
  | strike entryId _, previous, r => (reportStrikeRun entryId).restore previous r

/-- The same field, or the same entry. -/
def conflict : ReportEdit → ReportEdit → Bool
  | setSummary _, setSummary _ => true
  | setIncident _, setIncident _ => true
  | strike j _, strike k _ => j = k
  | _, _ => false

end ReportEdit

/-! ## What the readers see -/

/-- A report as the readers of its fields and its journal see it. -/
@[ext] structure SeenReport where
  summary : String
  incident : Int
  entries : List JournalEntryMsg

def CachedReport.seen (r : CachedReport) : SeenReport where
  summary := r.summary.getD ""
  incident := r.incident.getD 0
  entries := r.journalEntries.map seenEntry

/-- A report that a server sends: its entries have different numbers, and its incident a positive
one. -/
structure CachedReport.Sent (r : CachedReport) : Prop where
  entries : (r.journalEntries.map (·.id)).Nodup
  incident : ∀ n, r.incident = some n → 0 < n

instance (r : CachedReport) : Decidable r.Sent :=
  decidable_of_iff ((r.journalEntries.map (·.id)).Nodup ∧ ∀ n ∈ r.incident, 0 < n)
    ⟨fun h => ⟨h.1, h.2⟩, fun h => ⟨h.entries, h.incident⟩⟩

namespace ReportEdit

def act : ReportEdit → SeenReport → SeenReport
  | setSummary summary, v => { v with summary }
  | setIncident incidentNumber, v => { v with incident := max incidentNumber 0 }
  | strike entryId stricken, v => { v with entries := strikeEntries entryId stricken v.entries }

def undo : ReportEdit → SeenReport → SeenReport → SeenReport
  | setSummary _, u, v => { v with summary := u.summary }
  | setIncident _, u, v => { v with incident := u.incident }
  | strike entryId _, u, v =>
    { v with entries := strikeEntries entryId (isStricken entryId u.entries) v.entries }

variable {r previous : CachedReport}

theorem getD_incident (v : Int) : (if v > 0 then some v else none : Option Int).getD 0 = max v 0 := by
  split <;> simp <;> omega

theorem seen_apply (e : ReportEdit) (r : CachedReport) : (e.apply r).seen = e.act r.seen := by
  cases e with
  | setSummary summary => exact SeenReport.ext (getD_orUndefined summary) rfl rfl
  | setIncident n => exact SeenReport.ext rfl (getD_incident n) rfl
  | strike entryId stricken => exact SeenReport.ext rfl rfl (map_seenEntry_strike entryId _ _)

/-- A number that is there is positive, so that it is written back as it was. -/
theorem restored_incident (h : previous.Sent) :
    max (previous.incident.getD 0) 0 = previous.incident.getD 0 := by
  cases hn : previous.incident with
  | none => rfl
  | some n => exact max_eq_left (le_of_lt (h.incident n hn))

theorem seen_restore (e : ReportEdit) (r : CachedReport) (h : previous.Sent) :
    (e.restore previous r).seen = e.undo previous.seen r.seen := by
  cases e with
  | setSummary => exact SeenReport.ext (getD_orUndefined _) rfl rfl
  | setIncident => exact SeenReport.ext rfl ((getD_incident _).trans (restored_incident h)) rfl
  | strike entryId =>
      refine SeenReport.ext rfl rfl ((map_seenEntry_strike entryId _ _).trans ?_)
      change _ = strikeEntries entryId (isStricken entryId (previous.journalEntries.map seenEntry)) _
      rw [isStricken_seenEntry]
      rfl

theorem undo_act (e : ReportEdit) (u v : SeenReport) : e.undo u (e.act v) = e.undo u v := by
  cases e with
  | setSummary | setIncident => rfl
  | strike entryId => exact SeenReport.ext rfl rfl (strikeEntries_twice entryId _ _ v.entries)

theorem undo_act_comm (e t : ReportEdit) (u v : SeenReport) (h : e.conflict t = false) :
    e.undo u (t.act v) = t.act (e.undo u v) := by
  cases e with
  | setSummary => cases t <;> first | rfl | cases h
  | setIncident => cases t <;> first | rfl | cases h
  | strike entryId =>
      cases t with
      | setSummary | setIncident => rfl
      | strike entryId' =>
          exact SeenReport.ext rfl rfl (strikeEntries_comm (of_decide_eq_false h) _ _ v.entries)

/-- What takes an edit back is an edit of the same kind. -/
theorem undo_comm (e t : ReportEdit) (u u' v : SeenReport) (h : e.conflict t = false) :
    e.undo u (t.undo u' v) = t.undo u' (e.undo u v) := by
  cases t with
  | setSummary => cases e <;> first | rfl | cases h
  | setIncident => cases e <;> first | rfl | cases h
  | strike entryId =>
      cases e with
      | setSummary | setIncident => rfl
      | strike entryId' =>
          exact SeenReport.ext rfl rfl (strikeEntries_comm (of_decide_eq_false h) _ _ v.entries)

/-- Of different numbers only the entry itself carries its own. -/
theorem isStricken_of_mem {l : List JournalEntryMsg} (h : (l.map (·.id)).Nodup)
    {e : JournalEntryMsg} (he : e ∈ l) : isStricken e.id l = (e.stricken == some true) := by
  have hfind : l.find? (fun x => x.id == e.id) = some e := by
    obtain ⟨x, hx⟩ := Option.isSome_iff_exists.mp
      (List.find?_isSome.mpr ⟨e, he, beq_self_eq_true e.id⟩ :
        (l.find? fun x => x.id == e.id).isSome = true)
    have hid : x.id = e.id := by simpa using List.find?_some hx
    rw [hx, List.inj_on_of_nodup_map h (List.mem_of_find?_eq_some hx) he hid]
  rw [isStricken, hfind]
  rfl

theorem undo_self (e : ReportEdit) (h : r.Sent) : e.undo r.seen r.seen = r.seen := by
  cases e with
  | setSummary | setIncident => rfl
  | strike entryId =>
      refine SeenReport.ext rfl rfl (strikeEntries_isStricken fun entry hentry hid => ?_)
      obtain ⟨entry', hmem, rfl⟩ := List.mem_map.mp hentry
      have hstricken := isStricken_of_mem h.entries hmem
      rw [show entry'.id = entryId from hid] at hstricken
      rw [show r.seen.entries = r.journalEntries.map seenEntry from rfl, isStricken_seenEntry,
        hstricken]
      rfl

end ReportEdit

/-- No save of a report overwrites another. -/
def reportEdits : Edits CachedReport SeenReport ReportEdit where
  see := CachedReport.seen
  apply := ReportEdit.apply
  restore := ReportEdit.restore
  act := ReportEdit.act
  undo := ReportEdit.undo
  faithful _ previous := decide previous.Sent
  conflict := ReportEdit.conflict
  overwrites _ _ := false
  see_apply := ReportEdit.seen_apply
  see_restore e _ r h := e.seen_restore r (of_decide_eq_true h)
  undo_act := ReportEdit.undo_act
  undo_self e _ h := e.undo_self (of_decide_eq_true h)
  undo_act_comm e t u v h _ := e.undo_act_comm t u v h
  undo_comm e t u u' v h _ _ := e.undo_comm t u u' v h

/-! ## Any number of saves under way -/

theorem sent_strike {r : CachedReport} (h : r.Sent) (entryId : Int) (b : Bool) :
    ((reportStrikeRun entryId).write r b).Sent := by
  refine ⟨?_, h.incident⟩
  have hids : (strikeEntries entryId b r.journalEntries).map (·.id) =
      r.journalEntries.map (·.id) := by
    rw [strikeEntries, List.map_map]
    refine List.map_congr_left fun e _ => ?_
    rw [Function.comp_apply]
    split <;> rfl
  change ((strikeEntries entryId b r.journalEntries).map (·.id)).Nodup
  rw [hids]
  exact h.entries

theorem sent_incident {r : CachedReport} (h : r.Sent) (v : Int) :
    (reportIncidentRun.write r v).Sent := by
  refine ⟨h.entries, fun n hn => ?_⟩
  change (if v > 0 then some v else none) = some n at hn
  split at hn
  · rename_i hv
    exact Option.some.inj hn ▸ hv
  · cases hn

/-- A save leaves a report that a server could send, and so does taking it back. -/
theorem ReportEdit.sent_apply {r : CachedReport} (h : r.Sent) (e : ReportEdit) :
    (e.apply r).Sent := by
  cases e with
  | setSummary => exact ⟨h.entries, h.incident⟩
  | setIncident n => exact sent_incident h n
  | strike entryId b => exact sent_strike h entryId b

theorem ReportEdit.sent_restore {r : CachedReport} (h : r.Sent) (e : ReportEdit)
    (previous : CachedReport) : (e.restore previous r).Sent := by
  cases e with
  | setSummary => exact ⟨h.entries, h.incident⟩
  | setIncident => exact sent_incident h _
  | strike entryId => exact sent_strike h entryId _

/-- Everything cached, now or when a save started, could have been sent. -/
structure AllSent (sys : Editor CachedReport ReportEdit) : Prop where
  cache : sys.cache.Sent
  saves : ∀ s ∈ sys.saves, s.previous.Sent

theorem AllSent.step {sys sys' : Editor CachedReport ReportEdit} (h : AllSent sys)
    {a : Action ReportEdit} (hs : reportEdits.step sys a = some sys') : AllSent sys' := by
  cases a with
  | start e =>
      rw [Edits.step] at hs
      split at hs
      · cases hs
      cases hs
      refine ⟨e.sent_apply h.cache, fun s hs => ?_⟩
      rcases List.mem_append.mp hs with hs | hs
      · exact h.saves s hs
      · rw [List.mem_singleton.mp hs]
        exact h.cache
  | settle n ok =>
      rw [Edits.step] at hs
      split at hs
      · cases hs
      rename_i x hx
      have hprevious : ∀ status, ∀ s ∈ sys.saves.set n { x with status }, s.previous.Sent := by
        intro status s hs
        rcases List.mem_or_eq_of_mem_set hs with hs | rfl
        · exact h.saves s hs
        · exact h.saves x (List.mem_of_getElem? hx)
      split at hs
      · cases hs
      split at hs
      · cases hs
        exact ⟨h.cache, hprevious .saved⟩
      · cases hs
        exact ⟨x.edit.sent_restore h.cache _, hprevious .refused⟩

/-- So each refused save can be taken back alone. -/
theorem AllSent.clean {sys : Editor CachedReport ReportEdit} (h : AllSent sys)
    (a : Action ReportEdit) : reportEdits.Clean sys a := by
  cases a with
  | start => trivial
  | settle n ok =>
      cases ok with
      | true => trivial
      | false =>
          intro s hs
          refine ⟨decide_eq_true (h.saves s (List.mem_of_getElem? hs)), ?_, ?_⟩
          · exact fun _ _ _ _ hover => nomatch hover
          · exact fun _ _ hover => nomatch hover

/-- **A refused save takes nothing with it.** Saves may overlap in any order, those of one field or
one entry apart: once all are settled, the report is seen as the accepted ones alone make it. -/
theorem reportSaves_rollBackAlone (r : CachedReport) (hr : r.Sent)
    {as : List (Action ReportEdit)} {sys : Editor CachedReport ReportEdit}
    (hrun : Run reportEdits.step { cache := r } as sys) (hsettled : Edits.Settled sys) :
    sys.cache.seen = ((Edits.accepted sys).foldl (fun r e => e.apply r) r).seen := by
  have hclean : RunMeeting reportEdits.step reportEdits.Clean { cache := r } as sys ∧
      AllSent sys := by
    refine hrun.invariant (I := fun as sys =>
      RunMeeting reportEdits.step reportEdits.Clean { cache := r } as sys ∧ AllSent sys)
      ⟨.start, hr, fun s hs => nomatch hs⟩ ?_
    rintro as sys a sys' ⟨hmeeting, hsent⟩ hs
    exact ⟨hmeeting.next (hsent.clean a) hs, hsent.step hs⟩
  exact Edits.seen_of_run reportEdits r hclean.1 hsettled

/-- Three saves at once, of which the link and the strike are refused; then the report is detached. -/
theorem reportSaves_rollBackAlone_detach :
    ∃ sys, Run reportEdits.step
        { cache := { summary := some "Smoke", incident := some 4,
                     journalEntries := campIncident.journalEntries } }
        [.start (.setIncident 9), .start (.setSummary ""), .start (.strike 7 true),
          .settle 2 false, .settle 0 false, .settle 1 true, .start (.setIncident 0),
          .settle 3 true] sys ∧
      Edits.accepted sys = [.setSummary "", .setIncident 0] ∧
      sys.cache.seen = ((Edits.accepted sys).foldl (fun r e => e.apply r)
        { summary := some "Smoke", incident := some 4,
          journalEntries := campIncident.journalEntries : CachedReport }).seen := by
  have hrun : Run reportEdits.step
      { cache := { summary := some "Smoke", incident := some 4,
                   journalEntries := campIncident.journalEntries } }
      [.start (.setIncident 9), .start (.setSummary ""), .start (.strike 7 true),
        .settle 2 false, .settle 0 false, .settle 1 true, .start (.setIncident 0),
        .settle 3 true] _ := run_of_exec rfl
  exact ⟨_, hrun, by decide, reportSaves_rollBackAlone _ (by decide) hrun (by decide)⟩

end OcfIms
