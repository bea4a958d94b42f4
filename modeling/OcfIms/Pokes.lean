import OcfIms.LibTold
import OcfIms.LinkTimeline
import OcfIms.RecordFrames

/-!
# The pokes of the writes

Every method that writes incidents and reports tells the subscribers which records to read again: a
poke names one record, and is worth something if the store already shows what it announces. The
methods put their lists of pokes together by hand, beside their writes. `PokesComplete` compares the
records before and after a call with what the call told; the rest says for each method when the two
agree.
-/

namespace OcfIms

open TxnLib Call

/-! ## What a call told -/

/-- What a call tells, with the database that was committed at the time. -/
abbrev Told : Type := List (Effect × DB)

def incidentPoke (e n : Int) : Effect := .watch { eventID := e, incidentNumber := n }

def reportPoke (e r : Int) : Effect := .watch { eventID := e, reportNumber := r }

/-- A record that a call changed was poked: one poke came when the database showed the record as it
stays, and none before it showed a change. -/
structure Announced {ρ : Type} (told : Told) (poke : Effect) (record : DB → ρ) (before after : DB) :
    Prop where
  shown : ∃ db, (poke, db) ∈ told ∧ record db = record after
  committed : ∀ db, (poke, db) ∈ told → record db ≠ record before

/-- Every record a call changed was poked. -/
structure PokesComplete (told : Told) (before after : DB) : Prop where
  incident : ∀ e n, before.incidentRecord e n ≠ after.incidentRecord e n →
    Announced told (incidentPoke e n) (·.incidentRecord e n) before after
  report : ∀ e r, before.reportRecord e r ≠ after.reportRecord e r →
    Announced told (reportPoke e r) (·.reportRecord e r) before after

/-- The call poked the incidents in `I` and the reports in `R`, and no others, all of them when the
database was as it stays. -/
structure Pokes (I R : Int → Int → Prop) (told : Told) (after : DB) : Prop where
  last : ∀ o db, (o, db) ∈ told → db = after
  incident : ∀ e n, I e n → ∃ db, (incidentPoke e n, db) ∈ told
  report : ∀ e r, R e r → ∃ db, (reportPoke e r, db) ∈ told
  onlyIncident : ∀ e n db, (incidentPoke e n, db) ∈ told → I e n
  onlyReport : ∀ e r db, (reportPoke e r, db) ∈ told → R e r

variable {I R : Int → Int → Prop} {told : Told} {before after : DB}

theorem announced_of_last {ρ : Type} {poke : Effect} {record : DB → ρ}
    (hlast : ∀ o db, (o, db) ∈ told → db = after) (hpoked : ∃ db, (poke, db) ∈ told)
    (hne : record before ≠ record after) : Announced told poke record before after := by
  obtain ⟨db, hmem⟩ := hpoked
  refine ⟨⟨db, hmem, by rw [hlast _ _ hmem]⟩, fun db' hmem' => ?_⟩
  rw [hlast _ _ hmem']
  exact Ne.symm hne

/-- Where nothing else has changed, that is enough. -/
theorem Pokes.complete (hpokes : Pokes I R told after) (hframed : Framed I R before after) :
    PokesComplete told before after := by
  constructor
  · intro e n hne
    have hin : I e n := by
      by_contra hout
      exact hne (hframed.incident e n hout).symm
    exact announced_of_last hpokes.last (hpokes.incident e n hin) hne
  · intro e r hne
    have hin : R e r := by
      by_contra hout
      exact hne (hframed.report e r hout).symm
    exact announced_of_last hpokes.last (hpokes.report e r hin) hne

/-- A call that changed nothing has nothing to tell. -/
theorem pokesComplete_self (db : DB) : PokesComplete told db db :=
  ⟨fun _ _ h => absurd rfl h, fun _ _ h => absurd rfl h⟩

/-- What may be told, where only the incidents in `I` and the reports in `R` may be poked. -/
def tellsOnly (I R : Int → Int → Prop) (o : Effect) : Prop :=
  (∀ e n, o = incidentPoke e n → I e n) ∧ ∀ e r, o = reportPoke e r → R e r

/-- No poke at all. -/
def noPoke : Effect → Prop := tellsOnly (fun _ _ => False) fun _ _ => False

theorem noPoke.tellsOnly {o : Effect} (h : noPoke o) : tellsOnly I R o :=
  ⟨fun e n ho => (h.1 e n ho).elim, fun e r ho => (h.2 e r ho).elim⟩

/-- Messages that are no pokes change nothing. -/
theorem Pokes.append (hpokes : Pokes I R told after) {more : Told}
    (hmore : ∀ o db, (o, db) ∈ more → noPoke o ∧ db = after) : Pokes I R (told ++ more) after := by
  refine ⟨fun o db hmem => ?_, fun e n hin => ?_, fun e r hin => ?_, fun e n db hmem => ?_,
    fun e r db hmem => ?_⟩
  · rcases List.mem_append.mp hmem with h | h
    · exact hpokes.last o db h
    · exact (hmore o db h).2
  · obtain ⟨db, h⟩ := hpokes.incident e n hin
    exact ⟨db, List.mem_append_left _ h⟩
  · obtain ⟨db, h⟩ := hpokes.report e r hin
    exact ⟨db, List.mem_append_left _ h⟩
  · rcases List.mem_append.mp hmem with h | h
    · exact hpokes.onlyIncident e n db h
    · exact ((hmore _ db h).1.1 e n rfl).elim
  · rcases List.mem_append.mp hmem with h | h
    · exact hpokes.onlyReport e r db h
    · exact ((hmore _ db h).1.2 e r rfl).elim

/-! ## The messages -/

section Notify

variable {env : ImsEnv} {ε : Type}

theorem incidentPoke_ne_reportPoke {e n e' r : Int} (hn : n ≠ 0) :
    incidentPoke e n ≠ reportPoke e' r := by
  intro h
  cases h
  exact hn rfl

theorem allowsPokes_tellsOnly : AllowsPokes (tellsOnly I R) I R := by
  refine ⟨fun data => ⟨fun _ _ h => (nomatch h), fun _ _ h => (nomatch h)⟩,
    fun e n hn hin => ⟨fun e' n' h => ?_, fun e' r h => ?_⟩,
    fun e r hr hin => ⟨fun e' n h => ?_, fun e' r' h => ?_⟩⟩
  · cases h
    exact hin
  · exact absurd h (incidentPoke_ne_reportPoke hn)
  · cases h
    exact absurd rfl hr
  · cases h
    exact hin

theorem publishes_notifyIncidentUpdate {e n : Int} (hn : n ≠ 0) :
    Publishes imsDB env (notifyIncidentUpdate e n : Go ε Unit) (incidentPoke e n) := by
  rw [notifyIncidentUpdate, if_neg hn]
  exact Publishes.bind_right fun _ => Publishes.bind_right fun _ => publishes_emit

theorem publishes_notifyReportUpdate {e r : Int} (hr : r ≠ 0) :
    Publishes imsDB env (notifyReportUpdate e r : Go ε Unit) (reportPoke e r) := by
  rw [notifyReportUpdate, if_neg hr]
  exact Publishes.bind_right fun _ => publishes_emit

theorem publishes_notifyIncidentUpdates {e n m i : Int} (hi : i ≠ 0) (h : i = n ∨ i = m) :
    Publishes imsDB env (notifyIncidentUpdates e n m : Go ε Unit) (incidentPoke e i) := by
  by_cases hin : i = n
  · subst hin
    exact (publishes_notifyIncidentUpdate hi).bind_left
  · obtain rfl := h.resolve_left hin
    refine Publishes.bind_right fun _ => ?_
    rw [if_neg hin]
    exact publishes_notifyIncidentUpdate hi

/-- The end of a call, which writes no more: what it tells. -/
theorem pokes_of_tell {α : Type} {x : Go ε α} {w w' : ImsWorld} {a : α} {t : Told}
    (h : Runs imsDB env x w a w' t)
    (hx : x.Every anyAnswer (operatesIn (tellsOnly I R) txnWrites) (fun _ => True) fun _ => True)
    (hI : ∀ e n, I e n → Publishes imsDB env x (incidentPoke e n))
    (hR : ∀ e r, R e r → Publishes imsDB env x (reportPoke e r)) :
    w'.db = w.db ∧ Pokes I R t w'.db := by
  obtain ⟨hafter, htold⟩ := h.told_one hx
  rw [← hafter] at htold
  exact ⟨hafter, fun o db hmem => (htold o db hmem).2, fun e n hin => hI e n hin _ _ _ _ h,
    fun e r hin => hR e r hin _ _ _ _ h, fun e n db hmem => (htold _ db hmem).1.1 e n rfl,
    fun e r db hmem => (htold _ db hmem).1.2 e r rfl⟩

end Notify

/-! ## UpdateIncident -/

section Update

variable {env : ImsEnv} {s : Service} {inc : IncidentJSON} {st : LoadedIncident} {author : Int}
  {admin : Bool} {w w' : ImsWorld} {t : Told} {db₀ : DB}

/-- What an update has read of its incident. -/
structure Loaded (db : DB) (inc : IncidentJSON) (st : LoadedIncident) : Prop where
  row : ∃ i, db.incident.find? (inc.eventID, inc.number) = some i ∧
    st.row = db.incidentRow inc.eventID inc.number i
  links : st.linkedIncidents = (db.linksOf inc.eventID inc.number).filterMap fun l =>
    db.linkedIncidentRow l.1 l.2

/-- What an update reports of the other records it changed. -/
structure Touches (inc : IncidentJSON) (st : LoadedIncident) (t : Touched) : Prop where
  reports : t.updatedReports = reportAdds inc st ++ reportSubs inc st
  links : t.updatedLinkedIncidents = linkAdds inc st ++ linkSubs inc st

/-- The incidents an update pokes: its own, and those it links and unlinks. -/
def updateIncidents (inc : IncidentJSON) (st : LoadedIncident) (e n : Int) : Prop :=
  n ≠ 0 ∧ ((e, n) = (inc.eventID, inc.number) ∨ (e, n) ∈ linkAdds inc st ++ linkSubs inc st)

/-- The reports it pokes. -/
def updateReports (inc : IncidentJSON) (st : LoadedIncident) (e r : Int) : Prop :=
  r ≠ 0 ∧ e = inc.eventID ∧ r ∈ reportAdds inc st ++ reportSubs inc st

theorem every_reconcileReports_touched :
    (reconcileReports inc st author).Every anyAnswer anyOp (fun _ => True)
      fun r => r.2 = reportAdds inc st ++ reportSubs inc st := by
  unfold reconcileReports reportAdds reportSubs
  cases inc.reports with
  | none => exact every_pure rfl
  | some desired =>
      exact every_bind (every_any _) fun _ _ => every_bind (every_any _) fun _ _ => every_pure rfl

theorem every_reconcileLinkedIncidents_touched :
    (reconcileLinkedIncidents inc st author).Every anyAnswer anyOp (fun _ => True)
      fun r => r.2 = linkAdds inc st ++ linkSubs inc st := by
  unfold reconcileLinkedIncidents linkAdds linkSubs
  cases inc.linkedIncidents with
  | none => exact every_pure rfl
  | some desired =>
      exact every_bind (every_any _) fun _ _ => every_bind (every_any _) fun _ _ => every_pure rfl

theorem every_updateIncidentTxn_touched :
    (updateIncidentTxn s inc st author admin).Every anyAnswer anyOp (fun _ => True)
      (Touches inc st) := by
  refine every_bind (every_any _) fun ed _ => every_bind (every_any _) fun _ _ => ?_
  refine every_bind (Q := Touches inc st) ?_ fun touched htouched =>
    every_bind (every_any _) fun _ _ => every_pure htouched
  refine every_bind (every_any _) fun typeLogs _ => ?_
  refine every_bind every_reconcileReports_touched fun reports hreports => ?_
  refine every_bind (every_any _) fun visits _ => ?_
  refine every_bind every_reconcileLinkedIncidents_touched fun links hlinks => ?_
  refine every_bind (every_any _) fun _ _ => every_bind (every_any _) fun people _ => ?_
  exact every_pure ⟨hreports, hlinks⟩

theorem every_updateIncidentTxn_quiet :
    (updateIncidentTxn s inc st author admin).Every anyAnswer tellsNothing (fun _ => True)
      fun _ => True := by
  refine every_bind (every_tellsNothing (W := anyWrite)
    (every_scalarEdits (fun _ => trivial) s inc st author admin)) fun ed _ => ?_
  refine every_bind (every_exec trivial (fun _ => trivial) fun _ _ => trivial) fun _ _ => ?_
  refine every_bind (every_tellsNothing (every_reconcileAll (permitsUpdate_anyWrite inc st)
    (fun _ => trivial) s author ed.logs)) fun touched _ => ?_
  refine every_bind (Q := fun _ => True) ?_ fun _ _ => every_pure trivial
  exact every_mapErr (every_attempt trivial (fun _ _ => trivial) fun _ _ => trivial)

theorem publishes_announceUpdate_incident {touched : Touched} (ht : Touches inc st touched)
    {e n : Int} (h : updateIncidents inc st e n) :
    Publishes imsDB env (announceUpdate inc st author touched) (incidentPoke e n) := by
  obtain ⟨hn, hown | hlinked⟩ := h
  · obtain ⟨rfl, rfl⟩ := Prod.mk.inj hown
    exact (publishes_notifyIncidentUpdate hn).bind_left
  · rw [← ht.links] at hlinked
    refine Publishes.bind_right fun _ => Publishes.bind_right fun _ => Publishes.bind_right fun _ => ?_
    refine Publishes.bind_left (publishes_forM (c := (e, n)) ?_ hlinked)
    exact publishes_notifyIncidentUpdate hn

theorem publishes_announceUpdate_report {touched : Touched} (ht : Touches inc st touched)
    {e r : Int} (h : updateReports inc st e r) :
    Publishes imsDB env (announceUpdate inc st author touched) (reportPoke e r) := by
  obtain ⟨hr, rfl, hmem⟩ := h
  rw [← ht.reports] at hmem
  refine Publishes.bind_right fun _ => Publishes.bind_right fun _ => ?_
  exact Publishes.bind_left (publishes_forM (publishes_notifyReportUpdate hr) hmem)

theorem every_announceUpdate_only {touched : Touched} (ht : Touches inc st touched) :
    (announceUpdate inc st author touched).Every anyAnswer
      (operatesIn (tellsOnly (updateIncidents inc st) (updateReports inc st)) txnWrites)
      (fun _ => True) fun _ => True := by
  refine every_tellUpdate allowsPokes_tellsOnly
    (fun _ _ _ _ => ⟨fun _ _ h => (nomatch h), fun _ _ h => (nomatch h)⟩)
    (fun hn => ⟨hn, Or.inl rfl⟩) (fun r hr hne => ⟨hne, rfl, ?_⟩)
    (fun o ho hn => ⟨hn, Or.inr ?_⟩) st author
  · rw [← ht.reports]
    exact hr
  · rw [← ht.links]
    exact ho

/-- The transaction keeps the frame, if its writes are permitted. -/
theorem triple_updateIncidentTxn_framed {i : Incident}
    (hrow : st.row = before.incidentRow inc.eventID inc.number i)
    (hpermits : PermitsUpdate (framing I R db₀) inc st) (hin : I inc.eventID inc.number) :
    Triple imsDB env (World.At .txn (Framed I R db₀)) (updateIncidentTxn s inc st author admin)
      (fun _ => World.At .pool (Framed I R db₀)) fun _ _ => True := by
  have hkeeps : ∀ (β : Type) (q : Write β) id db b db', framing I R db₀ .txn β q →
      Framed I R db₀ db → q.apply id db = .ok (b, db') → Framed I R db₀ db' :=
    fun _ _ _ _ _ _ hq hf h => hf.of_apply h hq
  refine Triple.bind_fact (triple_at_writesIn hkeeps
    (every_scalarEdits (fun _ => trivial) s inc st author admin) fun _ _ => trivial) fun ed _ => ?_
  refine (triple_exec_at (L := fun _ => Framed I R db₀) (fun _ _ _ _ hf h => ?_)
    fun _ _ => trivial).bind fun _ => ?_
  · refine hf.of_apply (c := .txn) h ?_
    rw [hrow]
    exact fun _ => hin
  refine Triple.bind_fact (triple_at_writesIn hkeeps
    (every_reconcileAll hpermits (fun _ => trivial) s author ed.logs) fun _ _ => trivial)
    fun touched _ => ?_
  exact (triple_commit_at fun _ _ => trivial).bind fun _ => triple_pure fun _ h => h

/-- What a successful update read, wrote and told. -/
structure UpdateRun (inc : IncidentJSON) (st : LoadedIncident) (before after : DB) (t : Told) :
    Prop where
  loaded : Loaded before inc st
  framed : ∀ {I R db₀}, PermitsUpdate (framing I R db₀) inc st → I inc.eventID inc.number →
    Framed I R db₀ before → Framed I R db₀ after
  linked : ∀ v, Linked v before → Linked (updatedView v inc.eventID inc.number (reportAdds inc st)
    (reportSubs inc st)) after
  pokes : Pokes (updateIncidents inc st) (updateReports inc st) t after

theorem updateRun_of_runs (h : Runs imsDB env (updateIncident s inc author admin) w () w' t) :
    ∃ st, UpdateRun inc st w.db w'.db t := by
  obtain ⟨st, w₁, ⟨i, hi, hrow, hlinks⟩, hdb, hrest⟩ :=
    h.bind_reads (every_loadIncident (E := fun _ => True) (fun _ => trivial) inc) rfl
  obtain ⟨u, w₂, hbegin, hrest⟩ := hrest.bind_quiet (E := fun _ => True) (Q := fun _ => True)
    (every_mapErr (every_attempt trivial (fun _ _ => trivial) fun _ _ => trivial))
  obtain ⟨w₃, hrest, hw'⟩ := hrest.deferRollback_inv
  obtain ⟨touched, w₄, htxn, htell⟩ := hrest.bind_quiet every_updateIncidentTxn_quiet
  have htouched : Touches inc st touched := value_of_every every_updateIncidentTxn_touched htxn
  obtain ⟨hlast, hpokes⟩ := pokes_of_tell htell (every_announceUpdate_only htouched)
    (fun e n hin => publishes_announceUpdate_incident htouched hin)
    fun e r hin => publishes_announceUpdate_report htouched hin
  have hafter : w'.db = w₄.db := hw'.trans hlast
  -- What the transaction finds is what the update has read; what it leaves stays.
  have htxnRun : ∀ {D D' : DB → Prop}, Triple imsDB env (World.At .txn D)
      (updateIncidentTxn s inc st author admin) (fun _ => World.At .pool D') (fun _ _ => True) →
      D w.db → D' w'.db := by
    intro D D' htriple hD
    have hstart : w₂.At .txn D := by
      refine (triple_begin_at (R := D) (K := fun _ _ => True) fun _ _ => trivial).of_run_ok ?_ hbegin
      intro db hdb'
      rw [← Option.some.inj hdb', hdb]
      exact hD
    rw [hafter]
    exact htriple.of_run_ok hstart htxn _ rfl
  refine ⟨st, ⟨⟨i, hi, hrow⟩, hlinks⟩, fun hpermits hin hf => ?_, fun v hv => ?_, ?_⟩
  · exact htxnRun (triple_updateIncidentTxn_framed hrow hpermits hin) hf
  · exact htxnRun (triple_updateIncidentTxn s inc st author admin) hv
  · rw [hw']
    exact hpokes

/-- Reports are taken only from incidents that are poked. -/
theorem permitsUpdate_framing (hsound : before.Sound) (hframed : Framed I R before db₀)
    (hloaded : Loaded db₀ inc st) (hvisits : inc.visits = none)
    (hlinks : ∀ r, db₀.linkOf inc.eventID r = before.linkOf inc.eventID r)
    (hI : ∀ e n, updateIncidents inc st e n → I e n) (hR : ∀ e r, updateReports inc st e r → R e r)
    (htakes : ∀ r ∈ reportAdds inc st, ∀ m, before.linkOf inc.eventID r = some m →
      (inc.eventID, m) ∈ linkAdds inc st ++ linkSubs inc st) :
    PermitsUpdate (framing I R before) inc st := by
  obtain ⟨⟨i, hi, hrow⟩, hlinked⟩ := hloaded
  have hn : inc.number ≠ 0 :=
    hframed.incidentNumber _ _ (Table.contains_iff.mpr ⟨i, hi⟩)
  have hown : I inc.eventID inc.number := hI _ _ ⟨hn, Or.inl rfl⟩
  have hother : ∀ o ∈ linkAdds inc st ++ linkSubs inc st, o.2 ≠ 0 → I o.1 o.2 :=
    fun o ho hne => hI _ _ ⟨hne, Or.inr ho⟩
  have hreport : ∀ r ∈ reportAdds inc st ++ reportSubs inc st, r ≠ 0 → R inc.eventID r :=
    fun r hr hne => hR _ _ ⟨hne, rfl, hr⟩
  have hlost : ∀ r ∈ reportAdds inc st ++ reportSubs inc st, ∀ m,
      before.linkOf inc.eventID r = some m → I inc.eventID m := by
    intro r hr m hm
    rcases List.mem_append.mp hr with hadd | hsub
    · exact hother _ (htakes r hadd m hm) (hsound.incidentNumber _ m (hsound.linkStored _ r m hm))
    · have hlink : before.linkOf inc.eventID r = some inc.number := by
        rw [← hlinks, ← DB.mem_reportsOf]
        unfold reportSubs at hsub
        split at hsub
        · cases hsub
        · rw [hrow] at hsub
          exact (mem_sliceSubtract.mp hsub).1
      rw [hlink] at hm
      rw [← Option.some.inj hm]
      exact hown
  have hstored : ∀ o ∈ linkSubs inc st, o.2 ≠ 0 := by
    intro o ho
    have hcurrent : o ∈ st.links := by
      unfold linkSubs at ho
      split at ho
      · cases ho
      · exact (mem_sliceSubtract.mp ho).1
    rw [LoadedIncident.links, hlinked, List.mem_map] at hcurrent
    obtain ⟨row, hrow', rfl⟩ := hcurrent
    obtain ⟨l, -, hl⟩ := List.mem_filterMap.mp hrow'
    simp only [DB.linkedIncidentRow, Option.bind_eq_bind, Option.bind_eq_some_iff,
      Option.some.injEq] at hl
    obtain ⟨ev, -, i', hi', rfl⟩ := hl
    exact hframed.incidentNumber l.1 l.2 (Table.contains_iff.mpr ⟨i', hi'⟩)
  refine ⟨⟨fun _ => trivial, fun _ _ => trivial, fun _ => trivial⟩, fun _ _ => hown,
    fun r hr _ => hreport r hr, fun _ _ => hown, fun _ => hown, fun r hr hne => ?_, fun r hr hne => ?_,
    fun hsome => ?_, fun o ho => ?_, fun o ho => ?_⟩
  · have hr' := List.mem_append_left (reportSubs inc st) hr
    refine ⟨hreport r hr' hne, Or.inr ⟨hlost r hr', fun m hm _ => ?_⟩⟩
    rw [← Option.some.inj hm]
    exact hown
  · have hr' := List.mem_append_right (reportAdds inc st) hr
    exact ⟨hreport r hr' hne, Or.inr ⟨hlost r hr', fun m hm => nomatch hm⟩⟩
  · rw [hvisits] at hsome
    cases hsome
  · have ho' := hother o (List.mem_append_left _ ho)
    exact ⟨fun _ => hown, ho', fun _ => ho'⟩
  · have ho' := hother o (List.mem_append_right _ ho) (hstored o ho)
    exact ⟨hown, ho', fun _ _ => ho'⟩

/-- **The pokes of an update** are complete if and only if every incident it takes a report from is
one whose link with its own it changes. The update may have been preceded by the creation of its
incident. -/
theorem UpdateRun.complete_iff (h : UpdateRun inc st db₀ after t) (hsound : before.Sound)
    (hframed : ∀ {I R : Int → Int → Prop}, I inc.eventID inc.number → Framed I R before db₀)
    (hlinked : Linked before.linkView db₀) (hvisits : inc.visits = none) :
    PokesComplete t before after ↔ ∀ r ∈ reportAdds inc st, ∀ m,
      before.linkOf inc.eventID r = some m →
        (inc.eventID, m) ∈ linkAdds inc st ++ linkSubs inc st := by
  have hlink : ∀ r, db₀.linkOf inc.eventID r = before.linkOf inc.eventID r := by
    intro r
    have hview : db₀.linkView.link inc.eventID r = before.linkView.link inc.eventID r := by
      rw [hlinked.2]
    exact hview
  obtain ⟨i, hi, hrow⟩ := h.loaded.row
  have hall : Framed (fun _ _ => True) (fun _ _ => True) before db₀ := hframed trivial
  have hn : inc.number ≠ 0 := hall.incidentNumber _ _ (Table.contains_iff.mpr ⟨i, hi⟩)
  have hown : updateIncidents inc st inc.eventID inc.number := ⟨hn, Or.inl rfl⟩
  constructor
  · intro hcomplete r hr m hm
    have hne : m ≠ inc.number := by
      rintro rfl
      unfold reportAdds at hr
      split at hr
      · cases hr
      · refine (mem_sliceSubtract.mp hr).2 ?_
        rw [hrow]
        exact DB.mem_reportsOf.mpr ((hlink r).trans hm)
    have hafter : after.linkOf inc.eventID r ≠ some m := by
      have hview : after.linkView.link inc.eventID r = _ :=
        congrFun (congrFun (congrArg LinkView.link (h.linked _ hlinked).2) inc.eventID) r
      intro hm'
      have hm'' : after.linkView.link inc.eventID r = some m := hm'
      rw [hview, LinkView.link_updatedView] at hm''
      split at hm''
      · cases hm''
      · rw [if_pos ⟨rfl, hr⟩] at hm''
        exact hne (Option.some.inj hm'').symm
    have hdiffers : before.incidentRecord inc.eventID m ≠ after.incidentRecord inc.eventID m := by
      intro hsame
      have hreports : before.reportsOf inc.eventID m = after.reportsOf inc.eventID m :=
        congrArg IncidentRecord.reports hsame
      refine hafter (DB.mem_reportsOf.mp ?_)
      rw [← hreports]
      exact DB.mem_reportsOf.mpr hm
    obtain ⟨⟨db, hpoke, -⟩, -⟩ := hcomplete.incident _ m hdiffers
    obtain ⟨-, hsame | hother⟩ := h.pokes.onlyIncident _ m db hpoke
    · exact absurd (Prod.mk.inj hsame).2 hne
    · exact hother
  · intro htakes
    refine h.pokes.complete (h.framed ?_ hown (hframed hown))
    exact permitsUpdate_framing hsound (hframed hown) h.loaded hvisits hlink (fun _ _ h => h)
      (fun _ _ h => h) htakes

end Update

/-! ## What an update takes from other incidents -/

/-- An update with this list of links changes the link of its incident, now linked to these, with
the incident `m` of its event. -/
def ChangesLink (e : Int) (now : List (Int × Int)) (linked : Option (List IncidentRef)) (m : Int) :
    Prop :=
  ∃ refs, linked = some refs ∧
    ((∃ ref ∈ refs, ref.eventId = e ∧ ref.incidentNumber = m) ↔ (e, m) ∉ now)

/-- Whatever incident an update takes a report from, it changes its link with that incident, too. -/
def TakesFromLinked (db : DB) (e : Int) (own : Option Int) (now : List (Int × Int))
    (reports : Option (List Int)) (linked : Option (List IncidentRef)) : Prop :=
  ∀ desired, reports = some desired → ∀ r ∈ desired, ∀ m, db.linkOf e r = some m → own ≠ some m →
    ChangesLink e now linked m

section Takes

variable {inc : IncidentJSON} {st : LoadedIncident} {db : DB} {u : Option IncidentUpdate}

theorem linkedIncidents_incidentUpdateToJSON (u : Option IncidentUpdate) :
    (incidentUpdateToJSON u).linkedIncidents = (u.bind (·.linkedIncidents)).map fun refs =>
      refs.map fun r => { eventID := r.eventId, number := r.incidentNumber } := by
  cases u <;> rfl

/-- An update touches a stored incident of its event if it changes the link with it. -/
theorem mem_links_iff (hloaded : Loaded db inc st)
    (hinc : inc.linkedIncidents = (incidentUpdateToJSON u).linkedIncidents)
    (hev : db.event.contains inc.eventID = true) {m : Int}
    (hm : db.incident.contains (inc.eventID, m) = true) :
    (inc.eventID, m) ∈ linkAdds inc st ++ linkSubs inc st ↔
      ChangesLink inc.eventID (db.linksOf inc.eventID inc.number) (u.bind (·.linkedIncidents)) m := by
  obtain ⟨event, hevent⟩ := Table.contains_iff.mp hev
  obtain ⟨i, hi⟩ := Table.contains_iff.mp hm
  have hcurrent : (inc.eventID, m) ∈ st.links ↔
      (inc.eventID, m) ∈ db.linksOf inc.eventID inc.number := by
    rw [LoadedIncident.links, hloaded.links, List.mem_map]
    constructor
    · rintro ⟨row, hrow, hkey⟩
      obtain ⟨l, hl, hjoin⟩ := List.mem_filterMap.mp hrow
      simp only [DB.linkedIncidentRow, Option.bind_eq_bind, Option.bind_eq_some_iff,
        Option.some.injEq] at hjoin
      obtain ⟨ev, -, i', -, rfl⟩ := hjoin
      rw [← hkey]
      exact hl
    · intro hl
      have hjoin : db.linkedIncidentRow inc.eventID m =
          some ⟨inc.eventID, event.name, m, i.summary, i.isPrivate, i.createdBy⟩ := by
        simp [DB.linkedIncidentRow, hevent, hi]
      exact ⟨_, List.mem_filterMap.mpr ⟨_, hl, hjoin⟩, rfl⟩
  unfold linkAdds linkSubs ChangesLink
  rw [hinc, linkedIncidents_incidentUpdateToJSON]
  cases u.bind (·.linkedIncidents) with
  | none => simp
  | some refs =>
      have hdesired : (inc.eventID, m) ∈ (refs.map fun r =>
          ({ eventID := r.eventId, number := r.incidentNumber } : LinkedIncidentJSON)).map
            (fun dli => (dli.eventID, dli.number)) ↔
          ∃ ref ∈ refs, ref.eventId = inc.eventID ∧ ref.incidentNumber = m := by
        simp
      simp only [Option.map_some, List.mem_append, mem_sliceSubtract, hcurrent, hdesired,
        Option.some.injEq, exists_eq_left']
      by_cases hnow : (inc.eventID, m) ∈ db.linksOf inc.eventID inc.number <;> simp [hnow]

/-- The condition of an update's pokes, in terms of its request. -/
theorem takes_iff (hloaded : Loaded db inc st)
    (hinc : inc.linkedIncidents = (incidentUpdateToJSON u).linkedIncidents)
    (hreports : inc.reports = (incidentUpdateToJSON u).reports)
    (hev : db.event.contains inc.eventID = true)
    (hstored : ∀ r m, db.linkOf inc.eventID r = some m →
      db.incident.contains (inc.eventID, m) = true) :
    (∀ r ∈ reportAdds inc st, ∀ m, db.linkOf inc.eventID r = some m →
      (inc.eventID, m) ∈ linkAdds inc st ++ linkSubs inc st) ↔
    TakesFromLinked db inc.eventID (some inc.number) (db.linksOf inc.eventID inc.number)
      (u.bind (·.reports)) (u.bind (·.linkedIncidents)) := by
  obtain ⟨i, hi, hrow⟩ := hloaded.row
  have hadds : ∀ r, r ∈ reportAdds inc st ↔
      (∃ desired, u.bind (·.reports) = some desired ∧ r ∈ desired) ∧
        db.linkOf inc.eventID r ≠ some inc.number := by
    intro r
    unfold reportAdds
    rw [hreports, reports_incidentUpdateToJSON, hrow]
    cases u.bind (·.reports) with
    | none => simp
    | some desired =>
        rw [mem_sliceSubtract]
        simp [DB.incidentRow, DB.mem_reportsOf]
  constructor
  · intro htakes desired hdesired r hr m hm hne
    refine (mem_links_iff hloaded hinc hev (hstored r m hm)).mp (htakes r ?_ m hm)
    refine (hadds r).mpr ⟨⟨desired, hdesired, hr⟩, ?_⟩
    rw [hm]
    exact Ne.symm hne
  · intro htakes r hr m hm
    obtain ⟨⟨desired, hdesired, hmem⟩, hne⟩ := (hadds r).mp hr
    refine (mem_links_iff hloaded hinc hev (hstored r m hm)).mpr (htakes desired hdesired r hmem m hm ?_)
    rw [← hm]
    exact Ne.symm hne

end Takes

section Requests

variable {env : ImsEnv} {s : Service} {caller : Option IMSClaims} {w w' : ImsWorld} {t : Told}

theorem UpdateRun.append {inc : IncidentJSON} {st : LoadedIncident} {db₀ : DB}
    (h : UpdateRun inc st db₀ after t) {more : Told}
    (hmore : ∀ o db, (o, db) ∈ more → noPoke o ∧ db = after) :
    UpdateRun inc st db₀ after (t ++ more) :=
  ⟨h.loaded, h.framed, h.linked, h.pokes.append hmore⟩

/-- A message of another kind, after everything else. -/
theorem told_other {ε : Type} {o : Effect} (ho : noPoke o)
    (h : Runs imsDB env (emit o : Go ε Unit) w () w' t) :
    w'.db = w.db ∧ ∀ o db, (o, db) ∈ t → noPoke o ∧ db = w.db :=
  h.told_one (every_tell (T := noPoke) (E := fun _ => True) ho)

theorem noPoke_invalidateEvent (name : String) : noPoke (.invalidateEvent name) :=
  ⟨fun _ _ h => (nomatch h), fun _ _ h => (nomatch h)⟩

/-- A successful request to update an incident is a run of the update, and says no more. -/
theorem updateIncidentRPC_runs {req : UpdateIncidentRequest}
    (h : Runs imsDB env (updateIncidentRPC s caller req) w () w' t) :
    ∃ name st, w.db.event.contains req.eventId = true ∧
      UpdateRun { incidentUpdateToJSON req.update with
        event := name, eventID := req.eventId, number := req.incidentNumber } st w.db w'.db t := by
  obtain ⟨e, n, u⟩ := req
  obtain ⟨claims, w₁, -, hdb₁, h⟩ :=
    h.bind_reads (every_authenticated (E := fun _ => True) (fun _ => trivial) caller) rfl
  obtain ⟨ev, w₂, ⟨rfl, hev⟩, hdb₂, h⟩ :=
    h.bind_reads (every_fetchEvent (E := fun _ => True) (fun _ => trivial) e) hdb₁
  obtain ⟨perms, w₃, rfl, hdb₃, h⟩ :=
    h.bind_reads (every_permissionsAt (E := fun _ => True) (fun _ => trivial) ev.id claims) hdb₂
  obtain ⟨u₁, w₄, -, hdb₄, h⟩ := h.bind_reads (every_requireWriteOrGrant (E := fun _ => True)
    (fun _ => trivial) claims rfl rfl) hdb₃
  obtain ⟨u₂, w₅, -, hdb₅, h⟩ := h.bind_reads (every_requireIncidentVisible (E := fun _ => True)
    (fun _ => trivial) ev.id n claims) hdb₄
  obtain ⟨u₃, w₆, t₁, t₂, hupdate, hemit, rfl⟩ := h.bind_inv
  obtain ⟨st, hrun⟩ := updateRun_of_runs hupdate.mapErr_inv
  obtain ⟨hafter, htold⟩ := told_other (noPoke_invalidateEvent _) hemit
  rw [hdb₅, ← hafter] at hrun
  rw [← hafter] at htold
  exact ⟨_, st, Table.contains_iff.mpr ⟨_, hev⟩, hrun.append htold⟩

/-- **UpdateIncident.** -/
theorem updateIncidentRPC_complete_iff {req : UpdateIncidentRequest} (hsound : w.db.Sound)
    (h : Runs imsDB env (updateIncidentRPC s caller req) w () w' t) :
    PokesComplete t w.db w'.db ↔ TakesFromLinked w.db req.eventId (some req.incidentNumber)
      (w.db.linksOf req.eventId req.incidentNumber) (req.update.bind (·.reports))
        (req.update.bind (·.linkedIncidents)) := by
  obtain ⟨name, st, hev, hrun⟩ := updateIncidentRPC_runs h
  rw [hrun.complete_iff hsound (fun _ => hsound.framed) hsound.linked ?_]
  · exact takes_iff hrun.loaded rfl rfl hev fun r m hm => hsound.linkStored _ r m hm
  · cases req.update <;> rfl

/-- A write on the pool that succeeds. -/
theorem apply_of_exec {ε α : Type} {q : Write α} {err : SqlErr → ε} {b : α}
    (h : (exec .pool q err : Go ε α).run imsDB env w = (.ok b, w')) :
    q.apply w.nextId w.db = .ok (b, w'.db) := by
  have hstep : step imsDB env (.write .pool q : Op _) w = (.ok b, w') := by
    rw [exec, run_mapErr, run_attempt] at h
    rcases hstep : step imsDB env (.write .pool q : Op _) w with ⟨_ | b', w₁⟩
    · rw [hstep] at h
      cases h
    · rw [hstep] at h
      cases h
      rfl
  obtain ⟨-, db, db', hview, happ, rfl⟩ := step_write_eq_ok.mp hstep
  rw [World.view_pool, Option.some.injEq] at hview
  subst hview
  exact happ

/-- Numbers are handed out from 1 on. -/
theorem nextNumber_ne_zero {numbers : List Int} {n : Int} (h : DB.nextNumber numbers = .ok n) :
    n ≠ 0 := by
  have hpos : ∀ l : List Int, 1 ≤ l.foldr (fun n m => max (n + 1) m) 1 := by
    intro l
    induction l with
    | nil => exact Int.le_refl 1
    | cons a l ih =>
        rw [List.foldr_cons]
        omega
  unfold DB.nextNumber at h
  dsimp only at h
  split at h
  · cases h
    have := hpos numbers
    omega
  · cases h

/-- **CreateIncident.** -/
theorem createIncident_complete_iff {req : CreateIncidentRequest} {n : Int} (hsound : w.db.Sound)
    (h : Runs imsDB env (createIncident s caller req) w n w' t) :
    PokesComplete t w.db w'.db ↔ TakesFromLinked w.db req.eventId none []
      (req.incident.bind (·.reports)) (req.incident.bind (·.linkedIncidents)) := by
  obtain ⟨e, u⟩ := req
  obtain ⟨claims, w₁, -, hdb₁, h⟩ :=
    h.bind_reads (every_authenticated (E := fun _ => True) (fun _ => trivial) caller) rfl
  obtain ⟨ev, w₂, ⟨rfl, hev⟩, hdb₂, h⟩ :=
    h.bind_reads (every_fetchEvent (E := fun _ => True) (fun _ => trivial) e) hdb₁
  obtain ⟨perms, w₃, rfl, hdb₃, h⟩ :=
    h.bind_reads (every_permissionsAt (E := fun _ => True) (fun _ => trivial) ev.id claims) hdb₂
  obtain ⟨u₁, w₄, -, hdb₄, h⟩ := h.bind_reads (E := fun _ => True) (Q := fun _ => True)
    (every_ensure (fun _ => trivial) fun _ => trivial) hdb₃
  obtain ⟨n', w₅, hnext, hdb₅, h⟩ := h.bind_reads (E := fun _ => True)
    (Q := fun n => (Read.nextIncidentNumber ev.id).eval w.db = .ok n)
    (every_read (fun _ hn => hn) fun _ _ => trivial) hdb₄
  obtain ⟨created, w₆, -, hdb₆, h⟩ := h.bind_reads (E := fun _ => True) (Q := fun _ => True)
    (every_now trivial fun _ => trivial) hdb₅
  obtain ⟨u₂, w₇, hinsert, h⟩ := h.bind_quiet (E := fun _ => True) (Q := fun _ => True)
    (every_exec trivial (fun _ => trivial) fun _ _ => trivial)
  obtain ⟨u₃, w₈, t₁, t₂, hupdate, hrest, rfl⟩ := h.bind_inv
  obtain ⟨u₄, w₉, t₃, t₄, hemit, hpure, ht⟩ := hrest.bind_inv
  obtain ⟨hret, rfl⟩ := hpure
  cases hret
  obtain ⟨st, hrun⟩ := updateRun_of_runs hupdate.mapErr_inv
  obtain ⟨hafter, htold⟩ := told_other (noPoke_invalidateEvent _) hemit
  rw [← hafter] at hrun htold
  have hquiet : t₂ = t₃ := ht.trans (List.append_nil _)
  subst hquiet
  have hrun := hrun.append htold
  have happ := apply_of_exec hinsert
  rw [hdb₆] at happ
  have hn : n ≠ 0 := nextNumber_ne_zero hnext
  have hframed : ∀ {I R : Int → Int → Prop}, I ev.id n → Framed I R w.db w₇.db := by
    intro I R hin
    exact hsound.framed.of_apply (c := .pool) happ ⟨hn, hin⟩
  obtain ⟨hnew, hdb₇⟩ : w.db.incident.contains (ev.id, n) = false ∧
      ∃ row, w₇.db = { w.db with incident := w.db.incident.insert (ev.id, n) row } := by
    simp only [Write.apply, DB.unique_eq_ok, DB.references_eq_ok, Except.ok.injEq,
      Prod.mk.injEq, true_and] at happ
    obtain ⟨hnew, _, _, hdb⟩ := happ
    exact ⟨hnew, _, hdb.symm⟩
  obtain ⟨row, hrow⟩ := hdb₇
  have hlinkOf : ∀ r, w₇.db.linkOf ev.id r = w.db.linkOf ev.id r := fun r => by rw [hrow]; rfl
  have hlinksOf : w₇.db.linksOf ev.id n = [] := by
    rw [hrow]
    exact hsound.linksOf_eq_nil hnew
  have hstored : ∀ r m, w₇.db.linkOf ev.id r = some m →
      w.db.incident.contains (ev.id, m) = true := by
    intro r m hm
    rw [hlinkOf] at hm
    exact hsound.linkStored _ r m hm
  have hevent : w₇.db.event.contains ev.id = true := by
    rw [hrow]
    exact Table.contains_iff.mpr ⟨_, hev⟩
  rw [hrun.complete_iff hsound hframed (Linked.of_silent rfl hsound.linked happ)
    (by cases u <;> rfl)]
  refine Iff.trans ?_ ((takes_iff (u := u) hrun.loaded rfl rfl hevent fun r m hm => ?_).trans ?_)
  · simp only [hlinkOf]
  · rw [hrow]
    exact Table.contains_insert_of_contains _ (hstored r m hm)
  · unfold TakesFromLinked
    simp only [hlinkOf, hlinksOf]
    refine forall₄_congr fun desired _ r _ => forall₂_congr fun m hm => ?_
    have hne : some n ≠ some m := by
      intro hsame
      have hm' := hstored r m ((hlinkOf r).trans hm)
      rw [← Option.some.inj hsame, hnew] at hm'
      cases hm'
    exact ⟨fun h _ => h hne, fun h _ => h (Option.some_ne_none m).symm⟩

end Requests

/-! ## CreateReport -/

section Reports

variable {env : ImsEnv} {s : Service} {caller : Option IMSClaims} {w w' : ImsWorld} {t : Told}
  {c : Conn} {db₀ : DB}

theorem permitsEntries_framing : PermitsEntries (framing I R db₀) c :=
  ⟨fun _ => trivial, fun _ _ => trivial, fun _ => trivial⟩

/-- A part of a call whose writes the frame permits keeps it. -/
theorem triple_framed {ε α : Type} {x : Go ε α} {Q : α → Prop}
    (hx : x.Every anyAnswer (writesIn (framing I R db₀)) (fun _ => True) Q) :
    Triple imsDB env (World.At c (Framed I R db₀)) x (fun _ => World.At c (Framed I R db₀))
      fun _ _ => True :=
  (triple_at_writesIn (fun _ _ _ _ _ _ hq hf h => hf.of_apply h hq) hx fun _ _ => trivial).conseq
    (fun _ h => h) (fun _ _ h => h.1) fun _ _ h => h

theorem every_commit_quiet {ε : Type} {err : SqlErr → ε} :
    (commit err).Every anyAnswer tellsNothing (fun _ => True) fun _ => True :=
  every_mapErr (every_attempt trivial (fun _ _ => trivial) fun _ _ => trivial)

theorem every_begin_quiet {ε : Type} {err : SqlErr → ε} :
    (begin err).Every anyAnswer tellsNothing (fun _ => True) fun _ => True :=
  every_mapErr (every_attempt trivial (fun _ _ => trivial) fun _ _ => trivial)

variable {e n author : Int} {report : ReportJSON} {incident : Option Int}

theorem every_createReportTxn_quiet :
    (createReportTxn s e n author report incident).Every anyAnswer tellsNothing (fun _ => True)
      fun _ => True := by
  have hentries := permitsEntries_anyWrite .txn
  refine every_bind (every_tellsNothing (every_recordSummary hentries (fun _ => trivial)
    (fun _ => trivial) author _)) fun _ _ => ?_
  refine every_bind (every_tellsNothing (every_recordLink hentries (fun _ => trivial)
    (fun _ => trivial) author fun _ _ _ => trivial)) fun _ _ => ?_
  refine every_bind (every_tellsNothing (every_applyReportJournalEntries hentries (fun _ => trivial)
    (fun _ => trivial) s author _)) fun _ _ => ?_
  exact every_bind every_commit_quiet fun _ _ => every_pure trivial

theorem triple_createReportTxn_framed (hR : R e n) (hI : ∀ i, incident = some i → i ≠ 0 → I e i) :
    Triple imsDB env (World.At .txn (Framed I R db₀)) (createReportTxn s e n author report incident)
      (fun _ => World.At .pool (Framed I R db₀)) fun _ _ => True := by
  have hentries : PermitsEntries (framing I R db₀) .txn := permitsEntries_framing
  have hreport : ∀ je, framing I R db₀ .txn _ (.attachJournalEntryToReport e n je) := fun _ _ => hR
  have hincident : ∀ i je, incident = some i →
      framing I R db₀ .txn _ (.attachJournalEntryToIncident e i je) := fun i _ hi => hI i hi
  refine (triple_framed (every_recordSummary hentries hreport (fun _ => trivial) author _)).bind
    fun _ => ?_
  refine (triple_framed (every_recordLink hentries hreport (fun _ => trivial) author hincident)).bind
    fun _ => ?_
  refine (triple_framed (every_applyReportJournalEntries hentries hreport (fun _ => trivial) s author
    _)).bind fun _ => ?_
  exact (triple_commit_at fun _ _ => trivial).bind fun _ => triple_pure fun _ h => h

theorem noPoke_notifyMentionedInReport {name : String} {r actor : Int} {people : List Int} :
    noPoke (.notifyMentionedInReport name r people actor) :=
  ⟨fun _ _ h => (nomatch h), fun _ _ h => (nomatch h)⟩

theorem every_tellLink {E : ConnectError → Prop} {W : Conn → ∀ β : Type, Write β → Prop}
    (hI : ∀ i, incident = some i → i ≠ 0 → I e i) :
    (announceLink e incident).Every anyAnswer (operatesIn (tellsOnly I R) W) E fun _ => True := by
  cases incident with
  | none => exact every_pure trivial
  | some i =>
      exact every_tellIncidentUpdates allowsPokes_tellsOnly (fun h => absurd rfl h) (hI i rfl)

/-- **CreateReport.** -/
theorem createReport_complete {req : CreateReportRequest} (hsound : w.db.Sound)
    (h : Runs imsDB env (createReport s caller req) w n w' t) : PokesComplete t w.db w'.db := by
  obtain ⟨e, write⟩ := req
  obtain ⟨claims, w₁, -, hdb₁, h⟩ :=
    h.bind_reads (every_authenticated (E := fun _ => True) (fun _ => trivial) caller) rfl
  obtain ⟨⟨ev, perms⟩, w₂, -, hdb₂, h⟩ :=
    h.bind_reads (every_reportWriteContext (E := fun _ => True) (fun _ => trivial) e claims) hdb₁
  obtain ⟨r, w₃, hnext, hdb₃, h⟩ := h.bind_reads (E := fun _ => True)
    (Q := fun n => (Read.nextReportNumber ev.id).eval w.db = .ok n)
    (every_read (fun _ hn => hn) fun _ _ => trivial) hdb₂
  obtain ⟨created, w₄, -, hdb₄, h⟩ := h.bind_reads (E := fun _ => True) (Q := fun _ => True)
    (every_now trivial fun _ => trivial) hdb₃
  obtain ⟨u₁, w₅, hinsert, h⟩ := h.bind_quiet (E := fun _ => True) (Q := fun _ => True)
    (every_exec trivial (fun _ => trivial) fun _ _ => trivial)
  obtain ⟨u₂, w₆, hbegin, h⟩ := h.bind_quiet every_begin_quiet
  obtain ⟨w₇, h, hw'⟩ := h.deferRollback_inv
  obtain ⟨mentioned, w₈, htxn, htell⟩ := h.bind_quiet every_createReportTxn_quiet
  generalize hinc : (reportWriteToJSON write).incident.bind targetIncident = incident at *
  let I : Int → Int → Prop := fun e i => i ≠ 0 ∧ e = ev.id ∧ incident = some i
  let R : Int → Int → Prop := fun e r' => r' ≠ 0 ∧ e = ev.id ∧ r' = r
  have hr : r ≠ 0 := nextNumber_ne_zero hnext
  have hframed : Framed I R w.db w₈.db := by
    have happ := apply_of_exec hinsert
    rw [hdb₄] at happ
    have hcreated : Framed I R w.db w₅.db := by
      exact hsound.framed.of_apply (c := .pool) happ
        ⟨hr, ⟨hr, rfl, rfl⟩, fun m hm hne => ⟨hne, rfl, hm⟩⟩
    have hstart : w₆.At .txn (Framed I R w.db) := by
      refine (triple_begin_at (K := fun _ _ => True) fun _ _ => trivial).of_run_ok ?_ hbegin
      intro db hdb
      rw [← Option.some.inj hdb]
      exact hcreated
    exact (triple_createReportTxn_framed ⟨hr, rfl, rfl⟩ fun i hi hne => ⟨hne, rfl, hi⟩).of_run_ok
      hstart htxn _ rfl
  have htold : w₇.db = w₈.db ∧ Pokes I R t w₇.db := by
    refine pokes_of_tell htell ?_ (fun e i hin => ?_) fun e r' hin => ?_
    · refine every_bind (every_tell (noPoke_notifyMentionedInReport.tellsOnly)) fun _ _ => ?_
      refine every_bind (every_tellLink fun i hi hne => ⟨hne, rfl, hi⟩) fun _ _ => ?_
      refine every_bind (every_tellReportUpdate allowsPokes_tellsOnly fun hne => ⟨hne, rfl, rfl⟩)
        fun _ _ => every_pure trivial
    · obtain ⟨hi, rfl, rfl⟩ := hin
      refine Publishes.bind_right fun _ => Publishes.bind_left ?_
      exact publishes_notifyIncidentUpdates hi (Or.inr rfl)
    · obtain ⟨hr', rfl, rfl⟩ := hin
      refine Publishes.bind_right fun _ => Publishes.bind_right fun _ => Publishes.bind_left ?_
      exact publishes_notifyReportUpdate hr'
  obtain ⟨hlast, hpokes⟩ := htold
  rw [← hlast] at hframed
  rw [hw']
  exact hpokes.complete hframed

/-! ## UpdateReport -/

variable {ev : EventRow} {stored : Report} {perms : EventPermissionMask} {claims : IMSClaims}

theorem every_updateReportTxn_quiet :
    (updateReportTxn s e n author stored report).Every anyAnswer tellsNothing (fun _ => True)
      fun _ => True := by
  have hentries := permitsEntries_anyWrite .txn
  refine every_bind (every_tellsNothing (every_recordSummary hentries (fun _ => trivial)
    (fun _ => trivial) author _)) fun _ _ => ?_
  refine every_bind (every_exec trivial (fun _ => trivial) fun _ _ => trivial) fun _ _ => ?_
  refine every_bind (every_tellsNothing (every_applyReportJournalEntries hentries (fun _ => trivial)
    (fun _ => trivial) s author _)) fun _ _ => ?_
  exact every_bind every_commit_quiet fun _ _ => every_pure trivial

theorem triple_updateReportTxn_framed (hset : Relinkable I R db₀ e n stored.incidentNumber) :
    Triple imsDB env (World.At .txn (Framed I R db₀)) (updateReportTxn s e n author stored report)
      (fun _ => World.At .pool (Framed I R db₀)) fun _ _ => True := by
  have hentries : PermitsEntries (framing I R db₀) .txn := permitsEntries_framing
  have hreport : ∀ je, framing I R db₀ .txn _ (.attachJournalEntryToReport e n je) :=
    fun _ hn => (hset hn).1
  refine (triple_framed (every_recordSummary hentries hreport (fun _ => trivial) author _)).bind
    fun _ => ?_
  refine (triple_exec_at (L := fun _ => Framed I R db₀) (fun _ _ _ _ hf h => ?_)
    fun _ _ => trivial).bind fun _ => ?_
  · exact hf.of_apply (c := .txn) h hset
  refine (triple_framed (every_applyReportJournalEntries hentries hreport (fun _ => trivial) s author
    _)).bind fun _ => ?_
  exact (triple_commit_at fun _ _ => trivial).bind fun _ => triple_pure fun _ h => h

/-- The report of a request, on its own. -/
def onlyReport (e r : Int) : Int → Int → Prop := fun e' r' => r' ≠ 0 ∧ e' = e ∧ r' = r

/-- What the edits of a successful update wrote and told. -/
structure EditRun (e n : Int) (stored : Report) (edited : Bool) (before after : DB) (t : Told) :
    Prop where
  skipped : edited = false → after = before
  framed : ∀ {I R db₀}, (edited = true → Relinkable I R db₀ e n stored.incidentNumber) →
    Framed I R db₀ before → Framed I R db₀ after
  pokes : edited = true → Pokes (fun _ _ => False) (onlyReport e n) t after
  silent : edited = false → t = []

theorem editRun_of_runs
    (h : Runs imsDB env (editReport s ev n stored report perms claims) w () w' t) :
    EditRun ev.id n stored (edits report) w.db w'.db t := by
  have hedits : (!report.summary.isSome && !addsEntry report) = !edits report := by
    rw [edits, Bool.not_or]
  unfold editReport at h
  rw [hedits] at h
  cases hedit : edits report with
  | false =>
      rw [hedit] at h
      obtain ⟨hrun, htold⟩ := h
      cases hrun
      exact ⟨fun _ => rfl, fun _ hf => hf, fun h => absurd h Bool.false_ne_true, fun _ => htold.symm⟩
  | true =>
      rw [hedit] at h
      have h : Runs imsDB env (requireEditRights stored report perms claims >>= fun _ => _) w () w' t :=
        h
      obtain ⟨u₁, w₁, -, hdb₁, h⟩ := h.bind_reads
        (every_requireEditRights (E := fun _ => True) (fun _ => trivial) stored report perms claims) rfl
      obtain ⟨u₂, w₂, hbegin, h⟩ := h.bind_quiet every_begin_quiet
      obtain ⟨w₃, h, hw'⟩ := h.deferRollback_inv
      obtain ⟨mentioned, w₄, htxn, htell⟩ := h.bind_quiet every_updateReportTxn_quiet
      have htold : w₃.db = w₄.db ∧ Pokes (fun _ _ => False) (onlyReport ev.id n) t w₃.db := by
        refine pokes_of_tell htell ?_ (fun _ _ hin => hin.elim) fun e' r' hin => ?_
        · exact every_bind (every_tell noPoke_notifyMentionedInReport.tellsOnly) fun _ _ =>
            every_tellReportUpdate allowsPokes_tellsOnly fun hne => ⟨hne, rfl, rfl⟩
        · obtain ⟨hr', rfl, rfl⟩ := hin
          exact Publishes.bind_right fun _ => publishes_notifyReportUpdate hr'
      refine ⟨fun h => absurd h.symm Bool.false_ne_true, ?_, fun _ => ?_, fun h =>
        absurd h.symm Bool.false_ne_true⟩
      · intro I R db₀ hset hf
        have hstart : w₂.At .txn (Framed I R db₀) := by
          refine (triple_begin_at (K := fun _ _ => True) fun _ _ => trivial).of_run_ok ?_ hbegin
          intro db hdb
          rw [← Option.some.inj hdb, hdb₁]
          exact hf
        rw [hw', htold.1]
        exact (triple_updateReportTxn_framed (hset rfl)).of_run_ok hstart htxn _ rfl
      · rw [hw']
        exact htold.2

/-- The incidents at the two ends of a changed link. -/
def linkEnds (e : Int) (previous target : Option Int) : Int → Int → Prop :=
  fun e' i => i ≠ 0 ∧ e' = e ∧ (previous = some i ∨ target = some i)

/-- What a change of a report's link wrote and told. -/
structure ChangeRun (e n : Int) (previous target : Option Int) (before after : DB) (t : Told) :
    Prop where
  framed : ∀ {I R db₀}, Relinkable I R db₀ e n target → (n ≠ 0 → R e n) →
    (∀ i, linkEnds e previous target e i → I e i) → Framed I R db₀ before → Framed I R db₀ after
  pokes : Pokes (linkEnds e previous target) (onlyReport e n) t after

theorem every_recordLinkChange_quiet {previous target : Option Int} :
    (recordLinkChange e n author previous target).Every anyAnswer tellsNothing (fun _ => True)
      fun _ => True :=
  every_tellsNothing (every_recordLinkChange (permitsEntries_anyWrite .pool) (fun _ => trivial)
    (fun _ => trivial) author fun _ _ _ => trivial)

theorem changeRun_of_runs {previous target : Option Int}
    (h : Runs imsDB env (changeReportLink e n author previous target) w () w' t) :
    ChangeRun e n previous target w.db w'.db t := by
  obtain ⟨u₁, w₁, hexec, h⟩ := h.bind_quiet (E := fun _ => True) (Q := fun _ => True)
    (every_exec trivial (fun _ => trivial) fun _ _ => trivial)
  obtain ⟨u₂, w₂, hrecord, htell⟩ := h.bind_quiet every_recordLinkChange_quiet
  have hends : ∀ {o : Option Int}, (∀ i, o = some i → i ≠ 0 → linkEnds e previous target e i) →
      o.getD 0 ≠ 0 → linkEnds e previous target e (o.getD 0) := by
    intro o ho hne
    cases o with
    | none => exact absurd rfl hne
    | some i => exact ho i rfl hne
  have htold : w'.db = w₂.db ∧ Pokes (linkEnds e previous target) (onlyReport e n) t w'.db := by
    refine pokes_of_tell htell ?_ (fun e' i hin => ?_) fun e' r' hin => ?_
    · refine every_bind (every_tellReportUpdate allowsPokes_tellsOnly fun hne => ⟨hne, rfl, rfl⟩)
        fun _ _ => ?_
      exact every_tellIncidentUpdates allowsPokes_tellsOnly
        (hends fun i hi hne => ⟨hne, rfl, Or.inl hi⟩) (hends fun i hi hne => ⟨hne, rfl, Or.inr hi⟩)
    · obtain ⟨hi, rfl, hend⟩ := hin
      refine Publishes.bind_right fun _ => publishes_notifyIncidentUpdates hi ?_
      rcases hend with rfl | rfl
      · exact Or.inl rfl
      · exact Or.inr rfl
    · obtain ⟨hr', rfl, rfl⟩ := hin
      exact (publishes_notifyReportUpdate hr').bind_left
  refine ⟨?_, htold.2⟩
  intro I R db₀ hset hR hI hf
  rw [htold.1]
  have hset' : Framed I R db₀ w₁.db := hf.of_apply (c := .pool) (apply_of_exec hexec) hset
  have hreport : ∀ je, framing I R db₀ .pool _ (.attachJournalEntryToReport e n je) :=
    fun _ hn => hR hn
  have hincident : ∀ i je, target = some i ∨ target = none ∧ previous = some i →
      framing I R db₀ .pool _ (.attachJournalEntryToIncident e i je) := by
    intro i je hend hne
    rcases hend with hi | ⟨-, hi⟩
    · exact hI i ⟨hne, rfl, Or.inr hi⟩
    · exact hI i ⟨hne, rfl, Or.inl hi⟩
  have hkept : w₂.At .pool (Framed I R db₀) := by
    refine (triple_framed (every_recordLinkChange permitsEntries_framing hreport (fun _ => trivial)
      author hincident)).of_run_ok ?_ hrecord
    intro db hdb
    rw [← Option.some.inj hdb]
    exact hset'
  exact hkept _ rfl

/-- An incident's timeline is part of its record. -/
theorem incidentLines_eq_of_record {db db' : DB} (h : db.incidentRecord e n = db'.incidentRecord e n) :
    db.linkView.incidentLines e n = db'.linkView.incidentLines e n := by
  have hlines : ∀ db : DB, db.incidentSystemLines e n = (db.incidentRecord e n).journal.flatMap
      fun entry => entry.2.elim [] fun je => if je.generated then je.text else [] := by
    intro db
    rw [DB.incidentSystemLines, DB.incidentRecord, DB.entriesAt, List.flatMap_map]
    refine List.flatMap_congr fun id _ => ?_
    rw [DB.systemText]
    cases db.journalEntry.find? id <;> rfl
  show (db.incidentSystemLines e n).filter _ = (db'.incidentSystemLines e n).filter _
  rw [hlines, hlines, h]

/-- A change of a report's link is told on the timeline of one of the two incidents. -/
theorem exists_told_change (v : LinkView) {e r : Int} {previous target : Option Int}
    (hne : target ≠ previous) : ∃ i,
    (v.change e r previous target).incidentLines e i ≠ v.incidentLines e i ∧
      ¬ (target = some i ↔ previous = some i) := by
  have hlonger : ∀ (l : List JournalLine) line, l ++ [line] ≠ l := by
    intro l line h
    have hlength := congrArg List.length h
    simp at hlength
  cases target with
  | some i =>
      refine ⟨i, ?_, fun h => hne (h.mp rfl).symm⟩
      show (if e = e ∧ i = i then v.incidentLines e i ++ [.reportAdded r] else _) ≠ _
      rw [if_pos ⟨rfl, rfl⟩]
      exact hlonger _ _
  | none =>
      cases previous with
      | none => exact absurd rfl hne
      | some j =>
          refine ⟨j, ?_, fun h => nomatch h.mpr rfl⟩
          show (if e = e ∧ j = j then v.incidentLines e j ++ [.reportRemoved r] else _) ≠ _
          rw [if_pos ⟨rfl, rfl⟩]
          exact hlonger _ _

theorem LinkView.link_change {v : LinkView} {r : Int} {previous target : Option Int} :
    (v.change e r previous target).link e r = target := by
  have hset : (if e = e ∧ r = r then target else v.link e r) = target := if_pos ⟨rfl, rfl⟩
  cases target with
  | some i => exact hset
  | none => cases previous <;> exact hset

/-- A link that is changed, told, and put back: one of the incidents was poked with a link that it
does not have in the end. -/
theorem not_complete_of_putBack {r : Int} {previous target : Option Int} {mid : DB} {t₁ t₂ : Told}
    (hmid : Linked (before.linkView.change e r previous target) mid)
    (hafter : Linked ((before.linkView.change e r previous target).setLink e r previous) after)
    (hne : target ≠ previous) (hpokes : ChangeRun e r previous target before mid t₁)
    (hedit : Pokes (fun _ _ => False) (onlyReport e r) t₂ after) :
    ¬ PokesComplete (t₁ ++ t₂) before after := by
  intro hcomplete
  obtain ⟨i, hlines, hends⟩ := exists_told_change before.linkView (e := e) (r := r) hne
  have hdiffers : before.incidentRecord e i ≠ after.incidentRecord e i := by
    intro hsame
    refine hlines ((incidentLines_eq_of_record hsame).trans ?_).symm
    rw [hafter.2]
    rfl
  obtain ⟨⟨db, hmem, hrecord⟩, -⟩ := hcomplete.incident e i hdiffers
  rcases List.mem_append.mp hmem with hchange | hlater
  · rw [hpokes.pokes.last _ _ hchange] at hrecord
    have hreports : mid.reportsOf e i = after.reportsOf e i := congrArg IncidentRecord.reports hrecord
    refine hends ?_
    have hmidLink : mid.linkOf e r = target := by
      have hview : mid.linkView.link e r = _ := congrArg (fun v => v.link e r) hmid.2
      exact hview.trans LinkView.link_change
    have hafterLink : after.linkOf e r = previous := by
      have hview : after.linkView.link e r = _ := congrArg (fun v => v.link e r) hafter.2
      exact hview.trans (if_pos ⟨rfl, rfl⟩)
    rw [← hmidLink, ← hafterLink, ← DB.mem_reportsOf, ← DB.mem_reportsOf, hreports]
  · exact hedit.onlyIncident e i db hlater

/-- **UpdateReport.** -/
theorem updateReport_complete_iff {req : UpdateReportRequest} (hsound : w.db.Sound)
    (h : Runs imsDB env (updateReport s caller req) w () w' t) :
    PokesComplete t w.db w'.db ↔ ∀ value, req.incident = some value →
      targetIncident value ≠ w.db.linkOf req.eventId req.reportNumber → req.carriesEdit = false := by
  have hrun := h.run
  rw [← edits_reportWriteToJSON]
  unfold UpdateReportRequest.incident
  rw [← incident_reportWriteToJSON]
  obtain ⟨e, r, write⟩ := req
  obtain ⟨claims, w₁, -, hdb₁, h⟩ :=
    h.bind_reads (every_authenticated (E := fun _ => True) (fun _ => trivial) caller) rfl
  obtain ⟨⟨ev, perms⟩, w₂, ⟨hid, -, hperms, -⟩, hdb₂, h⟩ :=
    h.bind_reads (every_reportWriteContext (E := fun _ => True) (fun _ => trivial) e claims) hdb₁
  change ev.id = e at hid
  change perms = _ at hperms
  subst hid hperms
  obtain ⟨row, w₃, hrow, hdb₃, h⟩ :=
    h.bind_reads (every_fetchStoredReport (E := fun _ => True) (fun _ => trivial) ev.id r) hdb₂
  obtain ⟨u₁, w₄, -, hdb₄, h⟩ := h.bind_reads (every_requireReportOwner (E := fun _ => True)
    (fun _ => trivial) ev.id r row.report claims) hdb₃
  have hstored : w.db.linkOf ev.id r = row.report.incidentNumber := by
    rw [DB.linkOf, hrow]
    rfl
  have hr : r ≠ 0 := hsound.reportNumber ev.id r (Table.contains_iff.mpr ⟨_, hrow⟩)
  obtain ⟨u₂, w₅, t₁, t₂, hlink, hedit, rfl⟩ := h.bind_inv
  have hedit := editRun_of_runs hedit
  have hlinkedAfter := (triple_updateReport_at (v := w.db.linkView) s caller ⟨ev.id, r, write⟩).of_run_ok
    (fun db hdb => by rw [← Option.some.inj hdb]; exact hsound.linked) hrun w'.db rfl
  rw [← edits_reportWriteToJSON] at hlinkedAfter
  unfold UpdateReportRequest.incident at hlinkedAfter
  rw [← incident_reportWriteToJSON] at hlinkedAfter
  change Linked (editedView (reconciledView _ ev.id r (w.db.linkOf ev.id r) _) ev.id r
    (w.db.linkOf ev.id r) _) _ at hlinkedAfter
  show _ ↔ ∀ value, (reportWriteToJSON write).incident = some value →
    targetIncident value ≠ w.db.linkOf ev.id r → edits (reportWriteToJSON write) = false
  rw [hstored] at hlinkedAfter ⊢
  -- Where the link stays, the edits are told on their own.
  have hunchanged : w₅.db = w.db → t₁ = [] → PokesComplete (t₁ ++ t₂) w.db w'.db := by
    rintro hsame rfl
    rw [hsame] at hedit
    cases hedits : edits (reportWriteToJSON write) with
    | false =>
        rw [hedit.skipped hedits]
        exact pokesComplete_self _
    | true =>
        refine (hedit.pokes hedits).complete (hedit.framed (fun _ hne => ?_) hsound.framed)
        exact ⟨⟨hne, rfl, rfl⟩, Or.inl hstored.symm⟩
  cases hdesired : (reportWriteToJSON write).incident with
  | none =>
      have hlink : Runs imsDB env (reconcileReportLink ev.id r claims.personID row.report
        (reportWriteToJSON write).incident) w₄ u₂ w₅ t₁ := hlink
      rw [hdesired] at hlink
      obtain ⟨hret, rfl⟩ := hlink
      cases hret
      exact ⟨fun _ _ h => (by cases h), fun _ => hunchanged hdb₄ rfl⟩
  | some value =>
      have hlink : Runs imsDB env (reconcileReportLink ev.id r claims.personID row.report
        (reportWriteToJSON write).incident) w₄ u₂ w₅ t₁ := hlink
      rw [hdesired, reconcileReportLink] at hlink
      rw [hdesired, reconciledView] at hlinkedAfter
      dsimp only at hlink hlinkedAfter
      by_cases htarget : targetIncident value = row.report.incidentNumber
      · rw [if_pos htarget] at hlink
        obtain ⟨hret, rfl⟩ := hlink
        cases hret
        refine ⟨fun _ value' hvalue hne => ?_, fun _ => hunchanged hdb₄ rfl⟩
        rw [← Option.some.inj hvalue] at hne
        exact absurd htarget hne
      · rw [if_neg htarget] at hlink hlinkedAfter
        have hmid : Linked (w.db.linkView.change ev.id r row.report.incidentNumber
            (targetIncident value)) w₅.db := by
          have htriple : Triple imsDB env (World.At .pool (Linked w.db.linkView))
              (reconcileReportLink ev.id r claims.personID row.report (some value)) _ _ :=
            triple_reconcileReportLink_at r claims.personID row.report (some value)
          rw [reconcileReportLink, reconciledView] at htriple
          rw [if_neg htarget, if_neg htarget] at htriple
          refine htriple.of_run_ok (fun db hdb => ?_) hlink.run _ rfl
          rw [← Option.some.inj hdb, hdb₄]
          exact hsound.linked
        have hchange := changeRun_of_runs hlink
        rw [hdb₄] at hchange
        cases hedits : edits (reportWriteToJSON write) with
        | true =>
            rw [hedits] at hlinkedAfter
            refine ⟨fun hcomplete => ?_, fun h =>
              absurd (h value rfl htarget).symm Bool.false_ne_true⟩
            exact (not_complete_of_putBack hmid hlinkedAfter htarget hchange
              (hedit.pokes hedits) hcomplete).elim
        | false =>
            refine ⟨fun _ _ _ _ => rfl, fun _ => ?_⟩
            rw [hedit.silent hedits, List.append_nil, hedit.skipped hedits]
            refine hchange.pokes.complete (hchange.framed (fun hne => ⟨⟨hne, rfl, rfl⟩, Or.inr
              ⟨fun m hm => ?_, fun m hm hne => ⟨hne, rfl, Or.inr hm⟩⟩⟩) (fun hne => ⟨hne, rfl, rfl⟩)
              (fun _ h => h) hsound.framed)
            have hm0 : m ≠ 0 := hsound.incidentNumber _ m (hsound.linkStored _ r m hm)
            rw [hstored] at hm
            exact ⟨hm0, rfl, Or.inl hm⟩

end Reports

/-! ## The people of an incident -/

section People

variable {env : ImsEnv} {caller : Option IMSClaims} {w w' : ImsWorld} {t : Told} {db₀ : DB}
  {e n : Int}

theorem every_personByID_reads {db : DB} (id : Int) :
    (mapErr herrToConnect (personByID id)).Every (truthful imsDB db) readsPool (fun _ => True)
      fun _ => True :=
  every_mapErr (every_read (fun _ _ => trivial) fun _ _ => trivial)

/-- A transaction that `RunInTx` runs, whose writes the frame permits. -/
theorem framed_of_runInTx {α : Type} {x : Go HTTPError α} {a : α}
    (hx : x.Every anyAnswer (writesIn (framing I R db₀)) (fun _ => True) fun _ => True)
    (h : (mapErr herrToConnect (runInTx x)).run imsDB env w = (.ok a, w'))
    (hf : Framed I R db₀ w.db) : Framed I R db₀ w'.db := by
  have hkeeps : ∀ c (β : Type) (q : Write β) id db b db', framing I R db₀ c β q →
      Framed I R db₀ db → q.apply id db = .ok (b, db') → Framed I R db₀ db' :=
    fun _ _ _ _ _ _ _ hq hf h => hf.of_apply h hq
  have hbody : Triple imsDB env (World.Holds (Framed I R db₀) (Framed I R db₀)) x
      (fun _ w => w.Holds (Framed I R db₀) (Framed I R db₀)) fun _ w => Framed I R db₀ w.db :=
    (triple_writesIn (hkeeps .pool) (hkeeps .txn) hx fun _ _ hw _ => hw.1).conseq (fun _ h => h)
      (fun _ _ h => h.1) fun _ _ h => h
  have htriple : Triple imsDB env (fun w => Framed I R db₀ w.db)
      (mapErr herrToConnect (Call.runInTx asHTTPError retryableTxErr x 3))
      (fun _ w => Framed I R db₀ w.db) fun _ _ => True :=
    Triple.mapErr ((triple_runInTx hbody 3).conseq (fun _ h => h) (fun _ _ h => h)
      fun _ _ _ => trivial)
  rw [← runInTx_eq] at htriple
  exact htriple.of_run_ok hf h

theorem every_runInTx_quiet {α : Type} {x : Go HTTPError α}
    (hx : x.Every anyAnswer (operatesIn (fun _ => False) anyWrite) (fun _ => True) fun _ => True) :
    (mapErr herrToConnect (runInTx x)).Every anyAnswer tellsNothing (fun _ => True)
      fun _ => True := by
  refine every_mapErr ?_
  rw [runInTx_eq]
  exact every_runInTx trivial trivial trivial (fun _ => trivial) (every_tellsNothing hx) 3

/-- The incident of a request, on its own. -/
def onlyIncident (e n : Int) : Int → Int → Prop := fun e' n' => n' ≠ 0 ∧ e' = e ∧ n' = n

theorem pokes_notifyIncidentUpdate {ε : Type} (hn : n ≠ 0)
    (h : Runs imsDB env (notifyIncidentUpdate e n : Go ε Unit) w () w' t) :
    w'.db = w.db ∧ Pokes (onlyIncident e n) (fun _ _ => False) t w'.db := by
  refine pokes_of_tell h (every_tellIncidentUpdate allowsPokes_tellsOnly fun hn => ⟨hn, rfl, rfl⟩)
    (fun e' n' hin => ?_) fun _ _ hin => hin.elim
  obtain ⟨hn', rfl, rfl⟩ := hin
  exact publishes_notifyIncidentUpdate hn'

variable {T : Effect → Prop} {W : Conn → ∀ β : Type, Write β → Prop} {person : PersonRow}
  {actor : Int}

/-- What the methods on an incident's people may write: its own rows, entries and notifications. -/
structure PermitsPeople (W : Conn → ∀ β : Type, Write β → Prop) (e n : Int) : Prop where
  entries : PermitsEntries W .txn
  journal : ∀ je, W .txn _ (.attachJournalEntryToIncident e n je)
  attach : ∀ p involvement granted requested,
    W .txn _ (.attachPersonToIncident e n p involvement granted requested)
  request : ∀ requested p, W .txn _ (.requestReportFromPerson requested e n p)
  detach : ∀ p, W .txn _ (.detachPersonFromIncident e n p)

theorem permitsPeople_anyWrite : PermitsPeople anyWrite e n :=
  ⟨permitsEntries_anyWrite .txn, fun _ => trivial, fun _ _ _ _ => trivial, fun _ _ => trivial,
    fun _ => trivial⟩

theorem permitsPeople_framing (hin : I e n) : PermitsPeople (framing I R db₀) e n :=
  ⟨permitsEntries_framing, fun _ _ => hin, fun _ _ _ _ => hin, fun _ _ => hin, fun _ => hin⟩

theorem every_attachPersonTxn (hW : PermitsPeople W e n) (involvement : Option SqlText)
    (granted : Bool) :
    (attachPersonTxn e n person involvement granted actor).Every anyAnswer (operatesIn T W)
      (fun _ => True) fun _ => True := by
  refine every_bind (Q := fun _ => True) (every_select trivial (fun _ => trivial) fun _ _ => trivial)
    fun existing _ => ?_
  refine every_bind (Q := fun _ => True)
    (every_exec (hW.detach _) (fun _ => trivial) fun _ _ => trivial) fun _ _ => ?_
  refine every_bind (Q := fun _ => True)
    (every_exec (hW.attach _ _ _ _) (fun _ => trivial) fun _ _ => trivial) fun _ _ => ?_
  refine every_bind (every_addChangeEntry hW.entries hW.journal (fun _ _ => trivial) actor _)
    fun _ _ => ?_
  refine every_bind (Q := fun _ => True) ?_ fun _ _ => every_pure trivial
  refine every_ite (fun _ => ?_) fun _ => every_pure trivial
  exact every_createNotification hW.entries.notification (fun _ _ => trivial) _ _ e _ _ _ actor

theorem every_requestReportTxn (hW : PermitsPeople W e n) (requestedAt : Int) :
    (requestReportTxn e n person requestedAt actor).Every anyAnswer (operatesIn T W)
      (fun _ => True) fun _ => True := by
  refine every_bind (Q := fun _ => True) (every_select trivial (fun _ => trivial) fun _ _ => trivial)
    fun existing _ => ?_
  refine every_bind (Q := fun _ => True) ?_ fun _ _ => ?_
  · refine every_ite (fun _ => ?_) fun _ => ?_
    · exact every_exec (hW.request _ _) (fun _ => trivial) fun _ _ => trivial
    · exact every_exec (hW.attach _ _ _ _) (fun _ => trivial) fun _ _ => trivial
  refine every_bind (every_addIncidentJournalEntry hW.entries hW.journal (fun _ _ => trivial) actor _
    true) fun _ _ => ?_
  exact every_createNotification hW.entries.notification (fun _ _ => trivial) _ _ e _ _ _ actor

theorem every_detachPersonTxn (hW : PermitsPeople W e n) :
    (detachPersonTxn e n person actor).Every anyAnswer (operatesIn T W) (fun _ => True)
      fun _ => True := by
  refine every_bind (Q := fun _ => True)
    (every_exec (hW.detach _) (fun _ => trivial) fun _ _ => trivial) fun _ _ => ?_
  exact every_bind (every_addIncidentJournalEntry hW.entries hW.journal (fun _ _ => trivial) actor _
    true) fun _ _ => every_pure trivial

/-- What follows the gates of a method on the people of an incident: a transaction on that incident,
then its poke, then perhaps other messages. -/
theorem people_complete {α : Type} {x : Go HTTPError α} {f : α → Go ConnectError Unit} {i : Incident}
    (hsound : db₀.Sound) (hi : db₀.incident.find? (e, n) = some i) (hdb : w.db = db₀)
    (hx : ∀ {T : Effect → Prop} {W : Conn → ∀ β : Type, Write β → Prop}, PermitsPeople W e n →
      x.Every anyAnswer (operatesIn T W) (fun _ => True) fun _ => True)
    (hf : ∀ a, (f a).Every anyAnswer (operatesIn noPoke txnWrites) (fun _ => True) fun _ => True)
    (h : Runs imsDB env (mapErr herrToConnect (runInTx x) >>= fun a =>
      notifyIncidentUpdate e n >>= fun _ => f a) w () w' t) : PokesComplete t db₀ w'.db := by
  have hn : n ≠ 0 := hsound.incidentNumber e n (Table.contains_iff.mpr ⟨i, hi⟩)
  obtain ⟨a, w₁, htxn, h⟩ := h.bind_quiet (every_runInTx_quiet (hx permitsPeople_anyWrite))
  obtain ⟨u, w₂, t₁, t₂, hpoke, hmore, rfl⟩ := h.bind_inv
  have hframed : Framed (onlyIncident e n) (fun _ _ => False) db₀ w₁.db := by
    refine framed_of_runInTx (hx (permitsPeople_framing ⟨hn, rfl, rfl⟩)) htxn ?_
    rw [hdb]
    exact hsound.framed
  obtain ⟨hpoked, hpokes⟩ := pokes_notifyIncidentUpdate hn hpoke
  obtain ⟨hafter, htold⟩ := hmore.told_one (hf a)
  rw [← hafter] at hpokes htold
  refine (hpokes.append htold).complete ?_
  rw [hafter, hpoked]
  exact hframed

/-- **AttachPersonToIncident.** -/
theorem attachPerson_complete {req : AttachPersonRequest} (hsound : w.db.Sound)
    (h : Runs imsDB env (attachPersonToIncident caller req) w () w' t) :
    PokesComplete t w.db w'.db := by
  obtain ⟨claims, w₁, -, hdb₁, h⟩ :=
    h.bind_reads (every_authenticated (E := fun _ => True) (fun _ => trivial) caller) rfl
  obtain ⟨ev, w₂, ⟨hid, -, i, hi, -⟩, hdb₂, h⟩ := h.bind_reads
    (every_incidentWriteContext (E := fun _ => True) (fun _ => trivial) _ _ claims) hdb₁
  obtain ⟨person, w₃, -, hdb₃, h⟩ := h.bind_reads (every_personByID_reads _) hdb₂
  rw [← hid] at hi
  refine people_complete hsound hi hdb₃ (fun hW => every_attachPersonTxn hW _ _) (fun isNew => ?_) h
  refine every_ite (fun _ => every_tell ?_) fun _ => every_pure trivial
  exact ⟨fun _ _ h => (nomatch h), fun _ _ h => (nomatch h)⟩

/-- **RequestReport.** -/
theorem requestReport_complete {req : PersonOnIncidentRequest} (hsound : w.db.Sound)
    (h : Runs imsDB env (requestReport caller req) w () w' t) : PokesComplete t w.db w'.db := by
  obtain ⟨claims, w₁, -, hdb₁, h⟩ :=
    h.bind_reads (every_authenticated (E := fun _ => True) (fun _ => trivial) caller) rfl
  obtain ⟨ev, w₂, ⟨hid, -, i, hi, -⟩, hdb₂, h⟩ := h.bind_reads
    (every_incidentWriteContext (E := fun _ => True) (fun _ => trivial) _ _ claims) hdb₁
  obtain ⟨person, w₃, -, hdb₃, h⟩ := h.bind_reads (every_personByID_reads _) hdb₂
  obtain ⟨requestedAt, w₄, -, hdb₄, h⟩ := h.bind_reads (E := fun _ => True) (Q := fun _ => True)
    (every_now trivial fun _ => trivial) hdb₃
  rw [← hid] at hi
  refine people_complete hsound hi hdb₄ (fun hW => every_requestReportTxn hW _) (fun _ => ?_) h
  exact every_tell ⟨fun _ _ h => (nomatch h), fun _ _ h => (nomatch h)⟩

/-- **DetachPersonFromIncident.** -/
theorem detachPerson_complete {req : PersonOnIncidentRequest} (hsound : w.db.Sound)
    (h : Runs imsDB env (detachPersonFromIncident caller req) w () w' t) :
    PokesComplete t w.db w'.db := by
  obtain ⟨claims, w₁, -, hdb₁, h⟩ :=
    h.bind_reads (every_authenticated (E := fun _ => True) (fun _ => trivial) caller) rfl
  obtain ⟨ev, w₂, ⟨hid, -, i, hi, -⟩, hdb₂, h⟩ := h.bind_reads
    (every_incidentWriteContext (E := fun _ => True) (fun _ => trivial) _ _ claims) hdb₁
  obtain ⟨person, w₃, -, hdb₃, h⟩ := h.bind_reads (every_personByID_reads _) hdb₂
  rw [← hid] at hi
  rw [← bind_pure (notifyIncidentUpdate _ _)] at h
  exact people_complete (f := fun _ => pure ()) hsound hi hdb₃ every_detachPersonTxn
    (fun _ => every_pure trivial) h

end People

/-! ## Striking an entry -/

namespace DB

/-- The database with one entry struck, or no longer struck. -/
def struck (db : DB) (je : Int) (stricken : Bool) : DB :=
  { db with journalEntry := db.journalEntry.modify je fun r => { r with stricken } }

/-- The entry is not yet as the strike would have it. -/
def Strikes (db : DB) (je : Int) (stricken : Bool) : Prop :=
  ∃ entry, db.journalEntry.find? je = some entry ∧ entry.stricken ≠ stricken

variable {db : DB} {je e n r : Int} {b : Bool}

theorem entriesAt_struck (ids : List Int) :
    (db.struck je b).entriesAt ids = db.entriesAt ids ↔ je ∈ ids → ¬ db.Strikes je b := by
  have hfind : ∀ id, (db.struck je b).journalEntry.find? id = db.journalEntry.find? id ↔
      (id = je → ¬ db.Strikes je b) := by
    intro id
    rw [struck, Table.find?_modify]
    by_cases hid : id = je
    · subst hid
      rw [if_pos rfl]
      cases hentry : db.journalEntry.find? id with
      | none => simp [Strikes, hentry]
      | some entry =>
          have hsame : ({ entry with stricken := b } : JournalEntry) = entry ↔ entry.stricken = b := by
            constructor
            · intro h
              exact (congrArg JournalEntry.stricken h).symm
            · rintro rfl
              rfl
          simp [Strikes, hentry, hsame]
    · simp [hid]
  rw [entriesAt, entriesAt, List.map_inj_left]
  constructor
  · intro h hmem
    exact (hfind je).mp (Prod.mk.inj (h je hmem)).2 rfl
  · intro h id hid
    rw [(hfind id).mpr]
    rintro rfl
    exact h hid

theorem incidentRecord_struck : (db.struck je b).incidentRecord e n = db.incidentRecord e n ↔
    db.incidentJournalEntry.contains (e, n, je) = true → ¬ db.Strikes je b := by
  rw [← mem_incidentEntriesOf, ← entriesAt_struck]
  constructor
  · exact congrArg IncidentRecord.journal
  · intro h
    exact congrArg (fun j => { db.incidentRecord e n with journal := j }) h

theorem reportRecord_struck : (db.struck je b).reportRecord e r = db.reportRecord e r ↔
    db.reportJournalEntry.contains (e, r, je) = true → ¬ db.Strikes je b := by
  rw [← mem_reportEntriesOf, ← entriesAt_struck]
  constructor
  · exact congrArg ReportRecord.journal
  · intro h
    exact congrArg (fun j => { db.reportRecord e r with journal := j }) h

theorem Sound.struck (h : db.Sound) : (db.struck je b).Sound := by
  refine ⟨⟨fun k hk => ?_, fun k hk => ?_⟩, h.incidentNumber, h.reportNumber, h.linkStored,
    h.pairStored⟩
  · rw [DB.struck, Table.contains_modify]
    exact h.stored.1 k hk
  · rw [DB.struck, Table.contains_modify]
    exact h.stored.2 k hk

theorem Sound.ite_struck (h : db.Sound) {p : Prop} [Decidable p] :
    (if p then db.struck je b else db).Sound := by
  split
  · exact h.struck
  · exact h

end DB

section Strikes

variable {env : ImsEnv} {caller : Option IMSClaims} {w w' : ImsWorld} {t : Told} {mid : DB}

/-- Where the database went through `mid`, and only the poked records changed since. -/
theorem Pokes.complete_iff_of_framed (hpokes : Pokes I R told after) (hframed : Framed I R mid after) :
    PokesComplete told before after ↔
      (∀ e n, ¬ I e n → mid.incidentRecord e n = before.incidentRecord e n) ∧
        ∀ e r, ¬ R e r → mid.reportRecord e r = before.reportRecord e r := by
  constructor
  · intro hcomplete
    constructor
    · intro e n hout
      by_contra hne
      rw [← hframed.incident e n hout] at hne
      obtain ⟨⟨db, hmem, -⟩, -⟩ := hcomplete.incident e n (Ne.symm hne)
      exact hout (hpokes.onlyIncident e n db hmem)
    · intro e r hout
      by_contra hne
      rw [← hframed.report e r hout] at hne
      obtain ⟨⟨db, hmem, -⟩, -⟩ := hcomplete.report e r (Ne.symm hne)
      exact hout (hpokes.onlyReport e r db hmem)
  · rintro ⟨hincident, hreport⟩
    constructor
    · intro e n hne
      have hin : I e n := by
        by_contra hout
        exact hne (((hframed.incident e n hout).trans (hincident e n hout)).symm)
      exact announced_of_last hpokes.last (hpokes.incident e n hin) hne
    · intro e r hne
      have hin : R e r := by
        by_contra hout
        exact hne (((hframed.report e r hout).trans (hreport e r hout)).symm)
      exact announced_of_last hpokes.last (hpokes.report e r hin) hne

/-- The transaction of a strike, and what it tells: the entry is struck, the strike is noted on the
record, and the record is poked. -/
theorem strike_of_runs {q : Write Unit} {entry tell : Go ConnectError Unit}
    {failBegin failStrike failCommit : SqlErr → ConnectError}
    (hmid : ∀ id db', q.apply id w.db = .ok ((), db') → db' = mid) (hsound : mid.Sound)
    (hentry : ∀ {T : Effect → Prop}, entry.Every anyAnswer (operatesIn T (framing I R mid))
      (fun _ => True) fun _ => True)
    (htell : tell.Every anyAnswer (operatesIn (tellsOnly I R) txnWrites) (fun _ => True)
      fun _ => True)
    (hI : ∀ e n, I e n → Publishes imsDB env tell (incidentPoke e n))
    (hR : ∀ e r, R e r → Publishes imsDB env tell (reportPoke e r))
    (h : Runs imsDB env (begin failBegin >>= fun _ => Call.deferRollback
      ((exec .txn q failStrike >>= fun _ => entry >>= fun _ => commit failCommit) >>= fun _ => tell))
      w () w' t) :
    Framed I R mid w'.db ∧ Pokes I R t w'.db := by
  obtain ⟨u₁, w₁, hbegin, h⟩ := h.bind_quiet every_begin_quiet
  obtain ⟨w₂, h, hw'⟩ := h.deferRollback_inv
  obtain ⟨u₂, w₃, htxn, htold⟩ := h.bind_quiet (E := fun _ => True) (Q := fun _ => True)
    (every_bind (every_exec trivial (fun _ => trivial) fun _ _ => trivial) fun _ _ =>
      every_bind (every_tellsNothing hentry) fun _ _ => every_commit_quiet)
  obtain ⟨hlast, hpokes⟩ := pokes_of_tell htold htell hI hR
  have htriple : Triple imsDB env (World.At .txn (· = w.db))
      (exec .txn q failStrike >>= fun _ => entry >>= fun _ => commit failCommit)
      (fun _ => World.At .pool (Framed I R mid)) fun _ _ => True := by
    refine (triple_exec_at (L := fun _ db => db = mid) (fun id db b db' hdb happ => ?_)
      fun _ _ => trivial).bind fun _ => ?_
    · rw [hdb] at happ
      exact hmid id db' happ
    have hkept : Triple imsDB env (World.At .txn (· = mid)) entry
        (fun _ => World.At .txn (Framed I R mid)) fun _ _ => True :=
      (triple_framed hentry).conseq (fun w hw db hdb => by rw [hw db hdb]; exact hsound.framed)
        (fun _ _ h => h) fun _ _ h => h
    exact hkept.bind fun _ => triple_commit_at fun _ _ => trivial
  have hstart : w₁.At .txn (· = w.db) := by
    refine (triple_begin_at (K := fun _ _ => True) fun _ _ => trivial).of_run_ok ?_ hbegin
    intro db hdb
    exact (Option.some.inj hdb).symm
  have hframed : Framed I R mid w₃.db := htriple.of_run_ok hstart htxn _ rfl
  rw [hw', hlast]
  rw [hlast] at hpokes
  exact ⟨hframed, hpokes⟩

/-- Where the entry is, it is on the poked records only. -/
def DB.OnlyOn (db : DB) (I R : Int → Int → Prop) (je : Int) : Prop :=
  (∀ e n, db.incidentJournalEntry.contains (e, n, je) = true → I e n) ∧
    ∀ e r, db.reportJournalEntry.contains (e, r, je) = true → R e r

/-- The database a strike leaves, before it is noted: an entry that is not on the record stays. -/
theorem strike_complete_iff {je : Int} {b attached : Bool}
    (hmid : mid = if attached then before.struck je b else before)
    (hpokes : Pokes I R told after) (hframed : Framed I R mid after) :
    PokesComplete told before after ↔
      (attached = true → before.Strikes je b → before.OnlyOn I R je) := by
  rw [hpokes.complete_iff_of_framed hframed, hmid]
  cases attached with
  | false => simp
  | true =>
    simp only [if_true, DB.incidentRecord_struck, DB.reportRecord_struck, forall_const]
    constructor
    · rintro ⟨hincident, hreport⟩ hstrikes
      constructor
      · intro e n hat
        by_contra hout
        exact hincident e n hout hat hstrikes
      · intro e r hat
        by_contra hout
        exact hreport e r hout hat hstrikes
    · intro honly
      constructor
      · intro e n hout hat hstrikes
        exact hout ((honly hstrikes).1 e n hat)
      · intro e r hout hat hstrikes
        exact hout ((honly hstrikes).2 e r hat)

/-- **UpdateIncidentJournalEntry.** -/
theorem strikeIncidentEntry_complete_iff {req : UpdateJournalEntryRequest} (hsound : w.db.Sound)
    (h : Runs imsDB env (updateIncidentJournalEntry caller req) w () w' t) :
    PokesComplete t w.db w'.db ↔ ∀ b, req.stricken = some b →
      w.db.incidentJournalEntry.contains (req.eventId, req.recordNumber, req.journalEntryId) = true →
      w.db.Strikes req.journalEntryId b →
      w.db.OnlyOn (onlyIncident req.eventId req.recordNumber) (fun _ _ => False)
        req.journalEntryId := by
  obtain ⟨e, n, je, stricken⟩ := req
  obtain ⟨claims, w₁, -, hdb₁, h⟩ :=
    h.bind_reads (every_authenticated (E := fun _ => True) (fun _ => trivial) caller) rfl
  obtain ⟨ev, w₂, ⟨hid, -, i, hi, -⟩, hdb₂, h⟩ := h.bind_reads
    (every_incidentWriteContext (E := fun _ => True) (fun _ => trivial) _ _ claims) hdb₁
  change ev.id = e at hid
  subst hid
  have hn : n ≠ 0 := hsound.incidentNumber _ n (Table.contains_iff.mpr ⟨i, hi⟩)
  cases stricken with
  | none =>
      obtain ⟨hret, rfl⟩ := h
      cases hret
      rw [hdb₂]
      exact ⟨fun _ _ h => (nomatch h), fun _ => pokesComplete_self _⟩
  | some b =>
      let attached := w.db.incidentJournalEntry.contains (ev.id, n, je)
      let mid := if attached then w.db.struck je b else w.db
      have hmid : ∀ id db',
          (Write.setIncidentJournalEntryStricken b ev.id n je).apply id w₂.db = .ok ((), db') →
          db' = mid := by
        intro id db' happ
        rw [hdb₂] at happ
        exact (Prod.mk.inj (Except.ok.inj happ)).2.symm
      have hmidSound : mid.Sound := hsound.ite_struck
      have hattach : ∀ id, framing (onlyIncident ev.id n) (fun _ _ => False) mid .txn _
          (.attachJournalEntryToIncident ev.id n id) := fun _ _ => ⟨hn, rfl, rfl⟩
      have hentry : ∀ {T : Effect → Prop}, (addGeneratedIncidentEntry .txn ev.id n claims.personID
          (strikeLine b je)).Every anyAnswer
          (operatesIn T (framing (onlyIncident ev.id n) (fun _ _ => False) mid)) (fun _ => True)
          fun _ => True :=
        every_addGeneratedIncidentEntry permitsEntries_framing (fun _ => trivial) hattach
          claims.personID _
      have hrun := strike_of_runs hmid hmidSound hentry
        (every_tellIncidentUpdate allowsPokes_tellsOnly fun hn => ⟨hn, rfl, rfl⟩)
        (fun e' n' hin => by
          obtain ⟨hn', rfl, rfl⟩ := hin
          exact publishes_notifyIncidentUpdate hn')
        (fun _ _ hin => hin.elim) h
      rw [strike_complete_iff rfl hrun.2 hrun.1]
      refine ⟨fun hstrike b' hb' => ?_, fun hstrike => hstrike b rfl⟩
      rw [← Option.some.inj hb']
      exact hstrike

/-- **UpdateReportJournalEntry.** -/
theorem strikeReportEntry_complete_iff {req : UpdateJournalEntryRequest} (hsound : w.db.Sound)
    (h : Runs imsDB env (updateReportJournalEntry caller req) w () w' t) :
    PokesComplete t w.db w'.db ↔ ∀ b, req.stricken = some b →
      w.db.reportJournalEntry.contains (req.eventId, req.recordNumber, req.journalEntryId) = true →
      w.db.Strikes req.journalEntryId b →
      w.db.OnlyOn (fun _ _ => False) (onlyReport req.eventId req.recordNumber)
        req.journalEntryId := by
  obtain ⟨e, r, je, stricken⟩ := req
  obtain ⟨claims, w₁, -, hdb₁, h⟩ :=
    h.bind_reads (every_authenticated (E := fun _ => True) (fun _ => trivial) caller) rfl
  obtain ⟨⟨ev, perms⟩, w₂, ⟨hid, -⟩, hdb₂, h⟩ :=
    h.bind_reads (every_reportWriteContext (E := fun _ => True) (fun _ => trivial) e claims) hdb₁
  change ev.id = e at hid
  subst hid
  obtain ⟨row, w₃, ⟨stored, hstored⟩, hdb₃, h⟩ := h.bind_reads (E := fun _ => True)
    (Q := fun _ => ∃ stored, w.db.report.find? (ev.id, r) = some stored)
    (every_read (fun row hrow => by
      rw [Read.eval, DB.one_eq_ok, Option.map_eq_some_iff] at hrow
      obtain ⟨stored, hstored, -⟩ := hrow
      exact ⟨stored, hstored⟩) fun _ _ => trivial) hdb₂
  have hr : r ≠ 0 := hsound.reportNumber _ r (Table.contains_iff.mpr ⟨stored, hstored⟩)
  cases stricken with
  | none =>
      obtain ⟨hret, rfl⟩ := h
      cases hret
      rw [hdb₃]
      exact ⟨fun _ _ h => (by cases h), fun _ => pokesComplete_self _⟩
  | some b =>
      obtain ⟨u, w₄, -, hdb₄, h⟩ := h.bind_reads (every_requireEntryAuthor (E := fun _ => True)
        (fun _ => trivial) ev.id r je perms claims) hdb₃
      let attached := w.db.reportJournalEntry.contains (ev.id, r, je)
      let mid := if attached then w.db.struck je b else w.db
      have hmid : ∀ id db',
          (Write.setReportJournalEntryStricken b ev.id r je).apply id w₄.db = .ok ((), db') →
          db' = mid := by
        intro id db' happ
        rw [hdb₄] at happ
        exact (Prod.mk.inj (Except.ok.inj happ)).2.symm
      have hmidSound : mid.Sound := hsound.ite_struck
      have hattach : ∀ id, framing (fun _ _ => False) (onlyReport ev.id r) mid .txn _
          (.attachJournalEntryToReport ev.id r id) := fun _ _ => ⟨hr, rfl, rfl⟩
      have hentry : ∀ {T : Effect → Prop}, (addGeneratedReportEntry .txn ev.id r claims.personID
          (strikeLine b je)).Every anyAnswer
          (operatesIn T (framing (fun _ _ => False) (onlyReport ev.id r) mid)) (fun _ => True)
          fun _ => True :=
        every_addGeneratedReportEntry permitsEntries_framing hattach (fun _ => trivial)
          claims.personID _
      have hrun := strike_of_runs hmid hmidSound hentry
        (every_tellReportUpdate allowsPokes_tellsOnly fun hr => ⟨hr, rfl, rfl⟩)
        (fun _ _ hin => hin.elim)
        (fun e' r' hin => by
          obtain ⟨hr', rfl, rfl⟩ := hin
          exact publishes_notifyReportUpdate hr') h
      rw [strike_complete_iff rfl hrun.2 hrun.1]
      refine ⟨fun hstrike b' hb' => ?_, fun hstrike => hstrike b rfl⟩
      rw [← Option.some.inj hb']
      exact hstrike

end Strikes

/-! ## The methods that write incidents and reports -/

/-- A call of a method that writes incidents or reports. -/
inductive PokingRequest
  | createIncident (req : CreateIncidentRequest)
  | updateIncident (req : UpdateIncidentRequest)
  | attachPersonToIncident (req : AttachPersonRequest)
  | requestReport (req : PersonOnIncidentRequest)
  | detachPersonFromIncident (req : PersonOnIncidentRequest)
  | updateIncidentJournalEntry (req : UpdateJournalEntryRequest)
  | createReport (req : CreateReportRequest)
  | updateReport (req : UpdateReportRequest)
  | updateReportJournalEntry (req : UpdateJournalEntryRequest)

namespace PokingRequest

def call (s : Service) (caller : Option IMSClaims) : PokingRequest → Go ConnectError Unit
  | createIncident req => OcfIms.createIncident s caller req >>= fun _ => pure ()
  | updateIncident req => updateIncidentRPC s caller req
  | attachPersonToIncident req => OcfIms.attachPersonToIncident caller req
  | requestReport req => OcfIms.requestReport caller req
  | detachPersonFromIncident req => OcfIms.detachPersonFromIncident caller req
  | updateIncidentJournalEntry req => OcfIms.updateIncidentJournalEntry caller req
  | createReport req => OcfIms.createReport s caller req >>= fun _ => pure ()
  | updateReport req => OcfIms.updateReport s caller req
  | updateReportJournalEntry req => OcfIms.updateReportJournalEntry caller req

/-- What the method pokes covers what it changes: no report is taken from an incident whose link
with the updated one stays as it is, no report's link is changed beside an edit, and no entry that
a strike changes is also on another record. -/
def Covered (db : DB) : PokingRequest → Prop
  | createIncident req => TakesFromLinked db req.eventId none []
      (req.incident.bind (·.reports)) (req.incident.bind (·.linkedIncidents))
  | updateIncident req => TakesFromLinked db req.eventId (some req.incidentNumber)
      (db.linksOf req.eventId req.incidentNumber) (req.update.bind (·.reports))
      (req.update.bind (·.linkedIncidents))
  | updateIncidentJournalEntry req => ∀ b, req.stricken = some b →
      db.incidentJournalEntry.contains (req.eventId, req.recordNumber, req.journalEntryId) = true →
      db.Strikes req.journalEntryId b →
      db.OnlyOn (onlyIncident req.eventId req.recordNumber) (fun _ _ => False) req.journalEntryId
  | updateReport req => ∀ value, req.incident = some value →
      targetIncident value ≠ db.linkOf req.eventId req.reportNumber → req.carriesEdit = false
  | updateReportJournalEntry req => ∀ b, req.stricken = some b →
      db.reportJournalEntry.contains (req.eventId, req.recordNumber, req.journalEntryId) = true →
      db.Strikes req.journalEntryId b →
      db.OnlyOn (fun _ _ => False) (onlyReport req.eventId req.recordNumber) req.journalEntryId
  | attachPersonToIncident _ | requestReport _ | detachPersonFromIncident _ | createReport _ => True

end PokingRequest

section Claim

variable {env : ImsEnv} {s : Service} {caller : Option IMSClaims} {w w' : ImsWorld}

/-- A result that is left out adds nothing to what a call told. -/
theorem runs_of_bind_pure {ε α : Type} {x : Go ε α} {t : Told}
    (h : Runs imsDB env (x >>= fun _ => pure ()) w () w' t) : ∃ a, Runs imsDB env x w a w' t := by
  obtain ⟨a, w₁, t₁, t₂, hx, ⟨hret, hsilent⟩, rfl⟩ := h.bind_inv
  cases hret
  rw [← hsilent]
  exact ⟨a, hx.run, (hx.told).trans (List.append_nil _).symm⟩

/-- **The pokes of a successful call are complete** just when they cover what it changes. -/
theorem pokesComplete_iff {req : PokingRequest} (hsound : w.db.Sound)
    (h : (req.call s caller).run imsDB env w = (.ok (), w')) :
    PokesComplete ((req.call s caller).told imsDB env w) w.db w'.db ↔ req.Covered w.db := by
  have hrun := runs_of_run h
  cases req with
  | createIncident req =>
      obtain ⟨n, hrun⟩ := runs_of_bind_pure hrun
      exact createIncident_complete_iff hsound hrun
  | updateIncident req => exact updateIncidentRPC_complete_iff hsound hrun
  | attachPersonToIncident req => exact iff_of_true (attachPerson_complete hsound hrun) trivial
  | requestReport req => exact iff_of_true (requestReport_complete hsound hrun) trivial
  | detachPersonFromIncident req => exact iff_of_true (detachPerson_complete hsound hrun) trivial
  | updateIncidentJournalEntry req => exact strikeIncidentEntry_complete_iff hsound hrun
  | createReport req =>
      obtain ⟨n, hrun⟩ := runs_of_bind_pure hrun
      exact iff_of_true (createReport_complete hsound hrun) trivial
  | updateReport req => exact updateReport_complete_iff hsound hrun
  | updateReportJournalEntry req => exact strikeReportEntry_complete_iff hsound hrun

theorem linkedReportDB_sound : linkedReportDB.Sound := by
  refine DB.Sound.of_rows ⟨fun _ h => (Bool.false_ne_true h).elim,
    fun _ h => (Bool.false_ne_true h).elim⟩ ?_ ?_ ?_ ?_ <;> decide

/-- The report of incident 1 is given to incident 2. -/
def takeReport : PokingRequest := .updateIncident ⟨1, 2, some { reports := some [1] }⟩

theorem pokesComplete_iff_takeReport :
    PokesComplete ((takeReport.call {} (some ⟨7, "hub", false⟩)).told imsDB stillEnv
      { db := linkedReportDB, nextId := 1 }) linkedReportDB
      ((takeReport.call {} (some ⟨7, "hub", false⟩)).run imsDB stillEnv
        { db := linkedReportDB, nextId := 1 }).2.db ↔ takeReport.Covered linkedReportDB :=
  pokesComplete_iff (w := { db := linkedReportDB, nextId := 1 }) linkedReportDB_sound
    (Prod.ext (by decide) rfl)

/-- Nothing tells the first incident's readers that its report is gone. -/
theorem not_pokesComplete_takeReport :
    ¬ ∀ (env : ImsEnv) (s : Service) (caller : Option IMSClaims) (req : PokingRequest)
      (w w' : ImsWorld), w.db.Sound → (req.call s caller).run imsDB env w = (.ok (), w') →
        PokesComplete ((req.call s caller).told imsDB env w) w.db w'.db := by
  intro h
  have hcomplete := h stillEnv {} (some ⟨7, "hub", false⟩) takeReport
    { db := linkedReportDB, nextId := 1 } _ linkedReportDB_sound (Prod.ext (by decide) rfl)
  obtain ⟨⟨db, hpoke, -⟩, -⟩ := hcomplete.incident 1 1 (by decide)
  have hnone : incidentPoke 1 1 ∉ ((takeReport.call {} (some ⟨7, "hub", false⟩)).told imsDB stillEnv
      { db := linkedReportDB, nextId := 1 }).map Prod.fst := by
    decide
  exact hnone (List.mem_map_of_mem hpoke)

end Claim

end OcfIms
