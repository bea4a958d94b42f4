import OcfIms.IncidentRuns

/-!
# Closing times

In every state that creations and updates of incidents can reach, an incident has a closing time if
and only if it is closed. The two columns are never written apart: the row a creation inserts is
open, and an update writes the whole row, from a copy it read when the two agreed. However old that
copy is when it is written, what it says of the two columns agrees.
-/

namespace OcfIms

open TxnLib RunLib

/-- A closing time belongs to a closed incident. -/
def ClosingAgrees (closed : Option Int) (state : IncidentState) : Prop :=
  closed.isSome = true ↔ state = .stateClosed

/-- Every incident's closing time agrees with its state. -/
def ClosingSound (db : DB) : Prop :=
  ∀ e n i, db.incident.find? (e, n) = some i → ClosingAgrees i.closed i.state

/-- Rows of incidents are written with the two columns in agreement. -/
def writesAgreeing : Conn → ∀ β : Type, Write β → Prop
  | _, _, .createIncident _ _ _ _ _ state _ => state = .stateOpen
  | _, _, .updateIncident _ _ p => ClosingAgrees p.closed p.state
  | _, _, _ => True

theorem closingSound_apply {c : Conn} {β : Type} {q : Write β} {id : Int} {db db' : DB} {b : β}
    (hq : writesAgreeing c β q) (hs : ClosingSound db) (h : q.apply id db = .ok (b, db')) :
    ClosingSound db' := by
  cases Write.effect_of_apply h with
  | createIncident hnew _ _ =>
      intro e n i hi
      rw [Table.find?_insert hnew] at hi
      split at hi
      · obtain rfl := Option.some.inj hi
        obtain rfl : _ = IncidentState.stateOpen := hq
        exact ⟨fun h => (nomatch h), fun h => (nomatch h)⟩
      · exact hs e n i hi
  | updateIncident hold _ _ _ =>
      intro e n i hi
      rw [Table.find?_modify] at hi
      split at hi
      · obtain ⟨old, -, rfl⟩ := Option.map_eq_some_iff.mp hi
        exact hq
      · exact hs e n i hi
  | _ => exact hs

section Contracts

variable {env : ImsEnv} {inc : IncidentJSON} {stored : Incident} {ed : Edit}

/-- What the calls are answered as long as every row agrees. -/
abbrev agreeingAnswers (env : ImsEnv) : ∀ β : Type, Op β → β → Prop :=
  answersFrom imsDB env ClosingSound

/-- The row to be written agrees. -/
def Edit.Agrees (ed : Edit) : Prop := ClosingAgrees ed.update.closed ed.update.state

theorem agrees_editPriority (h : ed.Agrees) : (editPriority inc stored ed).Agrees := by
  unfold editPriority
  split <;> exact h

theorem agrees_editStarted (s : Service) (h : ed.Agrees) :
    (editStarted inc stored s ed).Agrees := by
  unfold editStarted
  split
  · exact h
  · split <;> exact h

theorem agrees_editSummary (h : ed.Agrees) : (editSummary inc stored ed).Agrees := by
  unfold editSummary
  dsimp only
  split <;> exact h

theorem agrees_editDescription (h : ed.Agrees) : (editDescription inc stored ed).Agrees := by
  unfold editDescription
  dsimp only
  split <;> exact h

theorem agrees_editBooth (h : ed.Agrees) : (editBooth inc stored ed).Agrees := by
  unfold editBooth
  dsimp only
  split <;> exact h

theorem every_editPrivacy_agrees (author : Int) (admin : Bool) (h : ed.Agrees) :
    (editPrivacy inc stored author admin ed).Every (agreeingAnswers env)
      (writesIn Call.noWrite) (fun _ => True) Edit.Agrees := by
  unfold editPrivacy
  split
  · exact Call.every_pure h
  · refine Call.every_ite (fun _ => Call.every_throw trivial) fun _ => ?_
    exact Call.every_ite (fun _ => Call.every_pure h) fun _ => Call.every_pure h

/-- The one edit that touches the two columns writes both: the clock never shows the zero time. -/
theorem every_editState_agrees (hclock : ∀ n, isZero (env.answer n .now) = false)
    (h : ed.Agrees) :
    (editState inc stored ed).Every (agreeingAnswers env) (writesIn Call.noWrite)
      (fun _ => True) Edit.Agrees := by
  unfold editState
  split
  · exact Call.every_pure h
  · rename_i newState _
    refine Call.every_ite (fun _ => Call.every_pure h) fun _ => ?_
    refine Call.every_ite (fun hclosed => ?_) fun hopen => ?_
    · refine Call.every_bind (Q := fun t => isZero t = false)
        (Call.every_perform trivial ?_) fun t ht => ?_
      · rintro t ⟨n, rfl⟩
        exact hclock n
      · refine Call.every_pure ⟨fun _ => hclosed, fun _ => ?_⟩
        change (timeToNullFloat t).isSome = true
        rw [timeToNullFloat, ht]
        rfl
    · exact Call.every_pure ⟨fun h => (nomatch h), fun h => absurd h hopen⟩

theorem every_editOutcome_agrees (allOutcomes : List (Int × String)) (h : ed.Agrees) :
    (editOutcome inc stored allOutcomes ed).Every (agreeingAnswers env) (writesIn Call.noWrite)
      (fun _ => True) Edit.Agrees := by
  unfold editOutcome
  split
  · exact Call.every_pure h
  · refine Call.every_ite (fun _ => ?_) fun _ => ?_
    · exact Call.every_ite (fun _ => Call.every_pure h) fun _ => Call.every_pure h
    · refine Call.every_ite (fun _ => Call.every_pure h) fun _ => ?_
      split
      · exact Call.every_throw trivial
      · exact Call.every_pure h

theorem every_editArea_agrees (e : Int) (h : ed.Agrees) :
    (editArea inc stored e ed).Every (agreeingAnswers env) (writesIn Call.noWrite)
      (fun _ => True) Edit.Agrees := by
  unfold editArea
  split
  · exact Call.every_pure h
  · refine Call.every_ite (fun _ => ?_) fun _ => ?_
    · exact Call.every_ite (fun _ => Call.every_pure h) fun _ => Call.every_pure h
    · refine Call.every_ite (fun _ => Call.every_pure h) fun _ => ?_
      exact Call.every_bind (within_select _ _ _) fun _ _ => Call.every_pure h

theorem every_scalarEdits_agrees (hclock : ∀ n, isZero (env.answer n .now) = false) (s : Service)
    (inc : IncidentJSON) (st : LoadedIncident) (author : Int) (admin : Bool)
    (h : ClosingAgrees st.row.incident.closed st.row.incident.state) :
    (scalarEdits s inc st author admin).Every (agreeingAnswers env) (writesIn Call.noWrite)
      (fun _ => True) Edit.Agrees := by
  have hstored : (Edit.ofStored st.row.incident).Agrees := h
  refine Call.every_bind (every_editPrivacy_agrees author admin hstored) fun ed hed => ?_
  refine Call.every_bind (every_editState_agrees hclock (agrees_editPriority hed)) fun ed hed => ?_
  refine Call.every_bind (every_editOutcome_agrees st.allOutcomes hed) fun ed hed => ?_
  exact every_editArea_agrees st.row.event (agrees_editBooth (agrees_editDescription
    (agrees_editSummary (agrees_editStarted s hed))))

/-- The stored row an update starts from agrees. -/
theorem every_loadIncident_agrees (inc : IncidentJSON) :
    (loadIncident inc).Every (agreeingAnswers env) (writesIn Call.noWrite) (fun _ => True)
      fun st => ClosingAgrees st.row.incident.closed st.row.incident.state := by
  have hrow : (select .pool (.incident inc.eventID inc.number)
      (HTTPError.internalServerError "Failed to fetch incident")).Every (agreeingAnswers env)
      (writesIn Call.noWrite) (fun _ => True)
      fun row => ClosingAgrees row.incident.closed row.incident.state := by
    refine every_select trivial (fun _ => trivial) fun row hrow => ?_
    obtain ⟨db, hsound, heval⟩ := hrow row rfl
    change (Read.incident inc.eventID inc.number).eval db = .ok row at heval
    rw [Read.eval, DB.one_eq_ok, Option.map_eq_some_iff] at heval
    obtain ⟨i, hi, rfl⟩ := heval
    exact hsound _ _ i hi
  refine Call.every_bind hrow fun row hrow => ?_
  refine Call.every_bind (within_select _ _ _) fun events _ => ?_
  refine Call.every_bind (Q := fun _ => True) ?_ fun types _ => ?_
  · exact Call.every_ite (fun _ => within_select _ _ _) fun _ => within_pure _
  refine Call.every_bind (Q := fun _ => True) ?_ fun outcomes _ => ?_
  · exact Call.every_ite (fun _ => within_select _ _ _) fun _ => within_pure _
  exact Call.every_bind (within_select _ _ _) fun linked _ => Call.every_pure hrow

theorem onlyWrites_of_noWrite {W : Conn → ∀ β : Type, Write β → Prop} {β : Type} (o : Op β)
    (h : writesIn Call.noWrite β o) : onlyWrites W β o := by
  cases o with
  | write c q => exact h.elim
  | _ => trivial

/-- A part that writes nothing. -/
theorem every_agreeing_of_noWrite {ε α : Type} {x : Go ε α} {E : ε → Prop} {Q : α → Prop}
    (hx : x.Every (agreeingAnswers env) (writesIn Call.noWrite) E Q) :
    x.Every (agreeingAnswers env) (onlyWrites writesAgreeing) E Q :=
  hx.mono (fun _ _ _ h => h) (fun _ o h => onlyWrites_of_noWrite o h) (fun _ h => h) fun _ h => h

/-- The writes that follow the one of the row leave the rows alone. -/
theorem every_reconcileAll_agreeing (s : Service) (inc : IncidentJSON) (st : LoadedIncident)
    (author : Int) (logs : List JournalLine) :
    (reconcileAll s inc st author logs).Every (agreeingAnswers env) (onlyWrites writesAgreeing)
      (fun _ => True) fun _ => True := by
  have hpermits : PermitsUpdate writesAgreeing inc st :=
    ⟨⟨fun _ => trivial, fun _ _ => trivial, fun _ => trivial⟩, fun _ => trivial, fun _ _ _ => trivial,
      fun _ => trivial, fun _ => trivial, fun _ _ => trivial, fun _ _ => trivial,
      fun _ _ _ => trivial, fun _ _ => ⟨trivial, trivial, fun _ => trivial⟩,
      fun _ _ => ⟨trivial, trivial, fun _ => trivial⟩⟩
  refine (every_reconcileAll (T := fun _ => True) hpermits (fun _ => trivial) s author logs).mono
    (fun _ _ _ h => h) (fun _ o h => ?_) (fun _ h => h) fun _ h => h
  cases o with
  | write c q => exact h
  | _ => trivial

theorem every_updateIncident_agreeing (hclock : ∀ n, isZero (env.answer n .now) = false)
    (s : Service) (inc : IncidentJSON) (author : Int) (admin : Bool) :
    (updateIncident s inc author admin).Every (agreeingAnswers env) (onlyWrites writesAgreeing)
      (fun _ => True) fun _ => True := by
  refine Call.every_bind (every_agreeing_of_noWrite (every_loadIncident_agrees inc)) fun st hst => ?_
  refine Call.every_bind (Q := fun _ => True) (Call.every_mapErr (Call.every_attempt trivial
    (fun _ _ => trivial) fun _ _ => trivial)) fun _ _ => ?_
  refine Call.every_deferRollback trivial ?_
  refine Call.every_bind (Q := fun _ => True) ?_ fun touched _ =>
    every_agreeing_of_noWrite (every_announceUpdate inc st author touched)
  refine Call.every_bind (every_agreeing_of_noWrite
    (every_scalarEdits_agrees hclock s inc st author admin hst)) fun ed hed => ?_
  refine Call.every_bind (Q := fun _ => True)
    (every_exec hed (fun _ => trivial) fun _ _ => trivial) fun _ _ => ?_
  refine Call.every_bind (every_reconcileAll_agreeing s inc st author _) fun touched _ => ?_
  refine Call.every_bind (Q := fun _ => True) (Call.every_mapErr (Call.every_attempt trivial
    (fun _ _ => trivial) fun _ _ => trivial)) fun _ _ => ?_
  exact Call.every_pure trivial

theorem IncidentCall.every_agreeing (hclock : ∀ n, isZero (env.answer n .now) = false)
    (s : Service) : ∀ c : IncidentCall, (c.call s).Every (agreeingAnswers env)
      (onlyWrites writesAgreeing) (fun _ => True) fun _ => True
  | .create caller req => by
      refine Call.every_bind (Q := fun _ => True) (x := createIncident s caller req) ?_ fun _ _ =>
        Call.every_pure trivial
      refine Call.every_bind (every_agreeing_of_noWrite (within_authenticated caller))
        fun claims _ => ?_
      refine Call.every_bind (every_agreeing_of_noWrite (within_fetchEvent _)) fun ev _ => ?_
      refine Call.every_bind (every_agreeing_of_noWrite (within_permissionsAt _ _)) fun _ _ => ?_
      refine Call.every_bind (every_agreeing_of_noWrite (within_ensure _ _)) fun _ _ => ?_
      refine Call.every_bind (every_agreeing_of_noWrite (within_select _ _ _)) fun n _ => ?_
      refine Call.every_bind (every_agreeing_of_noWrite within_now) fun created _ => ?_
      refine Call.every_bind (Q := fun _ => True)
        (every_exec rfl (fun _ => trivial) fun _ _ => trivial) fun _ _ => ?_
      refine Call.every_bind (Call.every_mapErr (every_updateIncident_agreeing hclock s _ _ _))
        fun _ _ => ?_
      refine Call.every_bind (every_agreeing_of_noWrite (within_emit _)) fun _ _ => ?_
      exact Call.every_pure trivial
  | .update caller req => by
      refine Call.every_bind (every_agreeing_of_noWrite (within_authenticated caller))
        fun claims _ => ?_
      refine Call.every_bind (every_agreeing_of_noWrite (within_fetchEvent _)) fun ev _ => ?_
      refine Call.every_bind (every_agreeing_of_noWrite (within_permissionsAt _ _)) fun _ _ => ?_
      refine Call.every_bind (every_agreeing_of_noWrite (within_requireWriteOrGrant _ _ _))
        fun _ _ => ?_
      refine Call.every_bind (every_agreeing_of_noWrite (within_requireIncidentVisible _ _ _))
        fun _ _ => ?_
      refine Call.every_bind (Call.every_mapErr (every_updateIncident_agreeing hclock s _ _ _))
        fun _ _ => ?_
      exact every_agreeing_of_noWrite (within_emit _)

end Contracts

/-- **An incident has a closing time exactly when it is closed**, after every run of creations and
updates, as long as the clock never shows the zero time. -/
theorem closing_of_run {ι : Type} [DecidableEq ι] (s : Service) (env : ImsEnv)
    (hclock : ∀ n, isZero (env.answer n .now) = false) (calls : ι → IncidentCall) (w : ImsWorld)
    (htxn : w.txn = none) (hsound : ClosingSound w.db) {as : List ι}
    {sys : Sys Read Write Ask SqlErr Effect DB (Except ConnectError Unit) ι}
    (hr : Run (Sys.turn imsDB env) (incidentSys s calls w) as sys) (e n : Int) (i : Incident)
    (hi : sys.world.db.incident.find? (e, n) = some i) :
    i.closed.isSome = true ↔ i.state = .stateClosed := by
  have hstart : (incidentSys s calls w).world.Holds ClosingSound ClosingSound :=
    ⟨hsound, fun db h => by rw [incidentSys, htxn] at h; cases h⟩
  have hprocs : ∀ i, ((incidentSys s calls w).procs i).Every (answersIn imsDB env ClosingSound)
      (onlyWrites writesAgreeing) (Call.Outcome (fun _ => True) fun _ => True) :=
    fun i => Prog.Every.mono (fun _ _ _ h => answersFrom_of_answersIn h) (fun _ _ h => h)
      (fun _ h => h) ((calls i).every_agreeing hclock s)
  have hend := holds_of_run (fun _ _ _ _ _ _ _ hq hs h => closingSound_apply hq hs h) hprocs
    hstart hr
  exact hend.1 e n i hi

/-- One editor closes incident 1, another changes its summary. -/
def closeWhileEdited (first : Bool) : IncidentCall :=
  .update (some ⟨7, "hub", true⟩)
    { eventId := 1
      incidentNumber := 1
      update := some (if first then { state := .stateClosed } else { summary := some "found" }) }

/-- The editor writes the open row back over the closed one: the two columns go back together. -/
theorem closing_of_run_reopened : ∃ sys i,
    Run (Sys.turn imsDB stillEnv)
      (incidentSys {} closeWhileEdited { db := twoIncidentsDB, nextId := 1 })
      (List.replicate 6 true ++ List.replicate 6 false ++ [true, false]) sys ∧
    sys.world.db.incident.find? (1, 1) = some i ∧ i.state = .stateOpen ∧
    (i.closed.isSome = true ↔ i.state = .stateClosed) := by
  have hrun : (RunLib.exec (Sys.turn imsDB stillEnv)
      (incidentSys {} closeWhileEdited { db := twoIncidentsDB, nextId := 1 })
      (List.replicate 6 true ++ List.replicate 6 false ++ [true, false])).map
      (fun sys => (sys.world.db.incident.find? (1, 1)).map fun i => (i.state, i.summary)) =
        some (some (.stateOpen, some "found")) := by decide
  obtain ⟨sys, hsys, hrow⟩ := Option.map_eq_some_iff.mp hrun
  obtain ⟨i, hi, hstate⟩ := Option.map_eq_some_iff.mp hrow
  rw [Prod.mk.injEq] at hstate
  have hsound : ClosingSound twoIncidentsDB := by
    intro e n i hi
    have hmem := Table.find?_eq_some_iff.mp hi
    rcases List.mem_cons.mp hmem with h | h
    · cases h
      exact ⟨fun h => (nomatch h), fun h => (nomatch h)⟩
    · cases List.mem_singleton.mp h
      exact ⟨fun h => (nomatch h), fun h => (nomatch h)⟩
  exact ⟨sys, i, run_of_exec hsys, hi, hstate.1,
    closing_of_run {} stillEnv (fun _ => rfl) closeWhileEdited _ rfl hsound (run_of_exec hsys) 1 1 i
      hi⟩

end OcfIms
