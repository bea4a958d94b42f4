import OcfIms.ReportWrite

/-!
# What the gates answer

The preamble and the gates of the methods as functions of the database, where no statement fails
from outside: which mask a caller has, when an incident is visible, when a report may be written.
Every later argument about who may do what starts from these.
-/

namespace OcfIms

open TxnLib

section

variable {env : ImsEnv} {db : DB}

theorem answers_authenticated (claims : IMSClaims) :
    (authenticated (some claims)).Answers imsDB env db (.ok claims) :=
  Call.answers_pure claims

theorem reads_fetchEvent {e : Int} {ev : Event} (hev : db.event.find? e = some ev) :
    (fetchEvent e).Reads imsDB env db (.ok ⟨e, ev⟩) 1 := by
  have h : (fetchEvent e).Reads imsDB env db _ 1 := reads_select (.event e) _
  rw [Read.eval, hev] at h
  exact h

theorem reads_fetchEvent_none {e : Int} (hev : db.event.find? e = none) :
    (fetchEvent e).Reads imsDB env db (.error ⟨.notFound, "event not found"⟩) 1 := by
  have h : (fetchEvent e).Reads imsDB env db _ 1 := reads_select (.event e) _
  rw [Read.eval, hev] at h
  exact h

theorem answers_fetchEvent (hq : env.Quiet) {e : Int} {ev : Event}
    (hev : db.event.find? e = some ev) :
    (fetchEvent e).Answers imsDB env db (.ok ⟨e, ev⟩) :=
  (reads_fetchEvent hev).answers hq

theorem reads_permissionsAt (e : Int) (claims : IMSClaims) :
    (permissionsAt e claims).Reads imsDB env db (.ok (eventMaskIn db e claims))
      (1 + crewStatements db e claims) := by
  refine Call.Reads.bind (l := 0) ((reads_eventPermissions e claims).mapErr _) ?_
  simp only [eventMasks_get_singleton]
  exact Call.reads_pure _

theorem answers_permissionsAt (hq : env.Quiet) (e : Int) (claims : IMSClaims) :
    (permissionsAt e claims).Answers imsDB env db (.ok (eventMaskIn db e claims)) :=
  (reads_permissionsAt e claims).answers hq

theorem answers_checkGrant (hq : env.Quiet) (e n person : Int) :
    (checkGrant e n person).Answers imsDB env db (.ok (db.hasGrant e n person)) :=
  answers_select hq (.incidentPersonHasGrant e n person) _

/-- `Call.ensure` followed by more: the condition decides which. -/
theorem answers_ensure_bind {ε α : Type} {c : Bool} {err : ε} {f : Unit → Go ε α}
    {r : Except ε α} (h : (f ()).Answers imsDB env db r) :
    (Call.ensure c err >>= f).Answers imsDB env db (if c then r else .error err) := by
  cases c with
  | true => exact (Call.answers_ensure true err).bind h
  | false => exact (Call.answers_ensure false err).bind_error

/-- An admin reads incidents everywhere. -/
theorem readIncidents_of_admin {claims : IMSClaims} (ha : claims.admin = true) (e : Int) :
    hasBit (eventMaskIn db e claims) eventReadIncidents = true := by
  rw [eventMaskIn, if_pos ha]
  decide

theorem writeIncidents_of_admin {claims : IMSClaims} (ha : claims.admin = true) (e : Int) :
    hasBit (eventMaskIn db e claims) eventWriteIncidents = true := by
  rw [eventMaskIn, if_pos ha]
  decide

/-- Whether the caller may view the incident, by the rule of `mayViewIncident`. -/
def mayView (db : DB) (claims : IMSClaims) (e n : Int) (i : Incident) : Bool :=
  mayViewIncident i.isPrivate i.createdBy claims.personID claims.admin
    (hasBit (eventMaskIn db e claims) eventReadIncidents) (db.hasGrant e n claims.personID)

/-- The privacy gate of the writes lets the caller pass. -/
def incidentVisible (db : DB) (claims : IMSClaims) (e n : Int) (i : Incident) : Bool :=
  !i.isPrivate || claims.admin || i.createdBy == some claims.personID ||
    db.hasGrant e n claims.personID

theorem answers_requireIncidentVisible (hq : env.Quiet) (claims : IMSClaims) {e n : Int}
    {i : Incident} (hi : db.incident.find? (e, n) = some i) :
    (requireIncidentVisible e n claims).Answers imsDB env db
      (if incidentVisible db claims e n i then .ok ()
      else .error ⟨.notFound, "incident not found"⟩) := by
  have hrow : (select .pool (.incident e n) (fun err =>
      if err = .noRows then (⟨.notFound, "incident not found"⟩ : ConnectError)
      else internalError "failed to fetch incident" err)).Answers imsDB env db _ :=
    answers_select hq (.incident e n) _
  rw [Read.eval, hi] at hrow
  refine hrow.bind ?_
  show (if i.isPrivate = true then _ else _ : Go ConnectError Unit).Answers imsDB env db _
  unfold incidentVisible
  cases i.isPrivate with
  | false => exact Call.answers_pure ()
  | true =>
      refine (answers_checkGrant hq e n claims.personID).bind ?_
      exact Call.answers_ensure _ _

theorem answers_requireIncidentVisible_none (hq : env.Quiet) (claims : IMSClaims) {e n : Int}
    (hi : db.incident.find? (e, n) = none) :
    (requireIncidentVisible e n claims).Answers imsDB env db
      (.error ⟨.notFound, "incident not found"⟩) := by
  have hrow : (select .pool (.incident e n) (fun err =>
      if err = .noRows then (⟨.notFound, "incident not found"⟩ : ConnectError)
      else internalError "failed to fetch incident" err)).Answers imsDB env db _ :=
    answers_select hq (.incident e n) _
  rw [Read.eval, hi] at hrow
  exact hrow.bind_error

/-- The error of a caller who may not write to an incident. -/
def writeRefusal (db : DB) (claims : IMSClaims) (e n : Int) : ConnectError :=
  ⟨.permissionDenied, if db.hasGrant e n claims.personID then
      "a granted reporter may only add journal entries to this incident"
    else "the requestor does not have EventWriteIncidents permission for this Event"⟩

/-- The write bit, or a grant and a payload that only appends to the journal. -/
def mayWriteIncident (db : DB) (claims : IMSClaims) (e n : Int) (inc : IncidentJSON) : Bool :=
  hasBit (eventMaskIn db e claims) eventWriteIncidents ||
    (db.hasGrant e n claims.personID && isJournalOnly inc)

theorem answers_requireWriteOrGrant (hq : env.Quiet) (claims : IMSClaims) {e n : Int}
    {inc : IncidentJSON} (he : inc.eventID = e) (hn : inc.number = n) :
    (requireWriteOrGrant (eventMaskIn db e claims) inc claims.personID).Answers imsDB env db
      (if mayWriteIncident db claims e n inc then .ok ()
      else .error (writeRefusal db claims e n)) := by
  subst he hn
  unfold requireWriteOrGrant mayWriteIncident writeRefusal
  cases hasBit (eventMaskIn db inc.eventID claims) eventWriteIncidents with
  | true => exact Call.answers_pure ()
  | false =>
      refine (answers_checkGrant hq inc.eventID inc.number claims.personID).bind ?_
      cases db.hasGrant inc.eventID inc.number claims.personID with
      | false => exact (Call.answers_ensure false _).bind_error
      | true => exact (Call.answers_ensure true _).bind (Call.answers_ensure _ _)

/-- The payload of an update, as the shared write path is handed it. -/
def updatePayload (ev : Event) (e n : Int) (u : Option IncidentUpdate) : IncidentJSON :=
  { incidentUpdateToJSON u with event := ev.name, eventID := e, number := n }

/-- The gates of `UpdateIncident`: the write bit or a grant, then privacy. -/
def updateGate (db : DB) (claims : IMSClaims) (e n : Int) (inc : IncidentJSON) :
    Except ConnectError Unit :=
  if mayWriteIncident db claims e n inc then
    match db.incident.find? (e, n) with
    | none => .error ⟨.notFound, "incident not found"⟩
    | some i => if incidentVisible db claims e n i then .ok ()
      else .error ⟨.notFound, "incident not found"⟩
  else .error (writeRefusal db claims e n)

theorem answers_visibility (hq : env.Quiet) (claims : IMSClaims) (e n : Int) :
    (requireIncidentVisible e n claims).Answers imsDB env db
      (match db.incident.find? (e, n) with
        | none => .error ⟨.notFound, "incident not found"⟩
        | some i => if incidentVisible db claims e n i then .ok ()
          else .error ⟨.notFound, "incident not found"⟩) := by
  cases hi : db.incident.find? (e, n) with
  | none => exact answers_requireIncidentVisible_none hq claims hi
  | some i => exact answers_requireIncidentVisible hq claims hi

/-- A caller the gates turn away is answered so. -/
theorem answers_updateIncidentRPC_refused (hq : env.Quiet) (s : Service) (claims : IMSClaims)
    {e n : Int} {ev : Event} (hev : db.event.find? e = some ev) {u : Option IncidentUpdate}
    {err : ConnectError} (hgate : updateGate db claims e n (updatePayload ev e n u) = .error err) :
    (updateIncidentRPC s (some claims) ⟨e, n, u⟩).Answers imsDB env db (.error err) := by
  have hwrite : (requireWriteOrGrant _ (updatePayload ev e n u) _).Answers imsDB env db _ :=
    answers_requireWriteOrGrant (e := e) (n := n) hq claims rfl rfl
  refine (answers_authenticated claims).bind ?_
  refine (answers_fetchEvent hq hev).bind ?_
  refine (answers_permissionsAt hq e claims).bind ?_
  unfold updateGate at hgate
  cases hmay : mayWriteIncident db claims e n (updatePayload ev e n u) with
  | false =>
      rw [hmay] at hgate hwrite
      rw [if_neg Bool.false_ne_true] at hgate hwrite
      rw [← hgate]
      exact hwrite.bind_error
  | true =>
      rw [hmay] at hgate hwrite
      rw [if_pos rfl] at hgate hwrite
      refine hwrite.bind ?_
      have hvisible : (requireIncidentVisible e n claims).Answers imsDB env db _ :=
        answers_visibility hq claims e n
      rw [hgate] at hvisible
      exact hvisible.bind_error

/-- Past the gates, the rest of the update runs in the same store. -/
theorem run_updateIncidentRPC (hq : env.Quiet) (s : Service) (claims : IMSClaims) {w : ImsWorld}
    {e n : Int} {ev : Event} (hev : w.db.event.find? e = some ev) {u : Option IncidentUpdate}
    (hgate : updateGate w.db claims e n (updatePayload ev e n u) = .ok ()) :
    ∃ t, (updateIncidentRPC s (some claims) ⟨e, n, u⟩).run imsDB env w =
      (Call.mapErr herrToConnect (updateIncident s (updatePayload ev e n u) claims.personID
        claims.admin) >>= fun _ => emit (.invalidateEvent ev.name)).run imsDB env
          { w with tick := t } := by
  have hwrite : (requireWriteOrGrant _ (updatePayload ev e n u) _).Answers imsDB env w.db _ :=
    answers_requireWriteOrGrant (e := e) (n := n) hq claims rfl rfl
  have hvisible : (requireIncidentVisible e n claims).Answers imsDB env w.db _ :=
    answers_visibility hq claims e n
  unfold updateGate at hgate
  cases hmay : mayWriteIncident w.db claims e n (updatePayload ev e n u) with
  | false =>
      rw [hmay, if_neg Bool.false_ne_true] at hgate
      cases hgate
  | true =>
      rw [hmay, if_pos rfl] at hgate hwrite
      rw [hgate] at hvisible
      obtain ⟨t₁, h₁⟩ := (answers_fetchEvent hq hev).run_bind (w := w) rfl
      obtain ⟨t₂, h₂⟩ := (answers_permissionsAt hq e claims).run_bind
        (w := { w with tick := t₁ }) rfl
      obtain ⟨t₃, h₃⟩ := hwrite.run_bind (w := { w with tick := t₂ }) rfl
      obtain ⟨t₄, h₄⟩ := hvisible.run_bind (w := { w with tick := t₃ }) rfl
      exact ⟨t₄, (h₁.trans h₂).trans (h₃.trans h₄)⟩

end

end OcfIms
