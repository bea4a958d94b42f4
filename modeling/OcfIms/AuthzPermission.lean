import OcfIms.Server

/-!
# Permissions

`lib/authz/permission.go`: the permission bits, the mask each participation tier grants, and the two
ways a caller's masks are computed. `eventPermissions` resolves one event and is what every method
gates on; `permissionsByEvent` assembles the masks of all events at once, to filter the list of
events and to redact the summaries of linked incidents.

On the events it has a mask for, the bulk computation agrees with the single one unless the caller
leads a crew: the crew-leader role is derived from crew leadership in `eventPermissions` only.
-/

namespace OcfIms

open TxnLib

abbrev EventPermissionMask : Type := BitVec 16
abbrev GlobalPermissionMask : Type := BitVec 16

def eventNoPermissions : EventPermissionMask := 0
def eventReadIncidents : EventPermissionMask := 1 <<< 0
def eventWriteIncidents : EventPermissionMask := 1 <<< 1
def eventReadAllReports : EventPermissionMask := 1 <<< 2
def eventReadOwnReports : EventPermissionMask := 1 <<< 3
def eventWriteAllReports : EventPermissionMask := 1 <<< 4
def eventWriteOwnReports : EventPermissionMask := 1 <<< 5
def eventReadEventName : EventPermissionMask := 1 <<< 6
def eventReadVisits : EventPermissionMask := 1 <<< 7
def eventWriteVisits : EventPermissionMask := 1 <<< 8
def eventReadAreas : EventPermissionMask := 1 <<< 9
def eventInviteReporters : EventPermissionMask := 1 <<< 10
def eventReadCrewReports : EventPermissionMask := 1 <<< 11

def eventAllPermissions : EventPermissionMask :=
  eventReadIncidents ||| eventWriteIncidents ||| eventReadAllReports ||| eventReadOwnReports |||
  eventWriteAllReports ||| eventWriteOwnReports ||| eventReadEventName ||| eventReadVisits |||
  eventWriteVisits ||| eventReadAreas ||| eventInviteReporters ||| eventReadCrewReports

def globalListEvents : GlobalPermissionMask := 1 <<< 0
def globalReadIncidentTypes : GlobalPermissionMask := 1 <<< 1
def globalReadPersonnel : GlobalPermissionMask := 1 <<< 2
def globalAdministrateEvents : GlobalPermissionMask := 1 <<< 3
def globalAdministrateIncidentTypes : GlobalPermissionMask := 1 <<< 4
def globalAdministrateDebugging : GlobalPermissionMask := 1 <<< 5
def globalAdministratePersonnel : GlobalPermissionMask := 1 <<< 6
def globalAdministrateAreas : GlobalPermissionMask := 1 <<< 7
def globalReadOutcomes : GlobalPermissionMask := 1 <<< 8
def globalAdministrateOutcomes : GlobalPermissionMask := 1 <<< 9
def globalAdministrateCrews : GlobalPermissionMask := 1 <<< 10

/-- `perms & bits != 0`. -/
def hasBit (perms bits : EventPermissionMask) : Bool := perms &&& bits != 0

theorem hasBit_or (perms a b : EventPermissionMask) :
    hasBit perms (a ||| b) = (hasBit perms a || hasBit perms b) := by
  have h : perms &&& (a ||| b) = 0#16 ↔ perms &&& a = 0#16 ∧ perms &&& b = 0#16 := by
    rw [BitVec.and_or_distrib_left, BitVec.or_eq_zero_iff]
  rw [Bool.eq_iff_iff]
  simp only [hasBit, Bool.or_eq_true, bne_iff_ne, ne_eq]
  exact (not_congr h).trans not_and_or

inductive Role
  | anyAuthenticatedUser
  | eventReporter
  | eventWriter
  | administrator
  deriving DecidableEq, Repr

def rolesToGlobalPerms : Role → GlobalPermissionMask
  | .anyAuthenticatedUser =>
    globalListEvents ||| globalReadIncidentTypes ||| globalReadPersonnel ||| globalReadOutcomes
  | .administrator =>
    globalAdministrateEvents ||| globalAdministrateIncidentTypes ||| globalAdministrateDebugging |||
    globalAdministratePersonnel ||| globalAdministrateAreas ||| globalAdministrateOutcomes |||
    globalAdministrateCrews
  | _ => 0

def rolesToEventPerms : Role → EventPermissionMask
  | .eventReporter =>
    eventReadEventName ||| eventReadOwnReports ||| eventWriteOwnReports ||| eventReadAreas
  | .eventWriter =>
    eventReadEventName ||| eventReadIncidents ||| eventWriteIncidents ||| eventReadAllReports |||
    eventReadOwnReports ||| eventWriteAllReports ||| eventWriteOwnReports ||| eventReadVisits |||
    eventWriteVisits ||| eventReadAreas ||| eventInviteReporters
  | _ => 0

def crewLeaderMask : EventPermissionMask :=
  eventReadEventName ||| eventReadOwnReports ||| eventWriteOwnReports ||| eventReadAreas |||
  eventInviteReporters ||| eventReadIncidents ||| eventReadCrewReports

/-- The mask of a participation tier; `none` is the empty tier of a person without a row. -/
def participationToEventPerms : Option ParticipationType → EventPermissionMask
  | some .writer => rolesToEventPerms .eventWriter
  | some .crewLeader => crewLeaderMask
  | some .reporter => rolesToEventPerms .eventReporter
  | _ => eventNoPermissions

/-- Masks by event. An event without an entry has mask 0, as a missing key of a Go map. -/
abbrev EventMasks : Type := List (Int × EventPermissionMask)

def EventMasks.get (m : EventMasks) (eventID : Int) : EventPermissionMask :=
  (m.lookup eventID).getD 0

def globalPermissions (handle : String) (isAdmin : Bool) : GlobalPermissionMask :=
  (if handle ≠ "" then rolesToGlobalPerms .anyAuthenticatedUser else 0) |||
  (if isAdmin then rolesToGlobalPerms .administrator else 0)

def manyEventPermissions (participationByEvent : List (Int × Option ParticipationType))
    (handle : String) (isAdmin : Bool) : EventMasks × GlobalPermissionMask :=
  (participationByEvent.map fun p =>
      (p.1, if isAdmin then eventAllPermissions else participationToEventPerms p.2),
    globalPermissions handle isAdmin)

/-- The caller's tier at an event; a missing row is no error. -/
def participationAt (e : Int) (claims : IMSClaims) : Go SqlErr (Option ParticipationType) := do
  match ← Call.result (select .pool (.personEvent claims.personID e) id) with
  | .ok pe => pure (some pe.participationType)
  | .error .noRows => pure none
  | .error err => throw err

/-- Derive the crew-leader role: a non-admin who cannot read incidents yet and leads a crew of the
event gets the crew-leader mask on top. -/
def deriveCrewLeader (e : Int) (claims : IMSClaims) (perms : EventMasks) : Go SqlErr EventMasks :=
  if !claims.admin && !hasBit (perms.get e) eventReadIncidents then do
    let ledCrews ← select .pool (.crewsLedByPerson e claims.personID) id
    if ledCrews.isEmpty then pure perms else pure [(e, perms.get e ||| crewLeaderMask)]
  else pure perms

def eventPermissions (eventID : Option Int) (claims : IMSClaims) :
    Go SqlErr (EventMasks × GlobalPermissionMask) := do
  match eventID with
  | none => pure (manyEventPermissions [] claims.handle claims.admin)
  | some e =>
    let participation ← participationAt e claims
    let perms := manyEventPermissions [(e, participation)] claims.handle claims.admin
    let masks ← deriveCrewLeader e claims perms.1
    pure (masks, perms.2)

/-- `server.PermissionsByEvent`. -/
def permissionsByEvent (claims : IMSClaims) : Go HTTPError EventMasks := do
  if claims.admin then
    let events ← select .pool .events (.internalServerError "Failed to fetch Events")
    pure (events.map fun e => (e.id, eventAllPermissions))
  else
    let rows ← select .pool (.personEventsForPerson claims.personID)
      (.internalServerError "Failed to fetch participation")
    pure (manyEventPermissions (rows.map fun r => (r.1, some r.2)) claims.handle false).1

/-! ## Masks as functions of the database -/

/-- The caller's participation tier at an event. -/
def participationIn (db : DB) (e person : Int) : Option ParticipationType :=
  (db.personEvent.find? (person, e)).map (·.participationType)

/-- The mask `eventPermissions` computes for an event. -/
def eventMaskIn (db : DB) (e : Int) (claims : IMSClaims) : EventPermissionMask :=
  if claims.admin then eventAllPermissions
  else
    let mask := participationToEventPerms (participationIn db e claims.personID)
    if !hasBit mask eventReadIncidents && !(db.crewsLedBy e claims.personID).isEmpty
    then mask ||| crewLeaderMask else mask

/-- The masks `permissionsByEvent` computes. -/
def bulkMasksIn (db : DB) (claims : IMSClaims) : EventMasks :=
  if claims.admin then db.event.rows.map fun r => (r.1, eventAllPermissions)
  else (db.personEvent.rows.filterMap fun r =>
      if r.1.1 = claims.personID then some (r.1.2, r.2.participationType) else none).map
    fun r => (r.1, participationToEventPerms (some r.2))

section

variable {env : ImsEnv} {db : DB}

theorem answers_select {ε α : Type} (hq : env.Quiet) (q : Read α) (err : SqlErr → ε) :
    (select .pool q err).Answers imsDB env db ((q.eval db).mapError err) :=
  (Call.answers_read hq q).mapErr err

@[simp] theorem eventMasks_get_singleton (e : Int) (m : EventPermissionMask) :
    EventMasks.get [(e, m)] e = m := by
  simp [EventMasks.get]

theorem reads_select {ε α : Type} (q : Read α) (err : SqlErr → ε) :
    (select .pool q err).Reads imsDB env db ((q.eval db).mapError err) 1 :=
  (Call.reads_read q).mapErr err

theorem reads_participationAt (e : Int) (claims : IMSClaims) :
    (participationAt e claims).Reads imsDB env db
      (.ok (participationIn db e claims.personID)) 1 := by
  refine Call.reads_tried (k := 0) ?_ fun n w => ⟨.mysql n, rfl⟩
  simp only [imsDB, Read.eval, participationIn]
  cases db.personEvent.find? (claims.personID, e) with
  | none => exact Call.reads_pure _
  | some pe => exact Call.reads_pure _

/-- The statements it takes to derive the crew-leader role: none for a caller who reads incidents
anyway. -/
def crewStatements (db : DB) (e : Int) (claims : IMSClaims) : Nat :=
  if claims.admin || hasBit (participationToEventPerms (participationIn db e claims.personID))
    eventReadIncidents then 0 else 1

theorem reads_deriveCrewLeader (e : Int) (claims : IMSClaims) :
    (deriveCrewLeader e claims (manyEventPermissions [(e, participationIn db e claims.personID)]
      claims.handle claims.admin).1).Reads imsDB env db (.ok [(e, eventMaskIn db e claims)])
        (crewStatements db e claims) := by
  simp only [deriveCrewLeader, manyEventPermissions, List.map_cons, List.map_nil,
    eventMasks_get_singleton, eventMaskIn, crewStatements]
  cases hadmin : claims.admin with
  | true => exact Call.reads_pure _
  | false =>
      simp only [Bool.not_false, Bool.true_and, Bool.false_eq_true, if_false, Bool.false_or]
      by_cases hr : hasBit (participationToEventPerms (participationIn db e claims.personID))
        eventReadIncidents = true
      · simp only [hr, Bool.not_true, Bool.false_eq_true, if_false, Bool.false_and, if_true]
        exact Call.reads_pure _
      · simp only [hr, Bool.not_false, if_true, Bool.true_and]
        refine Call.Reads.bind (l := 0) (reads_select _ _) ?_
        cases (db.crewsLedBy e claims.personID).isEmpty with
        | true => exact Call.reads_pure _
        | false => exact Call.reads_pure _

theorem reads_eventPermissions (e : Int) (claims : IMSClaims) :
    (eventPermissions (some e) claims).Reads imsDB env db
      (.ok ([(e, eventMaskIn db e claims)], globalPermissions claims.handle claims.admin))
      (1 + crewStatements db e claims) := by
  refine (reads_participationAt e claims).bind ?_
  refine Call.Reads.bind (l := 0) (reads_deriveCrewLeader e claims) ?_
  exact Call.reads_pure _

theorem answers_eventPermissions (hq : env.Quiet) (e : Int) (claims : IMSClaims) :
    (eventPermissions (some e) claims).Answers imsDB env db
      (.ok ([(e, eventMaskIn db e claims)], globalPermissions claims.handle claims.admin)) :=
  (reads_eventPermissions e claims).answers hq

theorem answers_permissionsByEvent (hq : env.Quiet) (claims : IMSClaims) :
    (permissionsByEvent claims).Answers imsDB env db (.ok (bulkMasksIn db claims)) := by
  simp only [permissionsByEvent, bulkMasksIn]
  cases claims.admin with
  | true =>
      refine (answers_select hq _ _).bind ?_
      simp only [List.map_map]
      exact Call.answers_pure _
  | false =>
      refine (answers_select hq _ _).bind ?_
      simp only [manyEventPermissions, List.map_map]
      exact Call.answers_pure _

/-! ## The bulk masks and the single masks -/

theorem bulkMasksIn_get_of_admin {claims : IMSClaims} (ha : claims.admin = true) {e : Int}
    (he : db.event.contains e = true) : (bulkMasksIn db claims).get e = eventAllPermissions := by
  obtain ⟨ev, hev⟩ := Table.contains_iff.mp he
  simp only [bulkMasksIn, ha, if_true, EventMasks.get]
  rw [db.event.lookup_map_rows (fun _ => eventAllPermissions), hev]
  rfl

theorem bulkMasksIn_get {claims : IMSClaims} (ha : claims.admin = false) (e : Int) :
    (bulkMasksIn db claims).get e =
      participationToEventPerms (participationIn db e claims.personID) := by
  have h := db.personEvent.lookup_section
    (fun pe => participationToEventPerms (some pe.participationType)) claims.personID e
  have hrows : (db.personEvent.rows.filterMap fun r =>
        if r.1.1 = claims.personID then some (r.1.2, r.2.participationType) else none).map
          (fun r => (r.1, participationToEventPerms (some r.2))) =
      db.personEvent.rows.filterMap fun r =>
        if r.1.1 = claims.personID
        then some (r.1.2, participationToEventPerms (some r.2.participationType)) else none := by
    rw [List.map_filterMap]
    congr 1
    funext r
    split <;> rfl
  simp only [bulkMasksIn, ha, Bool.false_eq_true, if_false, EventMasks.get]
  rw [hrows, h, participationIn]
  cases db.personEvent.find? (claims.personID, e) <;> rfl

/-- The tiers that let their holder read incidents. -/
theorem hasBit_participation_readIncidents (p : Option ParticipationType) :
    hasBit (participationToEventPerms p) eventReadIncidents = true ↔
      p = some .writer ∨ p = some .crewLeader := by
  rcases p with _ | _ | _ | _ | _ | _ | _ | _ <;> decide

theorem crewLeaderMask_adds {p : Option ParticipationType}
    (h : hasBit (participationToEventPerms p) eventReadIncidents = false) :
    participationToEventPerms p ≠ participationToEventPerms p ||| crewLeaderMask := by
  revert h
  rcases p with _ | _ | _ | _ | _ | _ | _ | _ <;> decide

/-- The bulk computation has the mask for the event that the methods gate on. -/
def MasksAgree (env : ImsEnv) (w : ImsWorld) (claims : IMSClaims) (e : Int) : Prop :=
  ∃ bulk single glob,
    ((permissionsByEvent claims).run imsDB env w).1 = .ok bulk ∧
      ((eventPermissions (some e) claims).run imsDB env w).1 = .ok (single, glob) ∧
      bulk.get e = single.get e

theorem masksAgree_iff_get (hq : env.Quiet) {w : ImsWorld} {claims : IMSClaims} {e : Int} :
    MasksAgree env w claims e ↔
      (bulkMasksIn w.db claims).get e = eventMaskIn w.db e claims := by
  have hbulk : ((permissionsByEvent claims).run imsDB env w).1 = .ok (bulkMasksIn w.db claims) :=
    (answers_permissionsByEvent hq claims).run_fst rfl
  have hsingle : ((eventPermissions (some e) claims).run imsDB env w).1 =
      .ok ([(e, eventMaskIn w.db e claims)], globalPermissions claims.handle claims.admin) :=
    (answers_eventPermissions hq e claims).run_fst rfl
  constructor
  · rintro ⟨bulk, single, glob, hb, hs, heq⟩
    rw [hbulk, Except.ok.injEq] at hb
    rw [hsingle, Except.ok.injEq, Prod.mk.injEq] at hs
    rw [← hb, ← hs.1] at heq
    simpa using heq
  · intro heq
    exact ⟨_, _, _, hbulk, hsingle, by simpa using heq⟩

/-- The two computations agree exactly for admins, for holders of a tier that reads incidents, and
for everyone who leads no crew of the event. -/
theorem masksAgree_iff (hq : env.Quiet) {w : ImsWorld} {claims : IMSClaims} {e : Int}
    (he : w.db.event.contains e = true) :
    MasksAgree env w claims e ↔
      claims.admin = true ∨
      participationIn w.db e claims.personID = some .writer ∨
      participationIn w.db e claims.personID = some .crewLeader ∨
      w.db.crewsLedBy e claims.personID = [] := by
  rw [masksAgree_iff_get hq]
  cases ha : claims.admin with
  | true =>
      rw [bulkMasksIn_get_of_admin ha he]
      simp [eventMaskIn, ha]
  | false =>
      have hread := hasBit_participation_readIncidents (participationIn w.db e claims.personID)
      rw [bulkMasksIn_get ha]
      simp only [eventMaskIn, ha, Bool.false_eq_true, if_false, false_or]
      cases hr : hasBit (participationToEventPerms (participationIn w.db e claims.personID))
          eventReadIncidents with
      | true =>
          have htier := hread.mp hr
          simp only [Bool.not_true, Bool.false_and, Bool.false_eq_true, if_false, true_iff]
          rcases htier with h | h
          · exact Or.inl h
          · exact Or.inr (Or.inl h)
      | false =>
          have htier : ¬ (participationIn w.db e claims.personID = some .writer ∨
              participationIn w.db e claims.personID = some .crewLeader) := by
            rw [← hread, hr]
            exact Bool.false_ne_true
          rw [not_or] at htier
          cases hc : w.db.crewsLedBy e claims.personID with
          | nil => simp
          | cons slug slugs =>
              simp only [Bool.not_false, Bool.true_and, List.isEmpty_cons, if_true, htier.1,
                htier.2, false_or, reduceCtorEq, iff_false]
              exact crewLeaderMask_adds hr

/-- A volunteer who leads a crew of event 1. -/
def crewLeaderDB : DB :=
  { event := Table.empty.insert 1 { name := "fair" }
    person := Table.empty.insert 7 { handle := some "hub" }
    personEvent := Table.empty.insert (7, 1) { participationType := .volunteer }
    crewMembership := Table.empty.insert (1, "gate", 7) true }

theorem masksAgree_iff_crewLeader :
    ¬ MasksAgree stillEnv { db := crewLeaderDB, nextId := 1 } ⟨7, "hub", false⟩ 1 := by
  rw [masksAgree_iff stillEnv_quiet (by decide)]
  decide

/-- The gates let a crew leader read the event's incidents while the bulk masks do not even let the
caller see the event's name. -/
theorem masks_disagree_for_crewLeader :
    ¬ ∀ (env : ImsEnv) (w : ImsWorld) (claims : IMSClaims) (e : Int), env.Quiet →
      (w.db.event.find? e).any (fun ev => !ev.isGroup) = true → MasksAgree env w claims e := by
  intro h
  have h := h stillEnv { db := crewLeaderDB, nextId := 1 } ⟨7, "hub", false⟩ 1 stillEnv_quiet
    (by decide)
  rw [masksAgree_iff_get stillEnv_quiet] at h
  exact absurd h (by decide)

end

end OcfIms
