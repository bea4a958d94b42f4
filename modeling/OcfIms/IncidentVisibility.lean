import Mathlib
import OcfIms.Contracts

/-!
# Which incidents a caller sees

`GetIncident` and `ListIncidents` against the one rule of `mayViewIncident`, and the flag that tells
a viewer whether they may add to the journal against what `UpdateIncident` lets them do.

The list and the rule agree. The single read refuses, before it looks at the incident, a caller
without event read or grant, and so refuses the creator of a private incident the rule and the other
paths would admit, unless that caller can read the event or was granted access.
-/

namespace OcfIms

open TxnLib

variable {env : ImsEnv} {db : DB} {s : Service} {claims : IMSClaims} {e n : Int} {ev : Event}
  {i : Incident}

/-! ## The single read -/

/-- The bits the single read decides on. -/
structure ReadFacts where
  read : Bool
  write : Bool
  grant : Bool
  admin : Bool
  creator : Bool
  isPrivate : Bool
  deriving DecidableEq

def readFacts (db : DB) (claims : IMSClaims) (e n : Int) (i : Incident) : ReadFacts where
  read := hasBit (eventMaskIn db e claims) eventReadIncidents
  write := hasBit (eventMaskIn db e claims) eventWriteIncidents
  grant := db.hasGrant e n claims.personID
  admin := claims.admin
  creator := i.createdBy == some claims.personID
  isPrivate := i.isPrivate

namespace ReadFacts

/-- The single read goes through. -/
def admits (f : ReadFacts) : Bool :=
  (f.read || f.grant) && (!f.isPrivate || f.grant || f.admin || f.creator)

/-- The single read looked the grant up and found one. -/
def grantSeen (f : ReadFacts) : Bool :=
  f.grant && (!f.read || (f.isPrivate && !f.admin && !f.creator))

end ReadFacts

/-- The event-level gate of the single read. -/
def readGate (f : ReadFacts) : Except ConnectError Bool :=
  if f.read then .ok false
  else if f.grant then .ok true
  else .error ⟨.permissionDenied,
    "the requestor does not have EventReadIncidents permission on this Event"⟩

theorem answers_requireReadOrGrant (hq : env.Quiet) (person : Int) {f : ReadFacts}
    (hgrant : f.grant = db.hasGrant e n person) :
    (requireReadOrGrant f.read e n person).Answers imsDB env db (readGate f) := by
  unfold requireReadOrGrant readGate
  cases f.read with
  | true => exact Call.answers_pure false
  | false =>
      refine (answers_checkGrant hq e n person).bind ?_
      rw [hgrant]
      cases db.hasGrant e n person with
      | true => exact (Call.answers_ensure true _).bind (Call.answers_pure true)
      | false => exact (Call.answers_ensure false _).bind_error

/-- The privacy rule of the single read, given the grant its first gate found. -/
def privateAccess (f : ReadFacts) (granted : Bool) : Except ConnectError Bool :=
  if f.isPrivate && !granted && !f.admin && !f.creator then
    if f.grant then .ok true else .error ⟨.notFound, "incident not found"⟩
  else .ok granted

theorem answers_requirePrivateAccess (hq : env.Quiet) (claims : IMSClaims) (e n : Int)
    (i : Incident) (granted : Bool) :
    (requirePrivateAccess (db.incidentRow e n i) granted claims).Answers imsDB env db
      (privateAccess (readFacts db claims e n i) granted) := by
  unfold requirePrivateAccess privateAccess
  by_cases h : (i.isPrivate && !granted && !claims.admin &&
      !(i.createdBy == some claims.personID)) = true
  · rw [if_pos (by exact h), if_pos (by exact h)]
    refine (answers_checkGrant hq e n claims.personID).bind ?_
    show (Call.ensure (db.hasGrant e n claims.personID) _ >>= _).Answers imsDB env db
      (if db.hasGrant e n claims.personID = true then _ else _)
    cases db.hasGrant e n claims.personID with
    | true => exact (Call.answers_ensure true _).bind (Call.answers_pure true)
    | false => exact (Call.answers_ensure false _).bind_error
  · rw [if_neg (by exact h), if_neg (by exact h)]
    exact Call.answers_pure granted

theorem answers_incident {ε : Type} (hq : env.Quiet) (hi : db.incident.find? (e, n) = some i)
    (err : SqlErr → ε) :
    (select .pool (.incident e n) err).Answers imsDB env db (.ok (db.incidentRow e n i)) := by
  have h : (select .pool (.incident e n) err).Answers imsDB env db _ := answers_select hq _ err
  rw [Read.eval, hi] at h
  exact h

/-- The journal of an incident as the single read shows it. -/
def incidentTimeline (db : DB) (s : Service) (e n : Int) : List JournalEntryJSON :=
  withMentions
    (((db.incidentEntriesOf e n).filterMap (db.journalEntryRow n)).map fun r =>
      journalEntryToJSON s s.attachmentsEnabled r none)
    ((db.incidentEntriesOf e n).flatMap db.mentionRows)

theorem answers_fetchIncident (hq : env.Quiet) (s : Service)
    (hi : db.incident.find? (e, n) = some i) :
    (fetchIncident s e n).Answers imsDB env db
      (.ok (db.incidentRow e n i, incidentTimeline db s e n)) := by
  have hrow := answers_incident hq hi fun err =>
    if err = .noRows then HTTPError.notFound "Incident not found" (some err)
    else .internalServerError "Failed to fetch Incident" err
  refine hrow.bind ?_
  refine (answers_select hq (.incidentJournalEntries e n) _).bind ?_
  exact (answers_select hq (.incidentJournalEntryMentions e n) _).bind (Call.answers_pure _)

/-- The incident as the single read shows it to a caller it admits. -/
def getIncidentMsg (db : DB) (s : Service) (claims : IMSClaims) (e n : Int) (ev : Event)
    (i : Incident) : IncidentMsg :=
  let linkedReports := db.report.rows.filterMap fun r =>
    if r.1.1 = e ∧ r.2.incidentNumber.isSome then
      some (⟨r.1.2, r.2.incidentNumber, r.2.createdBy⟩ : LinkedReportRow) else none
  let people := (db.incidentPerson.rows.filterMap fun r =>
    if r.2.event = e ∧ r.2.incidentNumber = n then db.incidentPersonRow r.2 else none).map fun r =>
      incidentPersonFromRow r (deliveredReports linkedReports)
  let linked := ((db.linksOf e n).filterMap fun l => db.linkedIncidentRow l.1 l.2).map
    (redactLinkedIncident (bulkMasksIn db claims) claims)
  incidentJSONToProto (incidentToJSON (db.incidentRow e n i) people (incidentTimeline db s e n)
    linked ⟨e, ev⟩)

theorem answers_assembleIncidentView (hq : env.Quiet) (s : Service) (claims : IMSClaims)
    (perms : EventPermissionMask) (hasGrant : Bool) :
    (assembleIncidentView ⟨e, ev⟩ n perms claims (db.incidentRow e n i)
        (incidentTimeline db s e n) hasGrant).Answers imsDB env db
      (.ok ⟨getIncidentMsg db s claims e n ev i, hasBit perms eventWriteIncidents || hasGrant⟩) := by
  refine ((answers_permissionsByEvent hq claims).mapErr herrToConnect).bind ?_
  refine (answers_select hq (.incidentPeople e n) _).bind ?_
  refine (answers_select hq (.reportsLinkedToIncidents e) _).bind ?_
  exact (answers_select hq (.incidentLinkedIncidents e n) _).bind (Call.answers_pure _)

/-- What the read answers once the event-level gate is passed. -/
theorem answers_viewIncident (hq : env.Quiet) (s : Service) (claims : IMSClaims) (granted : Bool)
    (hi : db.incident.find? (e, n) = some i) :
    (viewIncident s ⟨e, ev⟩ n (eventMaskIn db e claims) claims granted).Answers imsDB env db
      ((privateAccess (readFacts db claims e n i) granted).bind fun hasGrant =>
        .ok ⟨getIncidentMsg db s claims e n ev i,
          hasBit (eventMaskIn db e claims) eventWriteIncidents || hasGrant⟩) := by
  refine ((answers_fetchIncident hq s hi).mapErr herrToConnect).bind ?_
  exact (answers_requirePrivateAccess hq claims e n i granted).bind_except fun hasGrant _ =>
    answers_assembleIncidentView hq s claims (eventMaskIn db e claims) hasGrant

/-- The error of the single read for a caller it refuses. -/
def getIncidentRefusal (f : ReadFacts) : ConnectError :=
  if f.read || f.grant then ⟨.notFound, "incident not found"⟩
  else ⟨.permissionDenied,
    "the requestor does not have EventReadIncidents permission on this Event"⟩

theorem readGate_bind_privateAccess {α : Type} (f : ReadFacts) (view : Bool → α) :
    (readGate f).bind (fun granted => (privateAccess f granted).bind fun g => .ok (view g)) =
      if f.admits then .ok (view f.grantSeen) else .error (getIncidentRefusal f) := by
  obtain ⟨read, write, grant, admin, creator, isPrivate⟩ := f
  cases read <;> cases grant <;> cases admin <;> cases creator <;> cases isPrivate <;> rfl

theorem answers_getIncident (hq : env.Quiet) (s : Service) (claims : IMSClaims)
    (hev : db.event.find? e = some ev) (hi : db.incident.find? (e, n) = some i) :
    (getIncident s (some claims) ⟨e, n⟩).Answers imsDB env db
      (if (readFacts db claims e n i).admits then
        .ok ⟨getIncidentMsg db s claims e n ev i,
          (readFacts db claims e n i).write || (readFacts db claims e n i).grantSeen⟩
      else .error (getIncidentRefusal (readFacts db claims e n i))) := by
  rw [← readGate_bind_privateAccess _ fun g =>
    IncidentView.mk (getIncidentMsg db s claims e n ev i) ((readFacts db claims e n i).write || g)]
  refine (answers_authenticated claims).bind ?_
  refine (answers_fetchEvent hq hev).bind ?_
  refine (answers_permissionsAt hq e claims).bind ?_
  have hgate := answers_requireReadOrGrant (f := readFacts db claims e n i) (e := e) (n := n) hq
    claims.personID rfl
  exact hgate.bind_except fun granted _ => answers_viewIncident hq s claims granted hi

/-! ## The list -/

/-- The incidents of an event a person was granted. -/
def grantedIn (db : DB) (e person : Int) : List Int :=
  (db.incidentPerson.rows.filterMap fun r =>
    if r.2.event = e ∧ r.2.personID = person ∧ r.2.grantedAccess = true
    then some r.2.incidentNumber else none).dedup

theorem contains_grantedIn (db : DB) (e n person : Int) :
    (grantedIn db e person).contains n = db.hasGrant e n person := by
  rw [Bool.eq_iff_iff]
  simp only [grantedIn, DB.hasGrant, List.contains_iff_mem, List.mem_dedup, List.mem_filterMap,
    List.any_eq_true, Bool.and_eq_true, decide_eq_true_eq, Option.ite_none_right_eq_some,
    Option.some.injEq]
  constructor
  · rintro ⟨r, hr, ⟨he, hp, hg⟩, hn⟩
    exact ⟨r, hr, ⟨⟨he, hn⟩, hp⟩, hg⟩
  · rintro ⟨r, hr, ⟨⟨he, hn⟩, hp⟩, hg⟩
    exact ⟨r, hr, ⟨he, hp, hg⟩, hn⟩

/-- The grants the list works with: none for an admin, who needs none. -/
def listedGrants (db : DB) (claims : IMSClaims) (e : Int) : List Int :=
  if claims.admin then [] else grantedIn db e claims.personID

/-- The list answers at all: for an admin, an incident reader, and whoever has some grant. -/
def mayList (db : DB) (claims : IMSClaims) (e : Int) : Bool :=
  claims.admin || hasBit (eventMaskIn db e claims) eventReadIncidents ||
    !(grantedIn db e claims.personID).isEmpty

theorem answers_listGrants (hq : env.Quiet) (claims : IMSClaims) (e : Int) :
    (listGrants (hasBit (eventMaskIn db e claims) eventReadIncidents) e claims).Answers imsDB env db
      (if mayList db claims e then .ok (listedGrants db claims e)
      else .error ⟨.permissionDenied,
        "the requestor does not have EventReadIncidents permission"⟩) := by
  unfold listGrants mayList listedGrants
  cases claims.admin with
  | true => exact Call.answers_pure []
  | false =>
      refine (answers_select hq (.grantedIncidentNumbersForPerson e claims.personID) _).bind ?_
      exact answers_ensure_bind (Call.answers_pure (grantedIn db e claims.personID))

/-- The incidents of an event that the list shows. -/
def listedRows (db : DB) (claims : IMSClaims) (e : Int) : List IncidentRow :=
  (db.incident.rows.filterMap fun r =>
      if r.1.1 = e then some (db.incidentRow e r.1.2 r.2) else none).filter fun r =>
    mayViewIncident r.incident.isPrivate r.incident.createdBy claims.personID claims.admin
      (hasBit (eventMaskIn db e claims) eventReadIncidents)
      ((listedGrants db claims e).contains r.number)

/-- An incident as the list shows it. -/
def listedMsg (db : DB) (s : Service) (e : Int) (ev : Event) (generated : Bool)
    (row : IncidentRow) : IncidentMsg :=
  let entryRows := (db.incidentJournalEntry.rows.filterMap fun r =>
    if r.1.1 = e then db.journalEntryRow r.1.2.1 r.1.2.2 else none).filter
      (DB.generatedUpTo generated)
  let peopleRows := db.incidentPerson.rows.filterMap fun r =>
    if r.2.event = e then db.incidentPersonRow r.2 else none
  let linkedReports := db.report.rows.filterMap fun r =>
    if r.1.1 = e ∧ r.2.incidentNumber.isSome then
      some (⟨r.1.2, r.2.incidentNumber, r.2.createdBy⟩ : LinkedReportRow) else none
  let people := (peopleRows.filter (·.incidentPerson.incidentNumber = row.number)).map fun p =>
    incidentPersonFromRow p (deliveredReports linkedReports)
  let entries := (entryRows.filter (·.recordNumber = row.number)).map fun je =>
    journalEntryToJSON s s.attachmentsEnabled je none
  incidentJSONToProto (incidentToJSON row people entries [] ⟨e, ev⟩)

/-- The list as a function of the database. -/
def listedViews (db : DB) (s : Service) (claims : IMSClaims) (e : Int) (ev : Event)
    (generated : Bool) : List IncidentView :=
  (listedRows db claims e).map fun r =>
    ⟨listedMsg db s e ev generated r, hasBit (eventMaskIn db e claims) eventWriteIncidents ||
      (listedGrants db claims e).contains r.number⟩

theorem answers_listIncidents (hq : env.Quiet) (s : Service) (claims : IMSClaims)
    (hev : db.event.find? e = some ev) (excl : Bool) :
    (listIncidents s (some claims) ⟨e, excl⟩).Answers imsDB env db
      (if mayList db claims e then .ok (listedViews db s claims e ev !excl)
      else .error ⟨.permissionDenied,
        "the requestor does not have EventReadIncidents permission"⟩) := by
  refine (answers_authenticated claims).bind ?_
  refine (answers_fetchEvent hq hev).bind ?_
  refine (answers_permissionsAt hq e claims).bind ?_
  have hgrants : (listGrants _ e claims).Answers imsDB env db _ := answers_listGrants hq claims e
  by_cases hl : mayList db claims e = true
  · rw [if_pos hl] at hgrants ⊢
    refine hgrants.bind ?_
    refine (answers_select hq (.incidentsJournalEntries e !excl) _).bind ?_
    refine (answers_select hq (.incidentsPeople e) _).bind ?_
    refine (answers_select hq (.reportsLinkedToIncidents e) _).bind ?_
    refine (answers_select hq (.incidents e) _).bind ?_
    exact Call.answers_pure _
  · rw [if_neg hl] at hgrants ⊢
    exact hgrants.bind_error

/-- A row of the list is a stored incident the rule admits. -/
theorem mem_listedRows {r : IncidentRow} : r ∈ listedRows db claims e ↔
    ∃ i, db.incident.find? (e, r.number) = some i ∧ r = db.incidentRow e r.number i ∧
      mayView db claims e r.number i = true := by
  have hgrant : ∀ i : Incident, mayViewIncident i.isPrivate i.createdBy claims.personID claims.admin
      (hasBit (eventMaskIn db e claims) eventReadIncidents)
      ((listedGrants db claims e).contains r.number) = mayView db claims e r.number i := by
    intro i
    unfold mayView listedGrants
    cases ha : claims.admin with
    | true =>
        rw [readIncidents_of_admin ha]
        unfold mayViewIncident
        cases i.isPrivate <;> rfl
    | false => rw [if_neg Bool.false_ne_true, contains_grantedIn]
  simp only [listedRows, List.mem_filter, List.mem_filterMap, Option.ite_none_right_eq_some,
    Option.some.injEq]
  constructor
  · rintro ⟨⟨⟨⟨e', n⟩, i⟩, hr, rfl, rfl⟩, hview⟩
    exact ⟨i, Table.find?_eq_some_iff.mpr hr, rfl, by rw [← hgrant]; exact hview⟩
  · rintro ⟨i, hi, hr, hview⟩
    refine ⟨⟨((e, r.number), i), Table.find?_eq_some_iff.mp hi, rfl, hr.symm⟩, ?_⟩
    rw [← hgrant] at hview
    rw [hr]
    exact hview

theorem mem_listedViews_iff (hi : db.incident.find? (e, n) = some i) (s : Service)
    (generated : Bool) (v : IncidentView) :
    v ∈ listedViews db s claims e ev generated ∧ v.incident.number = n ↔
      mayView db claims e n i = true ∧ v = ⟨listedMsg db s e ev generated (db.incidentRow e n i),
        hasBit (eventMaskIn db e claims) eventWriteIncidents ||
          (listedGrants db claims e).contains n⟩ := by
  simp only [listedViews, List.mem_map]
  constructor
  · rintro ⟨⟨r, hr, rfl⟩, hn⟩
    obtain ⟨i', hi', hrow, hview⟩ := mem_listedRows.mp hr
    have hrn : r.number = n := hn
    rw [hrn] at hi' hrow hview
    rw [hi, Option.some.injEq] at hi'
    subst hi'
    rw [hrow]
    exact ⟨hview, rfl⟩
  · rintro ⟨hview, rfl⟩
    exact ⟨⟨db.incidentRow e n i, mem_listedRows.mpr ⟨i, hi, rfl, hview⟩, rfl⟩, rfl⟩

/-! ## One rule, three paths -/

/-- The single read shows the incident. -/
def GetShows (env : ImsEnv) (w : ImsWorld) (s : Service) (claims : IMSClaims) (e n : Int) : Prop :=
  ∃ v, ((getIncident s (some claims) ⟨e, n⟩).run imsDB env w).1 = .ok v

/-- The list shows the incident; a list that fails shows nothing. -/
def ListShows (env : ImsEnv) (w : ImsWorld) (s : Service) (claims : IMSClaims) (e n : Int)
    (excl : Bool) : Prop :=
  ∃ l, ((listIncidents s (some claims) ⟨e, excl⟩).run imsDB env w).1 = .ok l ∧
    ∃ v ∈ l, v.incident.number = n

theorem getShows_iff (hq : env.Quiet) (s : Service) {w : ImsWorld}
    (hev : w.db.event.find? e = some ev) (hi : w.db.incident.find? (e, n) = some i) :
    GetShows env w s claims e n ↔ (readFacts w.db claims e n i).admits = true := by
  rw [GetShows, (answers_getIncident hq s claims hev hi).run_fst rfl]
  cases (readFacts w.db claims e n i).admits <;> simp

theorem listShows_iff (hq : env.Quiet) (s : Service) {w : ImsWorld}
    (hev : w.db.event.find? e = some ev) (hi : w.db.incident.find? (e, n) = some i) (excl : Bool) :
    ListShows env w s claims e n excl ↔
      mayList w.db claims e = true ∧ mayView w.db claims e n i = true := by
  rw [ListShows, (answers_listIncidents hq s claims hev excl).run_fst rfl]
  by_cases hl : mayList w.db claims e = true
  · rw [if_pos hl]
    constructor
    · rintro ⟨l, heq, v, hv⟩
      rw [Except.ok.injEq] at heq
      subst heq
      exact ⟨hl, ((mem_listedViews_iff hi s (!excl) v).mp hv).1⟩
    · rintro ⟨_, hview⟩
      exact ⟨_, rfl, _, (mem_listedViews_iff hi s (!excl) _).mpr ⟨hview, rfl⟩⟩
  · rw [if_neg hl]
    simp [hl]

/-- The two reads agree with each other and with the rule. -/
def ReadPathsAgree (env : ImsEnv) (w : ImsWorld) (s : Service) (claims : IMSClaims) (e n : Int)
    (i : Incident) (excl : Bool) : Prop :=
  (GetShows env w s claims e n ↔ ListShows env w s claims e n excl) ∧
    (ListShows env w s claims e n excl ↔ mayView w.db claims e n i = true)

theorem mayView_eq (db : DB) (claims : IMSClaims) (e n : Int) (i : Incident) :
    mayView db claims e n i =
      if i.isPrivate then claims.admin || i.createdBy == some claims.personID ||
        db.hasGrant e n claims.personID
      else hasBit (eventMaskIn db e claims) eventReadIncidents ||
        db.hasGrant e n claims.personID := rfl

/-- Whoever was granted an incident of the event gets a list. -/
theorem mayList_of_hasGrant (h : db.hasGrant e n claims.personID = true) :
    mayList db claims e = true := by
  have hmem : (grantedIn db e claims.personID).contains n = true := by
    rw [contains_grantedIn, h]
  unfold mayList
  cases hg : grantedIn db e claims.personID with
  | nil =>
      rw [hg] at hmem
      exact absurd hmem (by simp)
  | cons m ms => simp

theorem mayList_of_read (h : hasBit (eventMaskIn db e claims) eventReadIncidents = true) :
    mayList db claims e = true := by
  unfold mayList
  rw [h, Bool.or_true, Bool.true_or]

theorem mayList_of_admits (h : (readFacts db claims e n i).admits = true) :
    mayList db claims e = true := by
  rw [ReadFacts.admits, Bool.and_eq_true, Bool.or_eq_true] at h
  rcases h.1 with hread | hgrant
  · exact mayList_of_read hread
  · exact mayList_of_hasGrant hgrant

/-- The single read and the rule differ on one kind of caller only: the creator of a private
incident with neither event read nor a grant. -/
theorem admits_iff_mayView :
    ((readFacts db claims e n i).admits = true ↔ mayView db claims e n i = true) ↔
      ¬ (i.isPrivate = true ∧ i.createdBy = some claims.personID ∧
        hasBit (eventMaskIn db e claims) eventReadIncidents = false ∧
        db.hasGrant e n claims.personID = false) := by
  have hadmin : claims.admin = true → hasBit (eventMaskIn db e claims) eventReadIncidents = true :=
    fun ha => readIncidents_of_admin ha e
  rw [mayView_eq, ReadFacts.admits, readFacts, ← beq_iff_eq (a := i.createdBy)]
  revert hadmin
  generalize hasBit (eventMaskIn db e claims) eventReadIncidents = read
  generalize db.hasGrant e n claims.personID = grant
  generalize (i.createdBy == some claims.personID) = creator
  generalize claims.admin = admin
  generalize i.isPrivate = isPrivate
  cases read <;> cases grant <;> cases creator <;> cases admin <;> cases isPrivate <;> simp

/-- The two reads and the rule agree on every incident and caller, except that the single read
refuses the creator of a private incident who has neither event read nor a grant. -/
theorem readPathsAgree_iff (hq : env.Quiet) (s : Service) {w : ImsWorld}
    (hev : w.db.event.find? e = some ev) (hi : w.db.incident.find? (e, n) = some i) (excl : Bool) :
    ReadPathsAgree env w s claims e n i excl ↔
      ¬ (i.isPrivate = true ∧ i.createdBy = some claims.personID ∧
        hasBit (eventMaskIn w.db e claims) eventReadIncidents = false ∧
        w.db.hasGrant e n claims.personID = false) := by
  rw [← admits_iff_mayView, ReadPathsAgree, getShows_iff hq s hev hi, listShows_iff hq s hev hi]
  constructor
  · rintro ⟨hget, hlist⟩
    exact hget.trans hlist
  · intro hget
    have hlist : mayList w.db claims e = true ∧ mayView w.db claims e n i = true ↔
        mayView w.db claims e n i = true := by
      refine ⟨And.right, fun hview => ⟨?_, hview⟩⟩
      exact mayList_of_admits (hget.mpr hview)
    exact ⟨hget.trans hlist.symm, hlist⟩

/-- A private incident of person 7. -/
def privateIncident : Incident :=
  { created := 0, priority := 3, state := .stateOpen, started := 0, isPrivate := true,
    createdBy := some 7 }

def openIncident : Incident :=
  { created := 0, priority := 3, state := .stateOpen, started := 0, createdBy := none }

/-- A reporter who created a private incident and was granted another one. -/
def privateCreatorDB : DB :=
  { event := Table.empty.insert 1 { name := "fair" }
    person := Table.empty.insert 7 { handle := some "hub" }
    personEvent := Table.empty.insert (7, 1) { participationType := .reporter }
    incident := (Table.empty.insert (1, 1) privateIncident).insert (1, 2) openIncident
    incidentPerson := Table.empty.insert 1
      { event := 1, incidentNumber := 2, personID := 7, grantedAccess := true } }

theorem readPathsAgree_iff_grantee :
    ReadPathsAgree stillEnv { db := privateCreatorDB, nextId := 1 } {} ⟨7, "hub", false⟩ 1 2
      openIncident true := by
  have hev : privateCreatorDB.event.find? 1 = some ⟨"fair", false, none⟩ := by decide
  have hi : privateCreatorDB.incident.find? (1, 2) = some openIncident := by decide
  exact (readPathsAgree_iff (w := { db := privateCreatorDB, nextId := 1 }) stillEnv_quiet {} hev hi
    true).mpr (by decide)

/-- The list shows the creator their private incident; the single read denies them. -/
theorem getIncident_refuses_private_creator :
    ¬ ∀ (env : ImsEnv) (w : ImsWorld) (s : Service) (claims : IMSClaims) (e n : Int) (ev : Event)
      (i : Incident) (excl : Bool), env.Quiet → w.db.event.find? e = some ev →
        w.db.incident.find? (e, n) = some i → ReadPathsAgree env w s claims e n i excl := by
  intro h
  have hev : privateCreatorDB.event.find? 1 = some ⟨"fair", false, none⟩ := by decide
  have hi : privateCreatorDB.incident.find? (1, 1) = some privateIncident := by decide
  have h := h stillEnv { db := privateCreatorDB, nextId := 1 } {} ⟨7, "hub", false⟩ 1 1 _ _ true
    stillEnv_quiet hev hi
  have hget := (getShows_iff stillEnv_quiet {} hev hi).mp ((h.1.trans h.2).mpr (by decide))
  exact absurd hget (by decide)

/-! ## Adding to the journal -/

/-- A payload that only carries journal entries. -/
def journalOnly (entries : List NewJournalEntry) : IncidentUpdate := { journalEntries := entries }

/-- Such a payload, once it is past the gates, fails for internal reasons only. -/
theorem every_updateIncident_journalOnly {A : ∀ β : Type, Op β → β → Prop} {E : HTTPError → Prop}
    (hE : ∀ msg x, E (.internalServerError msg x)) (s : Service) (event : String) (e n : Int)
    (entries : List NewJournalEntry) (author : Int) (admin : Bool) :
    (updateIncident s { incidentUpdateToJSON (some (journalOnly entries)) with
      event, eventID := e, number := n } author admin).Every A anyOp E
        fun _ => True := by
  have hread : ∀ {α : Type} (q : Read α) (msg : String),
      (select .pool q (HTTPError.internalServerError msg)).Every A anyOp E
        fun _ => True := fun q msg => every_select trivial (hE msg) fun _ _ => trivial
  have lift : ∀ {α : Type} {x : Go HTTPError α}, x.Every A (writesIn anyWrite) E (fun _ => True) →
      x.Every A anyOp E fun _ => True := fun h =>
    h.mono (fun _ _ _ h => h) (fun _ _ _ => trivial) (fun _ h => h) fun _ h => h
  have hjournal := permitsEntries_anyWrite .txn
  refine Call.every_bind (Q := fun _ => True) ?_ fun st _ => ?_
  · refine Call.every_bind (hread _ _) fun row _ => ?_
    refine Call.every_bind (hread _ _) fun events _ => ?_
    refine Call.every_bind (Q := fun _ => True) (Call.every_pure trivial) fun types _ => ?_
    refine Call.every_bind (Q := fun _ => True) (Call.every_pure trivial) fun outcomes _ => ?_
    exact Call.every_bind (hread _ _) fun linked _ => Call.every_pure trivial
  refine Call.every_bind (Q := fun _ => True) ?_ fun _ _ => ?_
  · exact Call.every_mapErr (Call.every_attempt trivial (fun x _ => hE _ x) fun _ _ => trivial)
  refine Call.every_deferRollback trivial ?_
  refine Call.every_bind (Q := fun _ => True) ?_ fun touched _ =>
    lift (every_announceUpdate _ st author touched)
  refine Call.every_bind (Q := fun _ => True) (Call.every_pure trivial) fun ed _ => ?_
  refine Call.every_bind (Q := fun _ => True)
    (every_exec trivial (hE _) fun _ _ => trivial) fun _ _ => ?_
  refine Call.every_bind (Q := fun _ => True) ?_ fun t _ => ?_
  · refine Call.every_bind (Q := fun _ => True) (Call.every_pure trivial) fun _ _ => ?_
    refine Call.every_bind (Q := fun _ => True) (Call.every_pure trivial) fun _ _ => ?_
    refine Call.every_bind (Q := fun _ => True) (Call.every_pure trivial) fun _ _ => ?_
    refine Call.every_bind (Q := fun _ => True) (Call.every_pure trivial) fun _ _ => ?_
    refine Call.every_bind (lift (every_addChangeEntry hjournal (fun _ => trivial) hE author _))
      fun _ _ => ?_
    refine Call.every_bind (Call.every_concatMap fun entry _ =>
      lift (every_addTypedEntry hjournal (fun _ => trivial) hE s author entry)) fun _ _ => ?_
    exact Call.every_pure trivial
  · refine Call.every_bind (Q := fun _ => True) ?_ fun _ _ => Call.every_pure trivial
    exact Call.every_mapErr (Call.every_attempt trivial (fun x _ => hE _ x) fun _ _ => trivial)

/-- `UpdateIncident` does not turn the caller away. -/
def Authorized (env : ImsEnv) (w : ImsWorld) (s : Service) (claims : IMSClaims) (e n : Int)
    (u : IncidentUpdate) : Prop :=
  ∀ err, ((updateIncidentRPC s (some claims) ⟨e, n, some u⟩).run imsDB env w).1 = .error err →
    err.code ≠ .permissionDenied ∧ err.code ≠ .notFound

/-- The caller may write to the incident's journal: with the write bit or a grant. -/
def mayAddJournal (db : DB) (claims : IMSClaims) (e n : Int) : Bool :=
  hasBit (eventMaskIn db e claims) eventWriteIncidents || db.hasGrant e n claims.personID

theorem mayWriteIncident_journalOnly {entries : List NewJournalEntry} (hne : entries ≠ []) :
    mayWriteIncident db claims e n (updatePayload ev e n (some (journalOnly entries))) =
      mayAddJournal db claims e n := by
  have hjournal : isJournalOnly (updatePayload ev e n (some (journalOnly entries))) = true := by
    cases entries with
    | nil => exact absurd rfl hne
    | cons entry rest => rfl
  rw [mayWriteIncident, hjournal, Bool.and_true, mayAddJournal]

theorem incidentVisible_of_mayView (h : mayView db claims e n i = true) :
    incidentVisible db claims e n i = true := by
  rw [mayView_eq] at h
  unfold incidentVisible
  cases hp : i.isPrivate with
  | false => rfl
  | true =>
      rw [hp, if_pos rfl] at h
      exact h

/-- A caller who may view an incident is authorized exactly with the write bit or a grant. -/
theorem authorized_iff (hq : env.Quiet) (s : Service) {w : ImsWorld}
    (hev : w.db.event.find? e = some ev) (hi : w.db.incident.find? (e, n) = some i)
    (hview : mayView w.db claims e n i = true) {entries : List NewJournalEntry}
    (hne : entries ≠ []) :
    Authorized env w s claims e n (journalOnly entries) ↔
      mayAddJournal w.db claims e n = true := by
  have hgate : updateGate w.db claims e n (updatePayload ev e n (some (journalOnly entries))) =
      if mayAddJournal w.db claims e n then .ok ()
      else .error (writeRefusal w.db claims e n) := by
    rw [updateGate, mayWriteIncident_journalOnly hne, hi]
    simp only [incidentVisible_of_mayView hview, if_true]
  cases hadd : mayAddJournal w.db claims e n with
  | false =>
      rw [hadd, if_neg Bool.false_ne_true] at hgate
      have hanswer := answers_updateIncidentRPC_refused hq s claims hev hgate
      simp only [Bool.false_eq_true, iff_false]
      intro hauth
      exact (hauth _ (hanswer.run_fst rfl)).1 rfl
  | true =>
      rw [hadd, if_pos rfl] at hgate
      obtain ⟨t, ht⟩ := run_updateIncidentRPC hq s claims hev hgate
      have hupdate : (Call.mapErr herrToConnect (updateIncident s
          (updatePayload ev e n (some (journalOnly entries))) claims.personID claims.admin)).Every
          anyAnswer anyOp (fun err => err.code = .internal) fun _ => True :=
        Call.every_mapErr (every_updateIncident_journalOnly (fun _ _ => rfl) s ev.name e n entries
          claims.personID claims.admin)
      refine iff_of_true (fun err herr => ?_) rfl
      rw [ht] at herr
      have hcode := Call.error_of_every (Call.every_bind hupdate fun _ _ =>
        Call.every_perform trivial fun _ _ => trivial) herr
      rw [hcode]
      exact ⟨by decide, by decide⟩

/-- The single read shows the incident with this flag. -/
def GetFlag (env : ImsEnv) (w : ImsWorld) (s : Service) (claims : IMSClaims) (e n : Int)
    (flag : Bool) : Prop :=
  ∃ v, ((getIncident s (some claims) ⟨e, n⟩).run imsDB env w).1 = .ok v ∧
    v.viewerMayAddJournal = flag

/-- The list shows the incident with this flag. -/
def ListFlag (env : ImsEnv) (w : ImsWorld) (s : Service) (claims : IMSClaims) (e n : Int)
    (excl flag : Bool) : Prop :=
  ∃ l, ((listIncidents s (some claims) ⟨e, excl⟩).run imsDB env w).1 = .ok l ∧
    ∃ v ∈ l, v.incident.number = n ∧ v.viewerMayAddJournal = flag

/-- Whichever read shows the incident, its flag says whether the caller may add to the journal, and
two reads that show it show the same flag. -/
def JournalFlagRight (env : ImsEnv) (w : ImsWorld) (s : Service) (claims : IMSClaims) (e n : Int)
    (excl : Bool) (entries : List NewJournalEntry) : Prop :=
  (∀ flag, GetFlag env w s claims e n flag →
    (flag = true ↔ Authorized env w s claims e n (journalOnly entries))) ∧
  (∀ flag, ListFlag env w s claims e n excl flag →
    (flag = true ↔ Authorized env w s claims e n (journalOnly entries))) ∧
  ∀ flag flag', GetFlag env w s claims e n flag → ListFlag env w s claims e n excl flag' →
    flag = flag'

theorem getFlag_iff (hq : env.Quiet) (s : Service) {w : ImsWorld}
    (hev : w.db.event.find? e = some ev) (hi : w.db.incident.find? (e, n) = some i) (flag : Bool) :
    GetFlag env w s claims e n flag ↔ (readFacts w.db claims e n i).admits = true ∧
      ((readFacts w.db claims e n i).write || (readFacts w.db claims e n i).grantSeen) = flag := by
  rw [GetFlag, (answers_getIncident hq s claims hev hi).run_fst rfl]
  cases (readFacts w.db claims e n i).admits <;> simp

/-- The list's flag: an admin has the write bit, so leaving out an admin's grants hides nothing. -/
theorem listedFlag_eq (db : DB) (claims : IMSClaims) (e n : Int) :
    (hasBit (eventMaskIn db e claims) eventWriteIncidents ||
      (listedGrants db claims e).contains n) = mayAddJournal db claims e n := by
  unfold mayAddJournal listedGrants
  cases ha : claims.admin with
  | true => rw [writeIncidents_of_admin ha, Bool.true_or, Bool.true_or]
  | false => rw [if_neg Bool.false_ne_true, contains_grantedIn]

theorem listFlag_iff (hq : env.Quiet) (s : Service) {w : ImsWorld}
    (hev : w.db.event.find? e = some ev) (hi : w.db.incident.find? (e, n) = some i)
    (excl flag : Bool) : ListFlag env w s claims e n excl flag ↔
      ListShows env w s claims e n excl ∧ mayAddJournal w.db claims e n = flag := by
  rw [ListFlag, ListShows, (answers_listIncidents hq s claims hev excl).run_fst rfl]
  by_cases hl : mayList w.db claims e = true
  · rw [if_pos hl]
    constructor
    · rintro ⟨l, heq, v, hv, hn, hflag⟩
      refine ⟨⟨l, heq, v, hv, hn⟩, ?_⟩
      rw [Except.ok.injEq] at heq
      subst heq
      obtain ⟨_, rfl⟩ := (mem_listedViews_iff hi s (!excl) v).mp ⟨hv, hn⟩
      rw [← hflag]
      exact (listedFlag_eq w.db claims e n).symm
    · rintro ⟨⟨l, heq, v, hv, hn⟩, hflag⟩
      refine ⟨l, heq, v, hv, hn, ?_⟩
      rw [Except.ok.injEq] at heq
      subst heq
      obtain ⟨_, rfl⟩ := (mem_listedViews_iff hi s (!excl) v).mp ⟨hv, hn⟩
      rw [← hflag]
      exact listedFlag_eq w.db claims e n
  · rw [if_neg hl]
    constructor
    · rintro ⟨l, heq, _⟩
      cases heq
    · rintro ⟨⟨l, heq, _⟩, _⟩
      cases heq

/-- The single read looks a grant up only where it needs one, so its flag misses the grant of a
caller whom the read bit, or the read bit and having created the incident, let in. -/
theorem getFlag_right_iff (hview : mayView db claims e n i = true) :
    ((readFacts db claims e n i).admits = true →
      ((readFacts db claims e n i).write || (readFacts db claims e n i).grantSeen) =
        mayAddJournal db claims e n) ↔
      ¬ (hasBit (eventMaskIn db e claims) eventReadIncidents = true ∧
        hasBit (eventMaskIn db e claims) eventWriteIncidents = false ∧
        db.hasGrant e n claims.personID = true ∧
        (i.isPrivate = false ∨ i.createdBy = some claims.personID)) := by
  have hadmin : claims.admin = true → hasBit (eventMaskIn db e claims) eventWriteIncidents = true :=
    fun ha => writeIncidents_of_admin ha e
  rw [mayView_eq] at hview
  rw [ReadFacts.admits, ReadFacts.grantSeen, readFacts, mayAddJournal,
    ← beq_iff_eq (a := i.createdBy)]
  revert hadmin hview
  generalize hasBit (eventMaskIn db e claims) eventReadIncidents = read
  generalize hasBit (eventMaskIn db e claims) eventWriteIncidents = write
  generalize db.hasGrant e n claims.personID = grant
  generalize (i.createdBy == some claims.personID) = creator
  generalize claims.admin = admin
  generalize i.isPrivate = isPrivate
  revert read write grant creator admin isPrivate
  decide

/-- The flag of both reads is what `UpdateIncident` enforces, except that the single read denies it
to a caller who reads the event's incidents, may not write them, and was granted this one, when the
incident is not private or the caller created it. -/
theorem journalFlagRight_iff (hq : env.Quiet) (s : Service) {w : ImsWorld}
    (hev : w.db.event.find? e = some ev) (hi : w.db.incident.find? (e, n) = some i)
    (hview : mayView w.db claims e n i = true) (excl : Bool) {entries : List NewJournalEntry}
    (hne : entries ≠ []) :
    JournalFlagRight env w s claims e n excl entries ↔
      ¬ (hasBit (eventMaskIn w.db e claims) eventReadIncidents = true ∧
        hasBit (eventMaskIn w.db e claims) eventWriteIncidents = false ∧
        w.db.hasGrant e n claims.personID = true ∧
        (i.isPrivate = false ∨ i.createdBy = some claims.personID)) := by
  rw [← getFlag_right_iff hview, JournalFlagRight]
  simp only [getFlag_iff hq s hev hi, listFlag_iff hq s hev hi,
    authorized_iff hq s hev hi hview hne]
  constructor
  · rintro ⟨hget, _, _⟩ hadmits
    rw [Bool.eq_iff_iff]
    exact hget _ ⟨hadmits, rfl⟩
  · intro hget
    refine ⟨?_, ?_, ?_⟩
    · rintro flag ⟨hadmits, rfl⟩
      rw [hget hadmits]
    · rintro flag ⟨_, rfl⟩
      exact Iff.rfl
    · rintro flag flag' ⟨hadmits, rfl⟩ ⟨_, rfl⟩
      exact hget hadmits

/-- A crew leader, who reads incidents without writing them, and was granted incident 2. -/
def grantedLeaderDB : DB :=
  { event := Table.empty.insert 1 { name := "fair" }
    person := Table.empty.insert 7 { handle := some "hub" }
    personEvent := Table.empty.insert (7, 1) { participationType := .crewLeader }
    incident := (Table.empty.insert (1, 1) openIncident).insert (1, 2) openIncident
    incidentPerson := Table.empty.insert 1
      { event := 1, incidentNumber := 2, personID := 7, grantedAccess := true } }

theorem journalFlagRight_iff_ungranted :
    JournalFlagRight stillEnv { db := grantedLeaderDB, nextId := 1 } {} ⟨7, "hub", false⟩ 1 1 true
      [⟨"seen", []⟩] := by
  have hev : grantedLeaderDB.event.find? 1 = some ⟨"fair", false, none⟩ := by decide
  have hi : grantedLeaderDB.incident.find? (1, 1) = some openIncident := by decide
  exact (journalFlagRight_iff (w := { db := grantedLeaderDB, nextId := 1 }) stillEnv_quiet {} hev hi
    (by decide) true (by decide)).mpr (by decide)

/-- The list offers the crew leader the journal, the single read does not. -/
theorem getIncident_flag_misses_grant :
    ¬ ∀ (env : ImsEnv) (w : ImsWorld) (s : Service) (claims : IMSClaims) (e n : Int) (ev : Event)
      (i : Incident) (excl : Bool) (entries : List NewJournalEntry), env.Quiet →
        w.db.event.find? e = some ev → w.db.incident.find? (e, n) = some i →
        mayView w.db claims e n i = true → entries ≠ [] → (∀ entry ∈ entries, entry.text ≠ "") →
          JournalFlagRight env w s claims e n excl entries := by
  intro h
  have hev : grantedLeaderDB.event.find? 1 = some ⟨"fair", false, none⟩ := by decide
  have hi : grantedLeaderDB.incident.find? (1, 2) = some openIncident := by decide
  have h := h stillEnv { db := grantedLeaderDB, nextId := 1 } {} ⟨7, "hub", false⟩ 1 2 _ _ true
    [⟨"seen", []⟩] stillEnv_quiet hev hi (by decide) (by decide) (by decide)
  have hget : GetFlag stillEnv { db := grantedLeaderDB, nextId := 1 } {} ⟨7, "hub", false⟩ 1 2
      false := (getFlag_iff stillEnv_quiet {} hev hi false).mpr (by decide)
  have hlist : ListFlag stillEnv { db := grantedLeaderDB, nextId := 1 } {} ⟨7, "hub", false⟩ 1 2
      true true := (listFlag_iff stillEnv_quiet {} hev hi true true).mpr
    ⟨(listShows_iff stillEnv_quiet {} hev hi true).mpr (by decide), by decide⟩
  exact absurd (h.2.2 false true hget hlist) Bool.false_ne_true

end OcfIms
