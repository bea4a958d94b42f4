import OcfIms.IncidentVisibility

/-!
# Who has access already

`HAS_EVENT_ACCESS` is computed in two queries, from the admin bit, the rung and the creator of the
incident. The read path also knows derived crew leaders, and it looks at the event-wide bit before
it looks at the creator. The flag is the same on both reads; it is right but for these two kinds of
people.
-/

namespace OcfIms

open TxnLib

variable {env : ImsEnv} {db : DB} {claims : IMSClaims} {e n p : Int} {ev : Event} {i : Incident}
  {person : Person}

/-- A token issued to the person now. -/
def freshClaims (p : Int) (person : Person) : IMSClaims :=
  ⟨p, person.handle.getD "", person.isAdmin⟩

/-- The database with every grant of the person on an incident of the event withdrawn. -/
def DB.withoutGrants (db : DB) (e p : Int) : DB :=
  { db with incidentPerson := db.incidentPerson.mapVal fun _ ip =>
      if ip.event = e ∧ ip.personID = p then { ip with grantedAccess := false } else ip }

theorem hasGrant_withoutGrants (db : DB) (e n p : Int) :
    (db.withoutGrants e p).hasGrant e n p = false := by
  rw [DB.hasGrant, Bool.eq_false_iff, Ne, List.any_eq_true]
  rintro ⟨⟨k, ip⟩, hmem, hgrant⟩
  obtain ⟨⟨k', ip'⟩, -, heq⟩ := List.mem_map.mp hmem
  cases heq
  dsimp only at hgrant
  split at hgrant
  · simp at hgrant
  · rename_i hother
    simp only [Bool.and_eq_true, decide_eq_true_eq] at hgrant
    exact hother ⟨hgrant.1.1.1, hgrant.1.2⟩

/-! ## What the person would be answered -/

/-- The person is at the event as a crew leader: by the rung, or by leading a crew. -/
def isCrewLeader (db : DB) (e p : Int) : Bool :=
  participationIn db e p == some .crewLeader || !(db.crewsLedBy e p).isEmpty

def isWriter (db : DB) (e p : Int) : Bool := participationIn db e p == some .writer

/-- The event-wide read bit of incidents is that of the admins, the writers and the crew leaders. -/
theorem readIncidents_eq (db : DB) (e : Int) (claims : IMSClaims) :
    hasBit (eventMaskIn db e claims) eventReadIncidents =
      (claims.admin || isWriter db e claims.personID || isCrewLeader db e claims.personID) := by
  simp only [eventMaskIn, isWriter, isCrewLeader]
  cases claims.admin with
  | true =>
      rw [if_pos rfl, Bool.true_or, Bool.true_or]
      decide
  | false =>
      rcases participationIn db e claims.personID with _ | _ | _ | _ | _ | _ | _ | _ <;>
        cases (db.crewsLedBy e claims.personID).isEmpty <;> decide

/-- `GetIncident` would answer the person without any grant. -/
def SeesUngranted (env : ImsEnv) (w : ImsWorld) (s : Service) (e n p : Int) (person : Person) :
    Prop :=
  GetShows env { w with db := w.db.withoutGrants e p } s (freshClaims p person) e n

/-- The event-wide bit, and for a private incident an admin or its creator. -/
def seesUngranted (db : DB) (e p : Int) (person : Person) (i : Incident) : Bool :=
  (person.isAdmin || isWriter db e p || isCrewLeader db e p) &&
    (!i.isPrivate || person.isAdmin || i.createdBy == some p)

theorem seesUngranted_iff (hq : env.Quiet) (s : Service) {w : ImsWorld}
    (hev : w.db.event.find? e = some ev) (hi : w.db.incident.find? (e, n) = some i) :
    SeesUngranted env w s e n p person ↔ seesUngranted w.db e p person i = true := by
  have hread : hasBit (eventMaskIn (w.db.withoutGrants e p) e (freshClaims p person))
      eventReadIncidents = (person.isAdmin || isWriter w.db e p || isCrewLeader w.db e p) :=
    readIncidents_eq (w.db.withoutGrants e p) e (freshClaims p person)
  have hgrant : (w.db.withoutGrants e p).hasGrant e n (freshClaims p person).personID = false :=
    hasGrant_withoutGrants w.db e n p
  rw [SeesUngranted, getShows_iff (w := { w with db := w.db.withoutGrants e p }) hq s hev hi,
    ReadFacts.admits, readFacts, hread, hgrant, seesUngranted, Bool.or_false, Bool.or_false]
  rfl

/-! ## What the reads show -/

/-- The view shows the person on the incident with this flag. -/
def ShowsAccess (v : IncidentView) (p : Int) (flag : Bool) : Prop :=
  ∃ m ∈ v.incident.people, m.person.personId = p ∧ m.hasEventAccess = flag

def GetAccessFlag (env : ImsEnv) (w : ImsWorld) (s : Service) (claims : IMSClaims) (e n p : Int)
    (flag : Bool) : Prop :=
  ∃ v, ((getIncident s (some claims) ⟨e, n⟩).run imsDB env w).1 = .ok v ∧ ShowsAccess v p flag

def ListAccessFlag (env : ImsEnv) (w : ImsWorld) (s : Service) (claims : IMSClaims) (e n p : Int)
    (excl flag : Bool) : Prop :=
  ∃ l, ((listIncidents s (some claims) ⟨e, excl⟩).run imsDB env w).1 = .ok l ∧
    ∃ v ∈ l, v.incident.number = n ∧ ShowsAccess v p flag

/-- The person is on the incident. -/
def Attached (db : DB) (e n p : Int) : Prop :=
  ∃ r ∈ db.incidentPerson.rows, r.2.event = e ∧ r.2.incidentNumber = n ∧ r.2.personID = p

/-- The flag of the two queries. -/
def accessFlag (db : DB) (e p : Int) (person : Person) (i : Incident) : Bool :=
  person.isAdmin || (!i.isPrivate && isWriter db e p) || (i.isPrivate && i.createdBy == some p)

/-- The people of an incident, as either query returns them. -/
def InvolvedRow (db : DB) (e n : Int) (row : IncidentPersonRow) : Prop :=
  ∃ r ∈ db.incidentPerson.rows, (r.2.event = e ∧ r.2.incidentNumber = n) ∧
    db.incidentPersonRow r.2 = some row

theorem incidentPersonRow_eq_some {ip : IncidentPerson} {row : IncidentPersonRow}
    (h : db.incidentPersonRow ip = some row) : ∃ person i,
      db.person.find? ip.personID = some person ∧
        db.incident.find? (ip.event, ip.incidentNumber) = some i ∧ row.incidentPerson = ip ∧
          row.hasEventAccess = accessFlag db ip.event ip.personID person i := by
  simp only [DB.incidentPersonRow, Option.bind_eq_bind, Option.bind_eq_some_iff,
    Option.some.injEq] at h
  obtain ⟨person, hperson, i, hi, rfl⟩ := h
  exact ⟨person, i, hperson, hi, rfl, rfl⟩

/-- A person on the incident is shown, and with the flag of the queries. -/
theorem involvedRow_flag_iff (hperson : db.person.find? p = some person)
    (hi : db.incident.find? (e, n) = some i) (hon : Attached db e n p) (flag : Bool) :
    (∃ row, InvolvedRow db e n row ∧ row.incidentPerson.personID = p ∧ row.hasEventAccess = flag) ↔
      accessFlag db e p person i = flag := by
  constructor
  · rintro ⟨row, ⟨⟨k, ip⟩, -, ⟨rfl, rfl⟩, hrow⟩, rfl, rfl⟩
    obtain ⟨person', i', hperson', hi', hip, hflag⟩ := incidentPersonRow_eq_some hrow
    rw [hip] at hperson
    dsimp only at hperson' hi' hflag
    rw [hperson, Option.some.injEq] at hperson'
    rw [hi, Option.some.injEq] at hi'
    rw [hflag, hip, hperson', hi']
  · rintro rfl
    obtain ⟨⟨k, ip⟩, hmem, rfl, rfl, rfl⟩ := hon
    have hrow : db.incidentPersonRow ip = some ⟨ip, person.handle, person.name,
        accessFlag db ip.event ip.personID person i⟩ := by
      rw [DB.incidentPersonRow, hperson, hi]
      rfl
    exact ⟨_, ⟨⟨k, ip⟩, hmem, ⟨rfl, rfl⟩, hrow⟩, rfl, rfl⟩

theorem showsAccess_iff {v : IncidentView} {rows : List IncidentPersonRow}
    {delivered : Int → Int → Option Int} (hv : v.incident.people =
      (rows.map fun r => incidentPersonFromRow r delivered).map incidentPersonToProto)
    (hrows : ∀ row, row ∈ rows ↔ InvolvedRow db e n row) (flag : Bool) :
    ShowsAccess v p flag ↔ ∃ row, InvolvedRow db e n row ∧ row.incidentPerson.personID = p ∧
      row.hasEventAccess = flag := by
  rw [ShowsAccess, hv]
  constructor
  · rintro ⟨m, hm, hp, hflag⟩
    obtain ⟨j, hj, rfl⟩ := List.mem_map.mp hm
    obtain ⟨row, hrow, rfl⟩ := List.mem_map.mp hj
    exact ⟨row, (hrows row).mp hrow, hp, hflag⟩
  · rintro ⟨row, hrow, hp, hflag⟩
    have hmem := List.mem_map_of_mem (f := fun r => incidentPersonFromRow r delivered)
      ((hrows row).mpr hrow)
    exact ⟨_, List.mem_map_of_mem hmem, hp, hflag⟩

theorem showsAccess_get_iff (s : Service) (may flag : Bool) :
    ShowsAccess ⟨getIncidentMsg db s claims e n ev i, may⟩ p flag ↔
      ∃ row, InvolvedRow db e n row ∧ row.incidentPerson.personID = p ∧
        row.hasEventAccess = flag := by
  refine showsAccess_iff rfl (fun row => ?_) flag
  rw [List.mem_filterMap]
  simp only [Option.ite_none_right_eq_some]
  rfl

theorem showsAccess_list_iff (s : Service) (generated may flag : Bool) :
    ShowsAccess ⟨listedMsg db s e ev generated (db.incidentRow e n i), may⟩ p flag ↔
      ∃ row, InvolvedRow db e n row ∧ row.incidentPerson.personID = p ∧
        row.hasEventAccess = flag := by
  refine showsAccess_iff rfl (fun row => ?_) flag
  have hnumber : (db.incidentRow e n i).number = n := rfl
  rw [List.mem_filter, List.mem_filterMap, decide_eq_true_eq, hnumber]
  simp only [Option.ite_none_right_eq_some]
  constructor
  · rintro ⟨⟨r, hr, he, hrow⟩, hn⟩
    obtain ⟨_, _, _, _, hip, _⟩ := incidentPersonRow_eq_some hrow
    rw [hip] at hn
    exact ⟨r, hr, ⟨he, hn⟩, hrow⟩
  · rintro ⟨r, hr, ⟨he, hn⟩, hrow⟩
    obtain ⟨_, _, _, _, hip, _⟩ := incidentPersonRow_eq_some hrow
    refine ⟨⟨r, hr, he, hrow⟩, ?_⟩
    rw [hip]
    exact hn

theorem getAccessFlag_iff (hq : env.Quiet) (s : Service) {w : ImsWorld}
    (hev : w.db.event.find? e = some ev) (hi : w.db.incident.find? (e, n) = some i)
    (hperson : w.db.person.find? p = some person) (hon : Attached w.db e n p) (flag : Bool) :
    GetAccessFlag env w s claims e n p flag ↔
      GetShows env w s claims e n ∧ accessFlag w.db e p person i = flag := by
  rw [getShows_iff hq s hev hi, GetAccessFlag, (answers_getIncident hq s claims hev hi).run_fst rfl,
    ← involvedRow_flag_iff hperson hi hon]
  cases (readFacts w.db claims e n i).admits with
  | false => simp
  | true =>
      rw [if_pos rfl, and_iff_right rfl]
      constructor
      · rintro ⟨v, heq, hshows⟩
        cases heq
        exact (showsAccess_get_iff s _ flag).mp hshows
      · intro hrow
        exact ⟨_, rfl, (showsAccess_get_iff s _ flag).mpr hrow⟩

theorem listAccessFlag_iff (hq : env.Quiet) (s : Service) {w : ImsWorld}
    (hev : w.db.event.find? e = some ev) (hi : w.db.incident.find? (e, n) = some i)
    (hperson : w.db.person.find? p = some person) (hon : Attached w.db e n p) (excl flag : Bool) :
    ListAccessFlag env w s claims e n p excl flag ↔
      ListShows env w s claims e n excl ∧ accessFlag w.db e p person i = flag := by
  rw [ListAccessFlag, ListShows, (answers_listIncidents hq s claims hev excl).run_fst rfl,
    ← involvedRow_flag_iff hperson hi hon]
  by_cases hl : mayList w.db claims e = true
  · rw [if_pos hl]
    constructor
    · rintro ⟨l, heq, v, hv, hn, hshows⟩
      refine ⟨⟨l, heq, v, hv, hn⟩, ?_⟩
      cases heq
      obtain ⟨-, rfl⟩ := (mem_listedViews_iff hi s (!excl) v).mp ⟨hv, hn⟩
      exact (showsAccess_list_iff s (!excl) _ flag).mp hshows
    · rintro ⟨⟨l, heq, v, hv, hn⟩, hrow⟩
      refine ⟨l, heq, v, hv, hn, ?_⟩
      cases heq
      obtain ⟨-, rfl⟩ := (mem_listedViews_iff hi s (!excl) v).mp ⟨hv, hn⟩
      exact (showsAccess_list_iff s (!excl) _ flag).mpr hrow
  · rw [if_neg hl]
    simp

/-! ## When the flag is right -/

/-- To every viewer the two reads show the same flag, and it says whether the person would be
answered the incident without a grant. -/
def AccessFlagRight (env : ImsEnv) (w : ImsWorld) (s : Service) (e n p : Int) (person : Person) :
    Prop :=
  (∀ claims flag, GetAccessFlag env w s claims e n p flag →
    (flag = true ↔ SeesUngranted env w s e n p person)) ∧
  (∀ claims excl flag, ListAccessFlag env w s claims e n p excl flag →
    (flag = true ↔ SeesUngranted env w s e n p person)) ∧
  ∀ claims claims' excl flag flag', GetAccessFlag env w s claims e n p flag →
    ListAccessFlag env w s claims' e n p excl flag' → flag = flag'

/-- The people the flag is wrong about: on an incident that is not private a crew leader, who reads
incidents without being a writer; on a private one its creator, once they no longer read incidents
of the event. -/
def Misjudged (db : DB) (e p : Int) (person : Person) (i : Incident) : Bool :=
  !person.isAdmin && !isWriter db e p &&
    if i.isPrivate then i.createdBy == some p && !isCrewLeader db e p else isCrewLeader db e p

theorem accessFlag_eq_seesUngranted_iff (db : DB) (e p : Int) (person : Person) (i : Incident) :
    accessFlag db e p person i = seesUngranted db e p person i ↔
      Misjudged db e p person i = false := by
  unfold accessFlag seesUngranted Misjudged
  cases person.isAdmin <;> cases isWriter db e p <;> cases isCrewLeader db e p <;>
    cases i.isPrivate <;> cases i.createdBy == some p <;> simp

/-- For every database, incident and person on it: the two reads show everyone the same flag, and it
tells the truth exactly where the person is not one the queries misjudge. -/
theorem accessFlagRight_iff (hq : env.Quiet) (s : Service) {w : ImsWorld}
    (hev : w.db.event.find? e = some ev) (hi : w.db.incident.find? (e, n) = some i)
    (hperson : w.db.person.find? p = some person) (hon : Attached w.db e n p) :
    AccessFlagRight env w s e n p person ↔ Misjudged w.db e p person i = false := by
  rw [← accessFlag_eq_seesUngranted_iff]
  have hsees : SeesUngranted env w s e n p person ↔ _ := seesUngranted_iff hq s hev hi
  constructor
  · rintro ⟨hget, -, -⟩
    have hadmin : GetShows env w s ⟨p, "", true⟩ e n := by
      rw [getShows_iff hq s hev hi]
      simp [ReadFacts.admits, readFacts, readIncidents_of_admin]
    have hflag := hget _ _ ((getAccessFlag_iff hq s hev hi hperson hon _).mpr ⟨hadmin, rfl⟩)
    rw [hsees] at hflag
    exact Bool.eq_iff_iff.mpr hflag
  · intro heq
    refine ⟨fun claims flag hflag => ?_, fun claims excl flag hflag => ?_,
      fun claims claims' excl flag flag' hflag hflag' => ?_⟩
    · obtain ⟨-, rfl⟩ := (getAccessFlag_iff hq s hev hi hperson hon flag).mp hflag
      rw [hsees, heq]
    · obtain ⟨-, rfl⟩ := (listAccessFlag_iff hq s hev hi hperson hon excl flag).mp hflag
      rw [hsees, heq]
    · obtain ⟨-, rfl⟩ := (getAccessFlag_iff hq s hev hi hperson hon flag).mp hflag
      obtain ⟨-, rfl⟩ := (listAccessFlag_iff hq s hev hi hperson hon excl flag').mp hflag'
      rfl

/-! ## A crew leader on an open incident -/

/-- Person 7 leads a crew and is on incident 2, person 8 is a writer and on it too. -/
def involvedLeaderDB : DB :=
  { privateCreatorDB with
    person := (Table.empty.insert 7 { handle := some "hub" }).insert 8 { handle := some "gate" }
    personEvent := (Table.empty.insert (7, 1) { participationType := .crewLeader }).insert (8, 1)
      { participationType := .writer }
    incidentPerson := (Table.empty.insert 1
      { event := 1, incidentNumber := 2, personID := 7, grantedAccess := false }).insert 2
        { event := 1, incidentNumber := 2, personID := 8, grantedAccess := false } }

theorem accessFlagRight_iff_writer :
    AccessFlagRight stillEnv { db := involvedLeaderDB, nextId := 3 } {} 1 2 8 { handle := some "gate" } := by
  have hev : involvedLeaderDB.event.find? 1 = some ⟨"fair", false, none⟩ := by decide
  have hi : involvedLeaderDB.incident.find? (1, 2) = some openIncident := by decide
  have hperson : involvedLeaderDB.person.find? 8 = some { handle := some "gate" } := by decide
  have hon : Attached involvedLeaderDB 1 2 8 :=
    ⟨(2, ⟨1, 2, 8, none, false, none⟩), by decide, rfl, rfl, rfl⟩
  exact (accessFlagRight_iff (w := { db := involvedLeaderDB, nextId := 3 }) stillEnv_quiet {} hev hi
    hperson hon).mpr (by decide)

/-- A crew leader sees the incident, and the flag says they do not. -/
theorem hasEventAccess_misses_crewLeader :
    ¬ ∀ (env : ImsEnv) (w : ImsWorld) (s : Service) (e n p : Int) (ev : Event) (i : Incident)
      (person : Person), env.Quiet → w.db.event.find? e = some ev →
        w.db.incident.find? (e, n) = some i → w.db.person.find? p = some person →
          Attached w.db e n p → AccessFlagRight env w s e n p person := by
  intro hall
  have hev : involvedLeaderDB.event.find? 1 = some ⟨"fair", false, none⟩ := by decide
  have hi : involvedLeaderDB.incident.find? (1, 2) = some openIncident := by decide
  have hperson : involvedLeaderDB.person.find? 7 = some { handle := some "hub" } := by decide
  have hon : Attached involvedLeaderDB 1 2 7 :=
    ⟨(1, ⟨1, 2, 7, none, false, none⟩), by decide, rfl, rfl, rfl⟩
  obtain ⟨hget, -, -⟩ := hall stillEnv { db := involvedLeaderDB, nextId := 3 } {} 1 2 7 _ _ _
    stillEnv_quiet hev hi hperson hon
  have hadmin : GetShows stillEnv { db := involvedLeaderDB, nextId := 3 } {} ⟨9, "", true⟩ 1 2 :=
    (getShows_iff (w := { db := involvedLeaderDB, nextId := 3 }) stillEnv_quiet {} hev hi).mpr
      (by decide)
  have hflag := hget _ false ((getAccessFlag_iff (w := { db := involvedLeaderDB, nextId := 3 })
    stillEnv_quiet {} hev hi hperson hon false).mpr ⟨hadmin, by decide⟩)
  have hsees : SeesUngranted stillEnv { db := involvedLeaderDB, nextId := 3 } {} 1 2 7
      { handle := some "hub" } :=
    (seesUngranted_iff (w := { db := involvedLeaderDB, nextId := 3 }) stillEnv_quiet {} hev hi).mpr
      (by decide)
  exact absurd (hflag.mpr hsees) Bool.false_ne_true

end OcfIms
