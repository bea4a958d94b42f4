import OcfIms.AdminRuns
import OcfIms.Crew
import OcfIms.LoginIdentity

/-!
# Who may grant what

The calls of the personnel and crew services, their statements in any order, made by callers who are
not administrators. Three things are an administrator's to give and to take: the admin flag, the
rungs of a writer and of a crew leader at an event, and the leader flag in a crew. A call looks at
what its target holds before it writes, in a statement of its own; what it has seen stays true,
because nobody else may change it either.
-/

namespace OcfIms

open TxnLib RunLib

/-! ## What an administrator reserves -/

/-- The rungs that are an administrator's to give and to take. -/
def isReserved (t : ParticipationType) : Bool := t == .writer || t == .crewLeader

/-- They are those that others may not assign. -/
theorem isReserved_eq (t : ParticipationType) : isReserved t = !mayAssignParticipation false t := by
  cases t <;> rfl

namespace DB

/-- The reserved rung a person holds at an event. -/
def reservedRung (db : DB) (e p : Int) : Option ParticipationType :=
  (participationIn db e p).filter isReserved

def LeadsCrew (db : DB) (e : Int) (slug : String) (p : Int) : Prop :=
  db.crewMembership.find? (e, slug, p) = some true

end DB

/-- Nobody has gained or lost what an administrator reserves. -/
structure SamePrivileges (db₀ db : DB) : Prop where
  admin : ∀ p, db.IsAdmin p ↔ db₀.IsAdmin p
  rung : ∀ e p, db.reservedRung e p = db₀.reservedRung e p
  leader : ∀ e slug p, db.LeadsCrew e slug p ↔ db₀.LeadsCrew e slug p

/-- The writes that give and take nothing reserved. -/
def unprivilegedWrites (db₀ : DB) :
    Conn → ∀ β : Type, (Write β ⊕ PersonWrite β) ⊕ CrewWrite β → Prop
  | _, _, .inl (.inr (.setPersonAdmin _ _)) => False
  | _, _, .inl (.inr (.insertPersonEvent _ _ _ t)) => isReserved t = false
  | _, _, .inl (.inr (.updatePersonEvent _ t p e)) =>
      isReserved t = false ∧ db₀.reservedRung e p = none
  | _, _, .inl (.inr (.deletePersonEvent _ _)) => False
  | _, _, .inl _ => True
  | _, _, .inr (.addCrewMember _ _ _ _) => False
  | _, _, .inr (.removeCrewMember e slug p) => ¬ db₀.LeadsCrew e slug p
  | _, _, .inr (.removeAllCrewMembers _ _) => False
  | _, _, .inr _ => True

section Statements

variable {sortKey : String → String} {β : Type} {id : Int} {db₀ db db' : DB} {b : β}

theorem samePrivileges_refl (db : DB) : SamePrivileges db db :=
  ⟨fun _ => Iff.rfl, fun _ _ => rfl, fun _ _ _ => Iff.rfl⟩

theorem SamePrivileges.trans (h : SamePrivileges db₀ db) (h' : SamePrivileges db db') :
    SamePrivileges db₀ db' :=
  ⟨fun p => (h'.admin p).trans (h.admin p), fun e p => (h'.rung e p).trans (h.rung e p),
    fun e slug p => (h'.leader e slug p).trans (h.leader e slug p)⟩

/-- A change of other tables. -/
theorem samePrivileges_of_eq (hperson : db'.person = db.person)
    (hevent : db'.personEvent = db.personEvent) (hcrew : db'.crewMembership = db.crewMembership) :
    SamePrivileges db db' := by
  refine ⟨fun p => ?_, fun e p => ?_, fun e slug p => ?_⟩
  · rw [DB.IsAdmin, hperson]
    rfl
  · rw [DB.reservedRung, participationIn, hevent]
    rfl
  · rw [DB.LeadsCrew, hcrew]
    rfl

/-- A change of one person that leaves the flag. -/
theorem samePrivileges_modify {person : Int} {f : Person → Person}
    (hf : ∀ p, (f p).isAdmin = p.isAdmin) :
    SamePrivileges db { db with person := db.person.modify person f } := by
  refine ⟨fun a => ?_, fun _ _ => rfl, fun _ _ _ => Iff.rfl⟩
  unfold DB.IsAdmin
  rw [Table.find?_modify]
  by_cases ha : a = person
  · subst ha
    rw [if_pos rfl]
    cases db.person.find? a with
    | none => simp
    | some p => simp [hf]
  · rw [if_neg ha]

/-- A row of a participation that has no reserved rung before and none after. -/
theorem samePrivileges_rung {t : Table (Int × Int) PersonEvent} {e p : Int}
    (hother : ∀ k, k ≠ (p, e) → t.find? k = db.personEvent.find? k)
    (hbefore : db.reservedRung e p = none)
    (hafter : ({ db with personEvent := t } : DB).reservedRung e p = none) :
    SamePrivileges db { db with personEvent := t } := by
  refine ⟨fun _ => Iff.rfl, fun e' p' => ?_, fun _ _ _ => Iff.rfl⟩
  by_cases hk : (p', e') = (p, e)
  · obtain ⟨rfl, rfl⟩ := Prod.mk.inj hk
    rw [hafter, hbefore]
  · rw [DB.reservedRung, participationIn, hother _ hk]
    rfl

/-- The other services' statements leave all three tables alone. -/
theorem samePrivileges_of_write {q : Write β} (h : q.apply id db = .ok (b, db')) :
    SamePrivileges db db' := by
  refine samePrivileges_of_eq (Write.person_of_apply h) ?_ ?_
  · cases Write.effect_of_apply h <;> rfl
  · cases Write.effect_of_apply h <;> rfl

theorem reservedRung_insert {e p : Int} {pe : PersonEvent}
    (hnew : db.personEvent.contains (p, e) = false) (hfree : isReserved pe.participationType = false) :
    ({ db with personEvent := db.personEvent.insert (p, e) pe } : DB).reservedRung e p = none := by
  rw [DB.reservedRung, participationIn, Table.find?_insert hnew, if_pos rfl, Option.map_some,
    Option.filter_some, hfree]
  rfl

theorem reservedRung_modify {e p : Int} {pe : PersonEvent}
    (hfree : isReserved pe.participationType = false) :
    ({ db with personEvent := db.personEvent.modify (p, e) fun _ => pe } : DB).reservedRung e p =
      none := by
  rw [DB.reservedRung, participationIn, Table.find?_modify, if_pos rfl]
  cases db.personEvent.find? (p, e) with
  | none => rfl
  | some old => simp [hfree]

/-- What the personnel service writes for a caller who is no administrator. -/
theorem samePrivileges_of_personWrite {q : PersonWrite β} (h : SamePrivileges db₀ db)
    {c : Conn} (hq : unprivilegedWrites db₀ c _ (.inl (.inr q)))
    (happly : q.apply sortKey id db = .ok (b, db')) : SamePrivileges db db' := by
  cases q with
  | createPerson params =>
      simp only [PersonWrite.apply, DB.textColumn_eq_ok, DB.unique_eq_ok] at happly
      obtain ⟨handle, -, name, -, email, -, phone, -, password, -, hnew, -, -, ⟨⟩⟩ := happly
      refine ⟨fun a => ?_, fun _ _ => rfl, fun _ _ _ => Iff.rfl⟩
      unfold DB.IsAdmin
      rw [Table.find?_insert hnew]
      by_cases ha : a = id
      · subst ha
        simp [Table.contains_eq_false_iff.mp hnew]
      · rw [if_neg ha]
  | editPerson params person =>
      simp only [PersonWrite.apply] at happly
      split at happly
      · cases happly
        exact samePrivileges_refl db
      · simp only [DB.textColumn_eq_ok, DB.unique_eq_ok] at happly
        obtain ⟨_, -, _, -, _, -, _, -, -, -, ⟨⟩⟩ := happly
        exact samePrivileges_modify fun _ => rfl
  | setPersonPassword password changed person =>
      simp only [PersonWrite.apply] at happly
      split at happly
      · cases happly
        exact samePrivileges_refl db
      · simp only [DB.textColumn_eq_ok] at happly
        obtain ⟨_, -, ⟨⟩⟩ := happly
        exact samePrivileges_modify fun _ => rfl
  | setPersonAdmin isAdmin person => exact hq.elim
  | insertPersonEvent person event wristband t =>
      simp only [PersonWrite.apply, DB.textColumn_eq_ok, DB.unique_eq_ok, DB.references_eq_ok]
        at happly
      obtain ⟨_, -, hnew, -, -, -, ⟨⟩⟩ := happly
      refine samePrivileges_rung (fun k hk => ?_) ?_ (reservedRung_insert hnew hq)
      · rw [Table.find?_insert hnew, if_neg hk]
      · rw [DB.reservedRung, participationIn, Table.contains_eq_false_iff.mp hnew]
        rfl
  | updatePersonEvent wristband t person event =>
      simp only [PersonWrite.apply] at happly
      split at happly
      · cases happly
        exact samePrivileges_refl db
      · simp only [DB.textColumn_eq_ok, DB.unique_eq_ok] at happly
        obtain ⟨_, -, -, ⟨⟩⟩ := happly
        refine samePrivileges_rung (fun k hk => ?_) ?_ (reservedRung_modify hq.1)
        · rw [Table.find?_modify, if_neg hk]
        · rw [h.rung]
          exact hq.2
  | deletePersonEvent person event => exact hq.elim
  | setPersonProfilePicture picture person =>
      simp only [PersonWrite.apply] at happly
      split at happly
      · cases happly
        exact samePrivileges_refl db
      · simp only [DB.textColumn_eq_ok] at happly
        obtain ⟨_, -, ⟨⟩⟩ := happly
        exact samePrivileges_modify fun _ => rfl

/-- A membership that does not lead before, and does not after. -/
theorem samePrivileges_membership {t : Table (Int × String × Int) Bool} (e : Int) (slug : String)
    (p : Int) (hother : ∀ k, k ≠ (e, slug, p) → t.find? k = db.crewMembership.find? k)
    (hbefore : ¬ db.LeadsCrew e slug p) (hafter : t.find? (e, slug, p) ≠ some true) :
    SamePrivileges db { db with crewMembership := t } := by
  refine ⟨fun _ => Iff.rfl, fun _ _ => rfl, fun e' slug' p' => ?_⟩
  by_cases hk : (e', slug', p') = (e, slug, p)
  · cases hk
    exact iff_of_false hafter hbefore
  · rw [DB.LeadsCrew, hother _ hk]
    rfl

theorem samePrivileges_of_crewWrite {q : CrewWrite β} (h : SamePrivileges db₀ db)
    {c : Conn} (hq : unprivilegedWrites db₀ c _ (.inr q)) (happly : q.apply id db = .ok (b, db')) :
    SamePrivileges db db' := by
  cases q with
  | createCrew event slug crew =>
      simp only [CrewWrite.apply, DB.column_eq_ok, DB.unique_eq_ok, DB.references_eq_ok] at happly
      obtain ⟨-, -, -, -, ⟨⟩⟩ := happly
      exact samePrivileges_of_eq rfl rfl rfl
  | updateCrew crew event slug =>
      simp only [CrewWrite.apply] at happly
      split at happly
      · cases happly
        exact samePrivileges_refl db
      · simp only [DB.column_eq_ok] at happly
        obtain ⟨-, ⟨⟩⟩ := happly
        exact samePrivileges_of_eq rfl rfl rfl
  | deleteCrew event slug =>
      simp only [CrewWrite.apply] at happly
      split at happly
      · cases happly
        exact samePrivileges_refl db
      · simp only [DB.unreferenced_eq_ok] at happly
        obtain ⟨-, ⟨⟩⟩ := happly
        exact samePrivileges_of_eq rfl rfl rfl
  | addCrewMember event slug person isLeader => exact hq.elim
  | addCrewMemberIfAbsent event slug person =>
      simp only [CrewWrite.apply] at happly
      split at happly
      · cases happly
        exact samePrivileges_refl db
      · rename_i hnew
        have hnew := eq_false_of_ne_true hnew
        simp only [DB.insertMember, DB.references_eq_ok] at happly
        obtain ⟨-, -, ⟨⟩⟩ := happly
        refine samePrivileges_membership event slug person (fun k hk => ?_) ?_ ?_
        · rw [Table.find?_insert hnew, if_neg hk]
        · rw [DB.LeadsCrew, Table.contains_eq_false_iff.mp hnew]
          rintro ⟨⟩
        · rw [Table.find?_insert hnew, if_pos rfl]
          decide
  | removeCrewMember event slug person =>
      cases happly
      refine samePrivileges_membership event slug person (fun k hk => ?_) (fun hleads => hq ?_) ?_
      · rw [Table.find?_erase, if_neg hk]
      · exact (h.leader event slug person).mp hleads
      · rw [Table.find?_erase, if_pos rfl]
        rintro ⟨⟩
  | removeAllCrewMembers event slug => exact hq.elim

/-- **The step.** A write that gives and takes nothing reserved keeps what everyone has. -/
theorem SamePrivileges.apply {c : Conn} {q : (Write β ⊕ PersonWrite β) ⊕ CrewWrite β}
    (h : SamePrivileges db₀ db) (hq : unprivilegedWrites db₀ c β q)
    (happly : (crewDB sortKey).apply q id db = .ok (b, db')) : SamePrivileges db₀ db' := by
  refine h.trans ?_
  rcases q with (q | q) | q
  · exact samePrivileges_of_write happly
  · exact samePrivileges_of_personWrite h hq happly
  · exact samePrivileges_of_crewWrite h hq happly

end Statements

/-! ## The calls -/

/-- A request of the personnel or of the crew service, or a program that writes nothing of theirs:
one that only reads, as their lists do, or one of the other services. -/
inductive PeopleRequest : Type 1
  | createPerson (req : CreatePersonRequest)
  | updatePerson (req : UpdatePersonRequest)
  | setPersonPassword (personID : Int) (password : String) (useDefault : Bool)
  | setPersonAdmin (personID : Int) (isAdmin : Bool)
  | setPersonParticipation (req : SetPersonParticipationRequest)
  | removePersonFromEvent (personID eventID : Int)
  | deletePersonProfilePicture (personID : Int)
  | changeOwnPassword (password : String)
  | updateOwnProfile (patch : ProfilePatch)
  | deleteOwnProfilePicture
  | createCrew (req : CreateCrewRequest)
  | updateCrew (req : UpdateCrewRequest)
  | deleteCrew (eventID : Int) (crewSlug : String)
  | setCrewMembership (req : SetCrewMembershipRequest)
  | setMyCrewMembership (req : SetCrewMembershipRequest)
  | reading (x : CrewGo ConnectError Unit)
      (h : x.Every anyAnswer (onlyWrites fun _ _ _ => False) (fun _ => True) fun _ => True)
  | ofOtherServices (x : Go ConnectError Unit)

/-- A request with its caller's claims. -/
structure PeopleCall : Type 1 where
  ctx : Option IMSClaims
  request : PeopleRequest

def PeopleCall.call (s : PersonService) (cs : CrewService) (c : PeopleCall) :
    CrewGo ConnectError Unit :=
  match c.request with
  | .createPerson req => fromPerson (createPerson s c.ctx req >>= fun _ => pure ())
  | .updatePerson req => fromPerson (editPerson c.ctx req)
  | .setPersonPassword personID password useDefault =>
      fromPerson (setPersonPassword s c.ctx personID password useDefault)
  | .setPersonAdmin personID isAdmin => fromPerson (setPersonAdmin c.ctx personID isAdmin)
  | .setPersonParticipation req => fromPerson (setParticipation c.ctx req)
  | .removePersonFromEvent personID eventID =>
      fromPerson (removePersonEvent c.ctx personID eventID)
  | .deletePersonProfilePicture personID =>
      fromPerson (deletePersonProfilePicture c.ctx personID)
  | .changeOwnPassword password => fromPerson (changeOwnPassword s c.ctx password)
  | .updateOwnProfile patch => fromPerson (updateOwnProfile c.ctx patch)
  | .deleteOwnProfilePicture => fromPerson (deleteOwnProfilePicture c.ctx)
  | .createCrew req => createCrew cs c.ctx req >>= fun _ => pure ()
  | .updateCrew req => updateCrew c.ctx req
  | .deleteCrew eventID crewSlug => deleteCrew cs c.ctx eventID crewSlug
  | .setCrewMembership req => setCrewMembership c.ctx req
  | .setMyCrewMembership req => setMyCrewMembership c.ctx req
  | .reading x _ => x
  | .ofOtherServices x => fromPerson (fromIms x)

/-- The caller carries no administrator's claims. -/
def NotAdmin (ctx : Option IMSClaims) : Prop := ∀ claims, ctx = some claims → claims.admin = false

section Calls

variable {sortKey : String → String} {env : CrewEnv} {db₀ : DB} {ctx : Option IMSClaims} {ε α : Type}

theorem hasBit_globalPermissions (handle : String) :
    hasBit (globalPermissions handle false) globalAdministratePersonnel = false ∧
      hasBit (globalPermissions handle false) globalAdministrateCrews = false := by
  rw [globalPermissions]
  split <;> decide

theorem NotAdmin.not_administers (h : NotAdmin ctx) : ¬ Administers ctx := by
  rintro ⟨claims, hctx, hbit⟩
  rw [h claims hctx, (hasBit_globalPermissions claims.handle).1] at hbit
  cases hbit

/-- What a statement of the crew service answers while everyone keeps what they have. -/
abbrev KeptAnswers (sortKey : String → String) (env : CrewEnv) (db₀ : DB) :
    ∀ β : Type, CrewOp β → β → Prop :=
  answersIn (crewDB sortKey) env (SamePrivileges db₀)

/-- The same, asked by the personnel service. -/
abbrev PersonAnswers (sortKey : String → String) (env : CrewEnv) (db₀ : DB) :
    ∀ β : Type, PersonOp β → β → Prop :=
  fun β o b => KeptAnswers sortKey env db₀ β o.widen b

/-- The writes of the personnel service among those. -/
abbrev personWrites (db₀ : DB) : Conn → ∀ β : Type, Write β ⊕ PersonWrite β → Prop :=
  fun c β q => unprivilegedWrites db₀ c β (.inl q)

/-- A call keeps what everyone has, whatever it returns or fails with. -/
abbrev Keeps (sortKey : String → String) (env : CrewEnv) (db₀ : DB) (x : CrewGo ε α) : Prop :=
  x.Every (KeptAnswers sortKey env db₀) (onlyWrites (unprivilegedWrites db₀)) (fun _ => True)
    fun _ => True

theorem every_fromPerson {x : PersonGo ε α} {E : ε → Prop} {Q : α → Prop}
    (hx : x.Every (PersonAnswers sortKey env db₀) (onlyWrites (personWrites db₀)) E Q) :
    (fromPerson x).Every (KeptAnswers sortKey env db₀) (onlyWrites (unprivilegedWrites db₀)) E Q := by
  refine Call.every_widen (fun β o ho => ?_) (fun _ _ _ h => h) hx
  cases o with
  | write c q => exact ho
  | _ => trivial

theorem permitsIms (c : Conn) (β : Type) (q : Write β) : personWrites db₀ c _ (.inl q) := trivial

/-- Whoever administers, a caller who does not gets no further. -/
theorem issues_notAdmin (h : NotAdmin ctx) (x : PersonGo ConnectError α) :
    Issues (PersonAnswers sortKey env db₀) (personWrites db₀)
      (personnelGlobals ctx >>= fun r => requirePersonnelAdmin r.2 >>= fun _ => x) :=
  issues_administrator fun hadmin => (h.not_administers hadmin).elim

theorem issues_resolveSelf {A : ∀ β : Type, PersonOp β → β → Prop}
    {W : Conn → ∀ β : Type, Write β ⊕ PersonWrite β → Prop}
    (hIms : ∀ c (β : Type) (q : Write β), W c _ (.inl q)) : Issues A W (resolveSelf ctx) :=
  (issues_fromIms hIms _).bind fun _ => every_personSelect fun _ _ => trivial

/-- What the answer to a look at a participation tells: whoever holds no reserved rung now, held none
at first. -/
theorem reservedRung_of_answer {p e : Int} {r : Except SqlErr PersonEvent}
    (h : PersonAnswers sortKey env db₀ _ (.read .pool (.inl (.personEvent p e))) r)
    (hr : r = .error .noRows ∨ ∃ pe, r = .ok pe ∧ isReserved pe.participationType = false) :
    db₀.reservedRung e p = none := by
  rcases h with ⟨db, hsame, heval⟩ | h | ⟨n, h⟩
  · have heval : DB.one (db.personEvent.find? (p, e)) = r := heval
    rw [← hsame.rung, DB.reservedRung, participationIn]
    rcases hr with rfl | ⟨pe, rfl, hfree⟩
    · cases hrow : db.personEvent.find? (p, e) with
      | none => rfl
      | some pe =>
          rw [hrow] at heval
          cases heval
    · rw [DB.one_eq_ok.mp heval, Option.map_some, Option.filter_some, hfree]
      rfl
  · rcases hr with rfl | ⟨pe, rfl, -⟩ <;> cases h
  · rcases hr with rfl | ⟨pe, rfl, -⟩ <;> cases h

theorem every_requireRungs (person eventID : Int) (t : ParticipationType) :
    (requireRungs person eventID t).Every (PersonAnswers sortKey env db₀)
      (onlyWrites (personWrites db₀)) (fun _ => True) fun _ =>
        isReserved t = false ∧ db₀.reservedRung eventID person = none := by
  refine Call.every_bind (Call.every_ensure_true trivial) fun _ hmay => ?_
  have hfree : isReserved t = false := by rw [isReserved_eq, hmay]; rfl
  have hlook : (Call.result (fromIms (select .pool (.personEvent person eventID) id)) :
      PersonGo ConnectError (Except SqlErr PersonEvent)).Every (PersonAnswers sortKey env db₀)
      (onlyWrites (personWrites db₀)) (fun _ => True) fun r =>
        PersonAnswers sortKey env db₀ _ (.read .pool (.inl (.personEvent person eventID))) r :=
    ⟨trivial, fun r hr => by cases r <;> exact hr⟩
  refine Call.every_bind hlook fun r hr => ?_
  cases r with
  | error err =>
      cases err with
      | noRows => exact Call.every_pure ⟨hfree, reservedRung_of_answer hr (Or.inl rfl)⟩
      | _ => exact Call.every_throw trivial
  | ok current =>
      refine Call.every_ensure (fun _ => trivial) fun hcurrent => ⟨hfree, ?_⟩
      refine reservedRung_of_answer hr (Or.inr ⟨current, rfl, ?_⟩)
      rw [isReserved_eq, hcurrent]
      rfl

theorem issues_setUnreserved {person eventID : Int} {wristband : Option SqlText}
    {t : ParticipationType} (hfree : isReserved t = false)
    (hnone : db₀.reservedRung eventID person = none) :
    Issues (PersonAnswers sortKey env db₀) (personWrites db₀)
      (setPersonEvent person eventID wristband t) := by
  refine Call.every_bind (Call.every_result (issues_fromIms permitsIms _)) fun r _ => ?_
  rcases r with err | row
  · cases err with
    | noRows => exact issues_personExec hfree
    | _ => exact Call.every_throw trivial
  · exact issues_personExec ⟨hfree, hnone⟩

/-- **SetPersonParticipation.** -/
theorem issues_setParticipation (h : NotAdmin ctx) (req : SetPersonParticipationRequest) :
    Issues (PersonAnswers sortKey env db₀) (personWrites db₀) (setParticipation ctx req) := by
  refine Call.every_bind (every_personnelGlobals ctx) fun r hr => ?_
  obtain ⟨claims, globalPerms⟩ := r
  obtain ⟨hctx, hperms⟩ := hr
  have hnot : hasBit globalPerms globalAdministratePersonnel = false := by
    change globalPerms = globalPermissions claims.handle claims.admin at hperms
    rw [hperms, h claims hctx]
    exact (hasBit_globalPermissions claims.handle).1
  dsimp only
  refine Issues.bind (Issues.mapErr (every_personSelect fun _ _ => trivial)) fun person => ?_
  refine (issues_requireEvent permitsIms _).mapErr.bind fun _ => ?_
  rw [hnot]
  refine Issues.bind ?_ fun _ => ?_
  · exact (issues_fromIms permitsIms _).bind fun _ => issues_ensure _ _
  refine Call.every_bind (every_requireRungs _ _ _) fun _ hrungs => ?_
  exact (issues_setUnreserved hrungs.1 hrungs.2).mapErr.bind fun _ => issues_invalidateUsers

theorem issues_clearProfilePicture {A : ∀ β : Type, PersonOp β → β → Prop}
    {W : Conn → ∀ β : Type, Write β ⊕ PersonWrite β → Prop} {personID : Int}
    (hW : W .pool _ (.inr (.setPersonProfilePicture none personID))) (oldFileName : String) :
    Issues A W (clearProfilePicture personID oldFileName) := by
  refine (issues_personExec hW).bind fun _ => ?_
  exact Call.every_ite (fun _ => Call.every_perform trivial fun _ _ => trivial) fun _ =>
    Call.every_pure trivial

theorem issues_changeOwnPassword {A : ∀ β : Type, PersonOp β → β → Prop}
    {W : Conn → ∀ β : Type, Write β ⊕ PersonWrite β → Prop}
    (hIms : ∀ c (β : Type) (q : Write β), W c _ (.inl q))
    (s : PersonService) (password : String)
    (hset : (s.defaultPassword ≠ "" → password ≠ s.defaultPassword) → ∀ hashed id,
      A _ (.ask (.inr (.createHash password))) hashed →
        W .pool _ (.inr (.setPersonPassword (stringToSql (some hashed) 255) true id))) :
    Issues A W (changeOwnPassword s ctx password) := by
  refine (issues_ensure _ _).bind fun _ => (issues_ensure _ _).bind fun _ => ?_
  refine Call.every_bind (Call.every_ensure_true trivial) fun _ hother => ?_
  refine (issues_resolveSelf hIms).bind fun person => (issues_ensure _ _).bind fun _ => ?_
  refine Call.every_bind (Call.every_perform trivial fun _ h => h) fun hashed hhashed => ?_
  refine (issues_personExec (hset (fun hdefault heq => ?_) hashed _ hhashed)).bind fun _ =>
    issues_invalidateUsers
  rw [heq, bne_iff_ne.mpr hdefault, beq_self_eq_true] at hother
  cases hother

/-! ### Crews -/

theorem Keeps.bind {β : Type} {x : CrewGo ε α} {f : α → CrewGo ε β} (hx : Keeps sortKey env db₀ x)
    (hf : ∀ a, Keeps sortKey env db₀ (f a)) : Keeps sortKey env db₀ (x >>= f) :=
  Call.every_bind hx fun a _ => hf a

theorem keeps_fromIms (x : Go ε α) : Keeps sortKey env db₀ (fromPerson (fromIms x)) :=
  every_fromPerson (issues_fromIms permitsIms x)

theorem keeps_crewExec {c : Conn} {q : CrewWrite α} {err : SqlErr → ε}
    (hq : unprivilegedWrites db₀ c _ (.inr q)) : Keeps sortKey env db₀ (crewExec c q err) :=
  Call.every_mapErr (Call.every_attempt hq (fun _ _ => trivial) fun _ _ => trivial)

theorem keeps_invalidateCrews (eventID : Int) : Keeps sortKey env db₀ (invalidateCrews eventID) :=
  Call.every_perform trivial fun _ _ => trivial

/-- The administrator's part of the crew service refuses everyone else. -/
theorem every_requireCrewAdmin (h : NotAdmin ctx) (eventID : Int) :
    (requireCrewAdmin ctx eventID).Every (KeptAnswers sortKey env db₀)
      (onlyWrites (unprivilegedWrites db₀)) (fun _ => True) fun _ => False := by
  cases ctx with
  | none => exact Call.every_throw trivial
  | some claims =>
      have hperms : (eventPermissions (some eventID) claims).Every anyAnswer anyOp (fun _ => True)
          fun perms => perms.2 = globalPermissions claims.handle claims.admin := by
        refine Call.every_bind (Call.every_any _) fun participation _ => ?_
        exact Call.every_bind (Call.every_any _) fun masks _ => Call.every_pure rfl
      have hreads : (fromPerson (fromIms (Call.mapErr (internalError "failed to compute permissions")
          (eventPermissions (some eventID) claims)))).Every (KeptAnswers sortKey env db₀)
          (onlyWrites (unprivilegedWrites db₀)) (fun _ => True) fun perms =>
            perms.2 = globalPermissions claims.handle claims.admin := by
        refine every_fromPerson (Call.every_widen (fun β o _ => ?_) (fun _ _ _ _ => trivial)
          (Call.every_mapErr hperms))
        cases o with
        | write c q => exact (trivial : personWrites db₀ c _ (.inl q))
        | _ => trivial
      refine Call.every_bind (Q := (· = claims)) rfl fun caller hself => ?_
      subst hself
      refine Call.every_bind hreads fun perms hperms => ?_
      rw [hperms, h caller rfl, (hasBit_globalPermissions caller.handle).2]
      exact Call.every_throw trivial

theorem keeps_notAdmin (h : NotAdmin ctx) (eventID : Int) (f : Unit → CrewGo ConnectError α) :
    Keeps sortKey env db₀ (requireCrewAdmin ctx eventID >>= f) :=
  Call.every_bind (every_requireCrewAdmin h eventID) fun _ hno => hno.elim

/-- A member is taken out by a crew's leader only if their flag was looked at, and was not set. -/
theorem keeps_removeNonLeader (eventID : Int) (slug : String) (personID : Int) :
    Keeps sortKey env db₀ (removeNonLeader eventID slug personID) := by
  have hlook : (Call.result (crewSelect .pool (.crewMembership eventID slug personID) id) :
      CrewGo ConnectError (Except SqlErr Bool)).Every (KeptAnswers sortKey env db₀)
      (onlyWrites (unprivilegedWrites db₀)) (fun _ => True) fun r =>
        KeptAnswers sortKey env db₀ _ (.read .pool (.inr (.crewMembership eventID slug personID))) r :=
    ⟨trivial, fun r hr => by cases r <;> exact hr⟩
  refine Call.every_bind hlook fun r hr => ?_
  cases r with
  | error err =>
      cases err with
      | noRows => exact Call.every_pure trivial
      | _ => exact Call.every_throw trivial
  | ok isLeader =>
      refine Call.every_bind (Call.every_ensure_true trivial) fun _ hplain => keeps_crewExec ?_
      intro hled
      obtain ⟨db, hsame, heval⟩ := answersFrom_of_answersIn hr isLeader rfl
      have hrow : db.crewMembership.find? (eventID, slug, personID) = some isLeader :=
        DB.one_eq_ok.mp heval
      have hleads := (hsame.leader eventID slug personID).mpr hled
      rw [DB.LeadsCrew, hrow] at hleads
      cases hleads
      cases hplain

/-- **SetMyCrewMembership.** -/
theorem keeps_setMyCrewMembership (req : SetCrewMembershipRequest) :
    Keeps sortKey env db₀ (setMyCrewMembership ctx req) := by
  refine (keeps_fromIms _).bind fun claims => (keeps_fromIms _).bind fun ledSlugs => ?_
  refine Keeps.bind (Call.every_ensure (fun _ => trivial) fun _ => trivial) fun _ => ?_
  refine Keeps.bind ?_ fun _ => keeps_invalidateCrews _
  refine Keeps.bind (Call.every_ensure (fun _ => trivial) fun _ => trivial) fun _ => ?_
  exact Call.every_ite (fun _ => keeps_removeNonLeader _ _ _) fun _ => keeps_crewExec trivial

/-! ## Runs -/

variable {s : PersonService} {cs : CrewService}

/-- Whatever a caller who is no administrator calls, no statement of it gives or takes anything
reserved. -/
theorem PeopleCall.keeps {c : PeopleCall} (h : NotAdmin c.ctx) :
    Keeps sortKey env db₀ (c.call s cs) := by
  obtain ⟨ctx, request⟩ := c
  cases request with
  | createPerson req =>
      refine every_fromPerson (Issues.bind (issues_createPerson permitsIms (fun _ _ _ _ => trivial) ?_)
        fun _ => Call.every_pure trivial)
      rintro p e wristband t (hadmin | hmay)
      · exact (h.not_administers hadmin).elim
      · show isReserved t = false
        rw [isReserved_eq, hmay]
        rfl
  | updatePerson req => exact every_fromPerson (issues_notAdmin h _)
  | setPersonPassword personID password useDefault => exact every_fromPerson (issues_notAdmin h _)
  | setPersonAdmin personID isAdmin =>
      refine every_fromPerson ?_
      cases ctx with
      | none => exact Call.every_throw trivial
      | some claims =>
          refine Call.every_bind (Q := (· = claims)) rfl fun caller hself => ?_
          subst hself
          rw [h caller rfl]
          exact Call.every_throw trivial
  | setPersonParticipation req => exact every_fromPerson (issues_setParticipation h req)
  | removePersonFromEvent personID eventID => exact every_fromPerson (issues_notAdmin h _)
  | deletePersonProfilePicture personID => exact every_fromPerson (issues_notAdmin h _)
  | changeOwnPassword password =>
      exact every_fromPerson (issues_changeOwnPassword permitsIms s password fun _ _ _ _ => trivial)
  | updateOwnProfile patch =>
      exact every_fromPerson ((issues_resolveSelf permitsIms).bind fun person =>
        (issues_applyProfileFields fun _ _ _ => trivial).mapErr.bind fun _ =>
          issues_invalidateUsers)
  | deleteOwnProfilePicture =>
      exact every_fromPerson ((issues_resolveSelf permitsIms).bind fun person =>
        (issues_clearProfilePicture trivial _).mapErr)
  | createCrew req => exact (keeps_notAdmin h _ _).bind fun _ => Call.every_pure trivial
  | updateCrew req => exact keeps_notAdmin h _ _
  | deleteCrew eventID crewSlug => exact keeps_notAdmin h _ _
  | setCrewMembership req => exact keeps_notAdmin h _ _
  | setMyCrewMembership req => exact keeps_setMyCrewMembership req
  | reading x hx =>
      refine hx.mono (fun _ _ _ _ => trivial) (fun β o ho => ?_) (fun _ h => h) fun _ h => h
      cases o with
      | write c q => exact ho.elim
      | _ => trivial
  | ofOtherServices x => exact keeps_fromIms x

end Calls

section Runs

variable {ι : Type} [DecidableEq ι]

/-- Calls that have not started yet, on one database. -/
def peopleSys (s : PersonService) (cs : CrewService) (calls : ι → PeopleCall) (db : DB)
    (nextId : Int) :
    Sys (fun β => (Read β ⊕ PersonRead β) ⊕ CrewRead β)
      (fun β => (Write β ⊕ PersonWrite β) ⊕ CrewWrite β)
      (fun β => (Ask β ⊕ PersonAsk β) ⊕ CrewAsk β) SqlErr ((Effect ⊕ PersonEffect) ⊕ CrewEffect) DB
      (Except ConnectError Unit) ι :=
  ⟨fun i => ((calls i).call s cs).prog, { db, nextId }⟩

/-- **No escalation.** However the statements of calls by callers who are not administrators come
about, nobody gains or loses the admin flag, a reserved rung or the lead of a crew. -/
theorem samePrivileges_of_run (s : PersonService) (cs : CrewService) (sortKey : String → String)
    (env : CrewEnv) (calls : ι → PeopleCall) (hcalls : ∀ i, NotAdmin (calls i).ctx) (db : DB)
    (nextId : Int) {as : List ι} {sys}
    (hr : Run (Sys.turn (crewDB sortKey) env) (peopleSys s cs calls db nextId) as sys) :
    SamePrivileges db sys.world.db := by
  have hstart : (peopleSys s cs calls db nextId).world.Holds (SamePrivileges db)
      (SamePrivileges db) :=
    ⟨samePrivileges_refl db, fun _ h => nomatch h⟩
  have hprocs : ∀ i, ((peopleSys s cs calls db nextId).procs i).Every (KeptAnswers sortKey env db)
      (onlyWrites (unprivilegedWrites db)) (Call.Outcome (fun _ => True) fun _ => True) :=
    fun i => PeopleCall.keeps (hcalls i)
  exact (holds_of_run (fun _ _ _ _ _ _ _ hq h happly => h.apply hq happly) hprocs hstart hr).1

end Runs

/-- An event with a writer, a crew with its leader, and somebody new. -/
def inviterDB : DB where
  event := Table.empty.insert 1 { name := "fair" }
  person := ((Table.empty.insert 1 { handle := some "Hawk" }).insert 2
    { handle := some "Lark" }).insert 3 { handle := some "Wren" }
  personEvent := Table.empty.insert (1, 1) { participationType := .writer }
  crew := Table.empty.insert (1, "gate") { name := "Gate" }
  crewMembership := Table.empty.insert (1, "gate", 2) true

/-- The writer enrols the newcomer as a reporter, while the crew's leader takes them into the crew. -/
def inviteAndRecruit : Bool → PeopleCall
  | true => ⟨some ⟨1, "Hawk", false⟩,
      .setPersonParticipation ⟨3, 1, "", some .reporter⟩⟩
  | false => ⟨some ⟨2, "Lark", false⟩,
      .setMyCrewMembership { eventID := 1, crewSlug := "gate", personID := 3 }⟩

theorem samePrivileges_of_run_inviter : ∃ sys,
    Run (Sys.turn (crewDB id) stillCrewEnv) (peopleSys {} { unicode := ⟨id, id⟩ }
      inviteAndRecruit inviterDB 9)
      [true, false, true, false, true, false, true, true, true, true] sys ∧
    SamePrivileges inviterDB sys.world.db := by
  have hrun : (RunLib.exec (Sys.turn (crewDB id) stillCrewEnv)
      (peopleSys {} { unicode := ⟨id, id⟩ } inviteAndRecruit inviterDB 9)
      [true, false, true, false, true, false, true, true, true, true]).isSome = true := by
    decide
  obtain ⟨sys, hsys⟩ := Option.isSome_iff_exists.mp hrun
  refine ⟨sys, run_of_exec hsys, samePrivileges_of_run {} { unicode := ⟨id, id⟩ } id
    stillCrewEnv inviteAndRecruit ?_ inviterDB 9 (run_of_exec hsys)⟩
  intro i claims hclaims
  cases i <;> cases hclaims <;> rfl

end OcfIms
