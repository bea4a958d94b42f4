import OcfIms.DefaultPassword
import OcfIms.Privileges
import OcfIms.RosterWristband
import OcfIms.SameReads

/-!
# The ceiling of the roster

The card of a person on the roster offers the rungs its viewer may give them, and the forms of Remove.
What it offers is worked out on the screen, from the session status and from the row of the list; what
the viewer may really do, the server decides when the call arrives. The two are written apart: the
screen is to offer nothing the server refuses, and to leave out nothing it takes, but for what it
withholds by design.

The status, the list and the call are three requests. In between, profiles and passwords may change,
but no participation, crew or event.
-/

namespace OcfIms.RosterCeiling

open TxnLib

/-! ## What the card offers -/

def isAdmin (auth : Option AuthStatus) : Bool :=
  match auth with
  | some auth => auth.authenticated && auth.admin
  | none => false

def eventAccess (auth : Option AuthStatus) (eventId : Int) : AccessForEvent :=
  match auth.bind (·.eventAccess) with
  | some (e, access) => if e = eventId then access else {}
  | none => {}

structure RosterAccess where
  admin : Bool
  inviteReporters : Bool
  writeIncidents : Bool
  deriving DecidableEq, Repr

def rosterAccessFrom (auth : Option AuthStatus) (eventId : Int) : RosterAccess where
  admin := isAdmin auth
  inviteReporters := (eventAccess auth eventId).inviteReporters
  writeIncidents := (eventAccess auth eventId).writeIncidents

def adminRungs : List ParticipationType := [.writer, .reporter, .volunteer, .public]

def inviterRungs : List ParticipationType := [.reporter, .volunteer, .public]

def noLoginRungs : List ParticipationType := [.volunteer, .public]

def rungsFor (access : RosterAccess) (person : PersonMsg) : List ParticipationType :=
  if !access.admin && !access.inviteReporters then []
  else if !access.admin && (person.participationType == some .writer ||
      person.participationType == some .crewLeader) then []
  else if access.admin && !person.hasPassword then noLoginRungs
  else if access.admin then adminRungs else inviterRungs

def mayRemove (access : RosterAccess) (person : PersonMsg) : Bool := rungsFor access person != []

/-- What `ProfileCard` offers: the rungs of the menu, and the forms of Remove. -/
def offers (access : RosterAccess) (person : PersonMsg) : List ParticipationType :=
  rungsFor access person ++
    if mayRemove access person then
      if access.admin then [.notPresent, .ejected] else [.notPresent]
    else []

/-- What the server's rules allow, and the card does not offer: to an admin the rung that is derived
from leading a crew, and for somebody without a password the rungs of those who sign in; to others
the ejection. -/
def Withheld (access : RosterAccess) (person : PersonMsg) (rung : ParticipationType) : Prop :=
  if access.admin then
    rung = .crewLeader ∨ person.hasPassword = false ∧ (rung = .writer ∨ rung = .reporter)
  else rung = .ejected

/-! ## What the status and the list tell -/

/-- Those who administer the personnel are the admins. -/
theorem administers_eq (handle : String) (isAdmin : Bool) :
    hasBit (globalPermissions handle isAdmin) globalAdministratePersonnel = isAdmin := by
  cases isAdmin with
  | false => exact (hasBit_globalPermissions handle).1
  | true =>
      rw [globalPermissions]
      split <;> decide

/-- The caller may invite to the event, which exists. -/
def mayInvite (db : DB) (e : Int) (claims : IMSClaims) : Bool :=
  db.event.contains e && hasBit (eventMaskIn db e claims) eventInviteReporters

section Gates

variable {db₀ db : DB} {e : Int} {claims : IMSClaims}

theorem mayInvite_congr (h : SameGates db₀ db) : mayInvite db e claims = mayInvite db₀ e claims := by
  rw [mayInvite, mayInvite, h.eventMaskIn, h.event]

theorem participationIn_congr (h : SameGates db₀ db) (person : Int) :
    participationIn db e person = participationIn db₀ e person := by
  rw [participationIn, participationIn, h.personEvent]

end Gates

section Programs

variable {Rd Wr Ask : Type → Type} {ε Out σ α η : Type} {S : Store Rd Wr ε σ} {env : Env Ask} {s : σ}
  {x : Call (DbOp Rd Wr Ask ε Out) η α}

/-- The world of a call without a transaction of its own, in one state of the store. -/
abbrev In (s : σ) : World σ Out → Prop := World.Holds (· = s) fun _ => True

theorem triple_any {I : World σ Out → Prop} :
    Call.Triple S env I x (fun _ _ => True) fun _ _ => True := by
  intro w _
  rcases x.run S env w with ⟨_ | _, _⟩ <;> trivial

/-- What a reading program returns, if it returns. -/
theorem triple_of_reads {a : α} {k : Nat} (hx : x.Reads S env s (.ok a) k) :
    Call.Triple S env (In s) x (fun b w => In s w ∧ b = a) fun _ _ => True := by
  intro w hw
  by_cases hq : env.QuietFor w.tick k
  · rw [(hx w hw.1).1 hq]
    exact ⟨hw, rfl⟩
  · obtain ⟨e, t, hrun⟩ := (hx w hw.1).2 hq
    rw [hrun]
    trivial

/-- What a reading program returns, and the errors it may end with. -/
theorem triple_looked {E : η → Prop} {Q : α → Prop}
    (hx : x.Every (truthful S s) readsPool (fun _ => True) Q)
    (herrors : x.Every anyAnswer anyOp E fun _ => True) :
    Call.Triple S env (In s) x (fun a w => In s w ∧ Q a) fun e _ => E e := by
  have hvalue : Call.Triple S env (In s) x (fun a w => In s w ∧ Q a) fun _ _ => True :=
    Call.triple_reads hx fun _ _ _ _ => trivial
  have herror : Call.Triple S env (fun _ => True) x (fun _ _ => True) fun e _ => E e :=
    (Call.triple_every (I := fun _ => True) (fun _ _ _ _ _ => ⟨trivial, trivial⟩) herrors).conseq
      (fun _ h => h) (fun _ _ _ => trivial) fun _ _ h => h.2
  exact (hvalue.and herror).conseq (fun _ h => ⟨h, trivial⟩) (fun _ _ h => h.1) fun _ _ h => h.2

end Programs

section Status

variable {sortKey : String → String} {env : AuthEnv} {db₀ db : DB}

theorem triple_accessForEvent (s : AuthStatusService) (claims : IMSClaims) (e : Int) :
    Call.Triple (authDB sortKey) env (In db) (accessForEvent s claims e)
      (fun access _ => access.inviteReporters = mayInvite db e claims) fun _ _ => True := by
  have hevent : (Call.result (fromPersonnel (fromIms (select .pool (.event e) id))) :
      AuthGo ConnectError _).Every (truthful (authDB sortKey) db) readsPool (fun _ => True)
      (Call.Outcome (fun err => err = .noRows → db.event.contains e = false)
        fun event => event.id = e ∧ db.event.contains e = true) := by
    refine Call.every_result (Call.every_widen_reads (Call.every_widen_reads (every_read ?_ ?_)))
    · intro event hread
      rw [Read.eval, DB.one_eq_ok, Option.map_eq_some_iff] at hread
      obtain ⟨row, hrow, rfl⟩ := hread
      exact ⟨rfl, Table.contains_iff.mpr ⟨row, hrow⟩⟩
    · intro err hread hnone
      subst hnone
      rcases hread with hread | ⟨n, hread⟩
      · rw [Table.contains_eq_false_iff]
        cases hfind : db.event.find? e with
        | none => rfl
        | some row =>
            rw [Read.eval, hfind] at hread
            cases hread
      · cases hread
  refine Call.Triple.bind_fact (Call.triple_reads hevent fun _ _ _ _ => trivial) fun r hr => ?_
  rcases r with err | event
  · cases err with
    | noRows =>
        refine Call.triple_pure fun _ _ => ?_
        rw [mayInvite, hr rfl, Bool.false_and]
    | _ => exact Call.triple_throw fun _ _ => trivial
  · obtain ⟨rfl, hcontains⟩ := hr
    have hmasks : Call.Triple (authDB sortKey) env (In db)
        (Call.mapErr (internalError "failed to fetch event permissions")
          (fromPersonnel (fromIms (eventPermissions (some event.id) claims))))
        (fun masks w => In db w ∧ masks = ([(event.id, eventMaskIn db event.id claims)],
          globalPermissions claims.handle claims.admin)) fun _ _ => True :=
      triple_of_reads
        ((Call.Reads.widen (Call.Reads.widen (reads_eventPermissions event.id claims))).mapErr _)
    refine Call.Triple.bind_fact hmasks fun masks hmasks => ?_
    subst hmasks
    dsimp only
    simp only [eventMasks_get_singleton]
    refine Call.triple_ite (fun _ => ?_) fun _ => ?_ <;>
      refine triple_any.bind fun _ => Call.triple_pure fun _ _ => ?_ <;>
      rw [mayInvite, hcontains, Bool.true_and]

/-- The writes of the session status. -/
def marksPassword : Conn → ∀ β : Type, (Write β ⊕ PersonWrite β) ⊕ AuthWrite β → Prop
  | _, _, .inr (.markPasswordChanged _) => True
  | _, _, _ => False

theorem every_usingDefaultPassword (s : AuthStatusService) (claims : IMSClaims) :
    (usingDefaultPassword s claims).Every anyAnswer (writesIn marksPassword) (fun _ => True)
      fun _ => True := by
  rw [usingDefaultPassword]
  refine Call.every_ite (fun _ => Call.every_pure trivial) fun _ => ?_
  have hdirectory : (getDirectory (internalError "failed to fetch personnel")).Every anyAnswer
      (writesIn marksPassword) (fun _ => True) fun _ => True :=
    Call.every_mapErr (Call.every_attempt trivial (fun _ _ => trivial) fun _ _ => trivial)
  refine Call.every_bind hdirectory fun people _ => ?_
  cases people.find? fun person => person.id == claims.personID with
  | none => exact Call.every_pure trivial
  | some person =>
      refine Call.every_ite (fun _ => Call.every_pure trivial) fun _ => ?_
      dsimp only
      split
      · exact Call.every_pure trivial
      · have hmark : (Call.result (authExec .pool (.markPasswordChanged claims.personID) id) :
            AuthGo ConnectError _).Every anyAnswer (writesIn marksPassword) (fun _ => True)
            fun _ => True := by
          refine (Call.every_result (E := fun _ => True) (Q := fun _ => True) ?_).mono
            (fun _ _ _ h => h) (fun _ _ h => h) (fun _ h => h) fun _ _ => trivial
          exact Call.every_mapErr (Call.every_attempt trivial (fun _ _ => trivial) fun _ _ => trivial)
        refine Call.every_bind hmark fun marked _ => ?_
        cases marked with
        | error _ => exact Call.every_pure trivial
        | ok _ =>
            refine Call.every_bind (Q := fun _ => True) ?_ fun _ _ => Call.every_pure trivial
            exact Call.every_perform trivial fun _ _ => trivial

/-- What the screen makes of the status is what the tables say. -/
def AccessTold (db : DB) (e : Int) (ctx : Option IMSClaims) (access : RosterAccess) : Prop :=
  ∀ claims, ctx = some claims →
    access.admin = claims.admin ∧ access.inviteReporters = mayInvite db e claims

theorem triple_getAuthStatus (s : AuthStatusService) (ctx : Option IMSClaims) (e : Int) :
    Call.Triple (authDB sortKey) env (World.At .pool (SameGates db₀)) (getAuthStatus s ctx (some e))
      (fun status _ => AccessTold db₀ e ctx (rosterAccessFrom (some status) e)) fun _ _ => True := by
  cases ctx with
  | none => exact Call.triple_pure fun _ _ claims h => nomatch h
  | some claims =>
      have hglobals : Call.Triple (authDB sortKey) env (World.At .pool (SameGates db₀))
          (Call.mapErr (internalError "failed to fetch permissions")
            (fromPersonnel (fromIms (eventPermissions none claims))))
          (fun _ => World.At .pool (SameGates db₀)) fun _ _ => True :=
        Call.triple_pure fun _ h => h
      have hdefault : Call.Triple (authDB sortKey) env (World.At .pool (SameGates db₀))
          (usingDefaultPassword s claims) (fun _ => World.At .pool (SameGates db₀))
          fun _ _ => True := by
        refine (Call.triple_at_writesIn (fun β q id db b db' hq h happly => ?_)
          (every_usingDefaultPassword s claims) fun _ _ => trivial).conseq (fun _ h => h)
          (fun _ _ h => h.1) fun _ _ h => h
        cases q with
        | inl q => exact hq.elim
        | inr q =>
            cases q
            cases happly
            exact ⟨h.event, h.personEvent, h.crewMembership⟩
      refine hglobals.bind fun _ => hdefault.bind fun _ => Call.Triple.of_pool fun db hdb => ?_
      have haccess : Call.Triple (authDB sortKey) env (World.At .pool (· = db))
          (accessForEvent s claims e)
          (fun access _ => access.inviteReporters = mayInvite db₀ e claims) fun _ _ => True :=
        (triple_accessForEvent s claims e).conseq (fun w hw => ⟨hw w.db rfl, fun _ _ => trivial⟩)
          (fun _ _ h => h.trans (mayInvite_congr hdb)) fun _ _ h => h
      have hpair : Call.Triple (authDB sortKey) env (World.At .pool (· = db))
          (OcfIms.eventAccess s claims (some e))
          (fun access _ => ∃ a, access = some (e, a) ∧
            a.inviteReporters = mayInvite db₀ e claims) fun _ _ => True :=
        haccess.bind fun a => Call.triple_pure fun _ ha => ⟨a, rfl, ha⟩
      refine hpair.bind fun access => Call.triple_pure fun _ haccess claims' hclaims => ?_
      obtain ⟨a, rfl, ha⟩ := haccess
      cases hclaims
      refine ⟨Bool.true_and _, ?_⟩
      simp only [rosterAccessFrom, eventAccess, Option.bind_some, if_pos]
      exact ha

end Status

section Listing

variable {c : Collation} {env : PersonnelEnv} {db₀ db : DB}

theorem eventRoster_participation {e : Int} {row : EventRosterRow} (h : row ∈ db.eventRoster c e) :
    participationIn db e row.id = some row.participationType := by
  rw [DB.eventRoster, List.mem_insertionSort, List.mem_filterMap] at h
  obtain ⟨person, -, hrow⟩ := h
  rw [Option.map_eq_some_iff] at hrow
  obtain ⟨pe, hpe, rfl⟩ := hrow
  rw [participationIn, DB.eventRosterRow, hpe]
  rfl

/-- The request of a roster. -/
def rosterRequest (eventId : Int) (showAll : Bool) : ListPersonnelRequest :=
  { eventId, all := true, showAll }

/-- A caller who is no admin is shown the participations of the event. -/
def RungsTold (db : DB) (e : Int) (ctx : Option IMSClaims) (people : List PersonMsg) : Prop :=
  ∃ claims, ctx = some claims ∧ (claims.admin = false →
    ∀ p ∈ people, p.participationType = participationIn db e p.personId)

/-- The gates of the listing read only, and only a roster passes them for a caller who is no admin. -/
theorem triple_requireListing (claims : IMSClaims) (e : Int) (rosterOnly isPersonnelAdmin : Bool) :
    Call.Triple (personnelDB c) env (In db) (requireListing claims e rosterOnly isPersonnelAdmin)
      (fun _ w => In db w ∧ (isPersonnelAdmin = false → rosterOnly = true)) fun _ _ => True := by
  rw [requireListing]
  refine Call.triple_ite (fun hadmin => ?_) fun hadmin => ?_
  · exact Call.triple_pure fun _ h => ⟨h, fun hnot => by rw [hnot] at hadmin; cases hadmin⟩
  · have honly : Call.Triple (personnelDB c) env (In db)
        (Call.ensure rosterOnly (HTTPError.forbidden
          "The requestor does not have GlobalAdministratePersonnel permission") : PersonnelGo _ _)
        (fun _ w => In db w ∧ rosterOnly = true) fun _ _ => True :=
      Call.triple_ensure (fun _ h honly => ⟨h, honly⟩) fun _ _ _ => trivial
    refine Call.Triple.bind_fact honly fun _ honly => ?_
    have hperms : Call.Triple (personnelDB c) env (In db)
        (Call.mapErr (HTTPError.internalServerError "Failed to compute permissions")
          (personnelFromIms (eventPermissions (some e) claims)))
        (fun _ w => In db w) fun _ _ => True :=
      (triple_of_reads ((Call.Reads.widen (reads_eventPermissions e claims)).mapErr _)).conseq
        (fun _ h => h) (fun _ _ h => h.1) fun _ _ h => h
    refine hperms.bind fun perms => ?_
    exact Call.triple_ensure (fun _ h _ => ⟨h, fun _ => honly⟩) fun _ _ _ => trivial

theorem triple_look {ε α : Type} {x : PersonnelGo ε α} {Q : α → Prop}
    (hx : x.Every (truthful (personnelDB c) db) readsPool (fun _ => True) Q) :
    Call.Triple (personnelDB c) env (In db) x (fun a w => In db w ∧ Q a) fun _ _ => True :=
  Call.triple_reads hx fun _ _ _ _ => trivial

theorem triple_listAll (claims : IMSClaims) (hadmin : claims.admin = false) (e : Int)
    (showAll : Bool) :
    Call.Triple (personnelDB c) env (In db)
      (listAllPersonnel claims e showAll (globalPermissions claims.handle claims.admin))
      (fun people _ => ∀ p ∈ people, p.participationType = participationIn db e p.personID)
      fun _ _ => True := by
  rw [listAllPersonnel, administers_eq, hadmin]
  have hrest : Call.Triple (personnelDB c) env (In db)
      (do
        requireListing claims e (e != 0 && !showAll) false
        let crews ← crewsIfEvent e
        if (e != 0 && !showAll) = true then do
          let rows ← personnelSelect (.eventRoster e)
            (.internalServerError "Failed to get personnel")
          pure (rows.map (rosterPerson false crews))
        else do
          let rows ← personnelSelect (.allPeople e)
            (.internalServerError "Failed to get personnel")
          pure (rows.map (listedPerson crews)))
      (fun people _ => ∀ p ∈ people, p.participationType = participationIn db e p.personID)
      fun _ _ => True := by
    refine Call.Triple.bind_fact (triple_requireListing _ _ _ _) fun _ honly => ?_
    rw [honly rfl]
    refine Call.Triple.bind_fact (triple_look (every_crewsIfEvent e)) fun crews _ => ?_
    rw [if_pos rfl]
    refine Call.Triple.bind_fact (triple_look every_personnelSelect) fun rows hrows => ?_
    cases hrows
    refine Call.triple_pure fun _ _ p hp => ?_
    obtain ⟨row, hrow, rfl⟩ := List.mem_map.mp hp
    exact (eventRoster_participation hrow).symm
  refine Call.triple_ite (fun _ => ?_) fun _ => hrest
  exact Call.Triple.bind_fact (triple_look (every_requirePersonnelEvent e)) fun _ _ => hrest

theorem triple_listPersonnel (ctx : Option IMSClaims) (e : Int) (showAll : Bool) :
    Call.Triple (personnelDB c) env (In db) (listPersonnelRPC ctx (rosterRequest e showAll))
      (fun people _ => RungsTold db e ctx people) fun _ _ => True := by
  cases ctx with
  | none => exact Call.triple_throw fun _ _ => trivial
  | some claims =>
      have hlist : Call.Triple (personnelDB c) env (In db)
          (listPersonnel claims (rosterRequest e showAll))
          (fun people _ => claims.admin = false →
            ∀ p ∈ people, p.participationType = participationIn db e p.personID)
          fun _ _ => True := by
        cases hadmin : claims.admin with
        | true => exact triple_any.conseq (fun _ _ => trivial) (fun _ _ _ h => nomatch h) fun _ _ h => h
        | false =>
            have hpass : Call.Triple (personnelDB c) env (In db)
                (Call.ensure (hasBit (globalPermissions claims.handle claims.admin)
                  globalReadPersonnel) (HTTPError.forbidden
                    "The requestor does not have GlobalReadPersonnel permission") :
                  PersonnelGo _ _) (fun _ w => In db w) fun _ _ => True :=
              Call.triple_ensure (fun _ h _ => h) fun _ _ _ => trivial
            have hperms : Call.Triple (personnelDB c) env (In db)
                (Call.mapErr (HTTPError.internalServerError "Failed to compute permissions")
                  (personnelFromIms (eventPermissions none claims)))
                (fun perms w => In db w ∧
                  perms.2 = globalPermissions claims.handle claims.admin) fun _ _ => True :=
              Call.triple_pure fun _ h => ⟨h, rfl⟩
            refine Call.Triple.bind_fact hperms fun perms hperms => ?_
            rw [hperms]
            refine hpass.bind fun _ => ?_
            have hempty : trimSpace "" = "" := by decide
            rw [show trimSpace (rosterRequest e showAll).query = "" from hempty]
            exact (triple_listAll claims hadmin e showAll).conseq (fun _ h => h)
              (fun _ _ h _ => h) fun _ _ h => h
      have hauth : Call.Triple (personnelDB c) env (In db)
          (personnelFromIms (authenticated (some claims)))
          (fun claims' w => In db w ∧ claims' = claims) fun _ _ => True :=
        Call.triple_pure fun _ h => ⟨h, rfl⟩
      refine Call.Triple.bind_fact hauth fun claims' hclaims => ?_
      subst hclaims
      refine (Call.Triple.mapErr hlist).bind fun people => Call.triple_pure fun _ hpeople => ?_
      refine ⟨claims', rfl, fun hadmin p hp => ?_⟩
      obtain ⟨person, hperson, rfl⟩ := List.mem_map.mp hp
      exact hpeople hadmin person hperson

end Listing

/-! ## What the server decides -/

section Server

variable {sortKey : String → String} {env : PersonEnv} {db : DB} {claims : IMSClaims}
  {req : SetPersonParticipationRequest}

def NotDenied (err : ConnectError) : Prop := err.code ≠ .permissionDenied

theorem triple_errors {ε α : Type} {x : PersonGo ε α} {E : ε → Prop} {I : PersonWorld → Prop}
    (hx : x.Every anyAnswer anyOp E fun _ => True) :
    Call.Triple (personDB sortKey) env I x (fun _ _ => True) fun err _ => E err :=
  (Call.triple_every (I := fun _ => True) (fun _ _ _ _ _ => ⟨trivial, trivial⟩) hx).conseq
    (fun _ _ => trivial) (fun _ _ _ => trivial) fun _ _ h => h.2

/-- Writing a participation is never denied. -/
theorem every_setPersonEvent (person event : Int) (wristband : Option SqlText)
    (participation : ParticipationType) :
    (Call.mapErr herrToConnect (setPersonEvent person event wristband participation)).Every
      anyAnswer anyOp NotDenied fun _ => True := by
  have hexec : ∀ q : PersonWrite Unit, (personExec .pool q wristbandConflict).Every anyAnswer anyOp
      (fun err => NotDenied (herrToConnect err)) fun _ => True := by
    intro q
    refine Call.every_mapErr (Call.every_attempt trivial (fun err _ => ?_) fun _ _ => trivial)
    rw [wristbandConflict]
    split <;> exact fun h => nomatch h
  refine Call.every_mapErr (Call.every_bind (Q := fun _ => True) ?_ fun r _ => ?_)
  · exact (Call.every_result (Call.every_any _)).mono (fun _ _ _ h => h) (fun _ _ h => h)
      (fun _ h => h) fun _ _ => trivial
  · rcases r with err | row
    · cases err with
      | noRows => exact hexec _
      | _ => exact Call.every_throw fun h => nomatch h
    · exact hexec _

theorem triple_person (personID : Int) :
    Call.Triple (personDB sortKey) env (In db)
      (Call.mapErr herrToConnect (personByIDRow personID))
      (fun person w => In db w ∧ person.id = personID) fun err _ => NotDenied err := by
  refine Call.Triple.mapErr (triple_looked ?_ ?_)
  · refine Call.every_mapErr (Call.every_attempt trivial (fun _ _ => trivial) fun row hrow => ?_)
    rcases hrow with hrow | ⟨n, hrow⟩
    · obtain ⟨p, -, rfl⟩ := Option.map_eq_some_iff.mp (DB.one_eq_ok.mp hrow.symm)
      rfl
    · cases hrow
  · refine Call.every_mapErr (Call.every_attempt trivial (fun err _ => ?_) fun _ _ => trivial)
    split <;> exact fun h => nomatch h

theorem triple_event (eventID : Int) :
    Call.Triple (personDB sortKey) env (In db) (Call.mapErr herrToConnect (requireEvent eventID))
      (fun _ w => In db w ∧ db.event.contains eventID = true) fun err _ => NotDenied err := by
  have hvalue : (fromIms (select .pool (.event eventID) fun err =>
      if err = .noRows then HTTPError.notFound "No such event" (some err)
      else .internalServerError "Failed to get event" err)).Every (truthful (personDB sortKey) db)
      readsPool (fun _ => True) fun _ => db.event.contains eventID = true := by
    refine Call.every_widen_reads (every_read (fun event hevent => ?_) fun _ _ => trivial)
    obtain ⟨row, hrow, -⟩ := Option.map_eq_some_iff.mp (DB.one_eq_ok.mp hevent)
    exact Table.contains_iff.mpr ⟨row, hrow⟩
  refine Call.Triple.mapErr (triple_looked ?_ ?_)
  · exact Call.every_bind hvalue fun _ h => Call.every_pure h
  · refine Call.every_bind (Q := fun _ => True) ?_ fun _ _ => Call.every_pure trivial
    refine Call.every_mapErr (Call.every_attempt trivial (fun err _ => ?_) fun _ _ => trivial)
    split <;> exact fun h => nomatch h

theorem triple_permissions (eventID : Int) :
    Call.Triple (personDB sortKey) env (In db) (fromIms (permissionsAt eventID claims))
      (fun perms w => In db w ∧ perms = eventMaskIn db eventID claims) fun err _ => NotDenied err := by
  refine triple_looked (Call.every_widen_reads (every_permissionsAt (fun _ => trivial) _ _)) ?_
  have herrors : (permissionsAt eventID claims).Every anyAnswer anyOp NotDenied fun _ => True := by
    refine Call.every_bind (Q := fun _ => True) ?_ fun _ _ => Call.every_pure trivial
    exact Call.every_mapErr ((Call.every_any _).mono (fun _ _ _ h => h) (fun _ _ h => h)
      (fun _ _ h => nomatch h) fun _ h => h)
  exact Call.every_widen (fun _ _ _ => trivial) (fun _ _ _ _ => trivial) herrors

/-- The person holds a rung at the event that only an admin gives and takes. -/
def holdsReserved (db : DB) (e person : Int) : Bool := (participationIn db e person).any isReserved

theorem triple_requireInvite (e : Int) :
    Call.Triple (personDB sortKey) env (In db) (requireInvite claims e)
      (fun _ w => In db w ∧ hasBit (eventMaskIn db e claims) eventInviteReporters = true)
      fun err _ => err.code = .permissionDenied →
        hasBit (eventMaskIn db e claims) eventInviteReporters = false := by
  refine Call.Triple.bind (J := fun perms w => In db w ∧ perms = eventMaskIn db e claims)
    ((triple_permissions e).conseq (fun _ h => h) (fun _ _ h => h) fun _ _ h hdenied =>
      absurd hdenied h) fun perms => ?_
  exact Call.triple_ensure (fun _ h hbit => ⟨h.1, h.2 ▸ hbit⟩) fun _ h hbit _ => h.2 ▸ hbit

theorem triple_requireRungs (person e : Int) (rung : ParticipationType) :
    Call.Triple (personDB sortKey) env (In db) (requireRungs person e rung)
      (fun _ _ => isReserved rung = false ∧ holdsReserved db e person = false)
      fun err _ => err.code = .permissionDenied →
        isReserved rung = true ∨ holdsReserved db e person = true := by
  have hrow : (Call.result (fromIms (select .pool (.personEvent person e) id)) :
      PersonGo ConnectError _).Every (truthful (personDB sortKey) db) readsPool (fun _ => True)
      (Call.Outcome (fun err => err = .noRows → participationIn db e person = none)
        fun pe => participationIn db e person = some pe.participationType) := by
    refine Call.every_result (Call.every_widen_reads (every_read ?_ ?_))
    · intro pe hread
      rw [Read.eval, DB.one_eq_ok] at hread
      rw [participationIn, hread]
      rfl
    · intro err hread hnone
      subst hnone
      rcases hread with hread | ⟨n, hread⟩
      · rw [participationIn]
        cases hfind : db.personEvent.find? (person, e) with
        | none => rfl
        | some pe =>
            rw [Read.eval, hfind] at hread
            cases hread
      · cases hread
  have hassign : Call.Triple (personDB sortKey) env (In db)
      (Call.ensure (mayAssignParticipation false rung) ⟨.permissionDenied,
        "Only an admin may assign the writer or crew_leader role"⟩ : PersonGo ConnectError _)
      (fun _ w => In db w ∧ isReserved rung = false) fun err _ => err.code = .permissionDenied →
        isReserved rung = true ∨ holdsReserved db e person = true := by
    refine Call.triple_ensure (fun _ h hmay => ⟨h, ?_⟩) fun _ _ hmay _ => .inl ?_
    · rw [isReserved_eq, hmay]
      rfl
    · rw [isReserved_eq, hmay]
      rfl
  refine Call.Triple.bind_fact hassign fun _ hrung => ?_
  refine Call.Triple.bind_fact ((triple_looked (E := fun _ => False) hrow ?_).conseq (fun _ h => h)
    (fun _ _ h => h) fun _ _ h => h.elim) fun r hr => ?_
  · exact Call.every_result (Call.every_any _) |>.mono (fun _ _ _ h => h) (fun _ _ h => h)
      (fun _ h => h) fun _ _ => trivial
  rcases r with err | current
  · cases err with
    | noRows =>
        refine Call.triple_pure fun _ _ => ⟨hrung, ?_⟩
        rw [holdsReserved, hr rfl]
        rfl
    | _ => exact Call.triple_throw fun _ _ h => by cases h
  · have hholds : holdsReserved db e person = isReserved current.participationType := by
      rw [holdsReserved, show participationIn db e person = some current.participationType from hr]
      rfl
    refine Call.triple_ensure (fun _ _ hmay => ⟨hrung, ?_⟩) fun _ _ hmay _ => .inr ?_
    · rw [hholds, isReserved_eq, hmay]
      rfl
    · rw [hholds, isReserved_eq, hmay]
      rfl

/-- What a caller may do to a person's participation, by the server's rules. -/
def Permits (db : DB) (claims : IMSClaims) (person e : Int) (rung : ParticipationType) : Prop :=
  claims.admin = true ∨ hasBit (eventMaskIn db e claims) eventInviteReporters = true ∧
    isReserved rung = false ∧ holdsReserved db e person = false

/-- **The server's ceiling.** Only what it permits is written; what it permits is not denied. -/
theorem triple_setParticipation (rung : ParticipationType) (personID e : Int) (wristband : String) :
    Call.Triple (personDB sortKey) env (In db) (setParticipation (some claims)
        { personID, eventID := e, wristband, participationType := some rung })
      (fun _ _ => db.event.contains e = true ∧ Permits db claims personID e rung)
      fun err _ => err.code = .permissionDenied → ¬ Permits db claims personID e rung := by
  -- What comes after the gates is never denied.
  have hset : ∀ {p : Prop}, p → Call.Triple (personDB sortKey) env (fun _ => True)
      (Call.mapErr herrToConnect (setPersonEvent personID e (wristbandNull (trimSpace wristband)) rung)
        >>= fun _ => invalidateUsers) (fun _ _ => p)
      fun err _ => err.code = .permissionDenied → ¬ Permits db claims personID e rung := by
    intro p hp
    refine (triple_errors (Call.every_bind (every_setPersonEvent _ _ _ _) fun _ _ => ?_)).conseq
      (fun _ _ => trivial) (fun _ _ _ => hp) fun _ _ h hdenied => absurd hdenied h
    exact Call.every_perform trivial fun _ _ => trivial
  have hglobals : Call.Triple (personDB sortKey) env (In db) (personnelGlobals (some claims))
      (fun r w => In db w ∧ r = (claims, globalPermissions claims.handle claims.admin))
      fun err _ => err.code = .permissionDenied → ¬ Permits db claims personID e rung :=
    Call.triple_pure fun _ h => ⟨h, rfl⟩
  refine Call.Triple.bind_fact hglobals fun r hr => ?_
  subst hr
  dsimp only
  rw [administers_eq]
  refine Call.Triple.bind_fact ((triple_person personID).conseq (fun _ h => h) (fun _ _ h => h)
    fun _ _ h hdenied => absurd hdenied h) fun person hperson => ?_
  rw [hperson]
  refine Call.Triple.bind_fact ((triple_event e).conseq (fun _ h => h) (fun _ _ h => h)
    fun _ _ h hdenied => absurd hdenied h) fun _ hevent => ?_
  cases hadmin : claims.admin with
  | true => exact (hset ⟨hevent, .inl hadmin⟩).conseq (fun _ _ => trivial) (fun _ _ h => h) fun _ _ h => h
  | false =>
      have hadmin' : ¬ claims.admin = true := fun h => by rw [hadmin] at h; cases h
      refine Call.Triple.bind_fact ((triple_requireInvite e).conseq (fun _ h => h) (fun _ _ h => h)
        fun _ _ h hdenied hpermits => ?_) fun _ hinvite => ?_
      · have hbit := (hpermits.resolve_left hadmin').1
        rw [h hdenied] at hbit
        cases hbit
      · refine Call.Triple.bind (J := fun _ _ => isReserved rung = false ∧
          holdsReserved db e personID = false)
          ((triple_requireRungs personID e rung).conseq (fun _ h => h) (fun _ _ h => h)
          fun _ _ h hdenied hpermits => ?_) fun _ => ?_
        · obtain ⟨-, hrung, hholds⟩ := hpermits.resolve_left hadmin'
          rcases h hdenied with h | h
          · rw [hrung] at h
            cases h
          · rw [hholds] at h
            cases h
        · exact Call.Triple.of_fact (fun _ h => h) fun h =>
            (hset ⟨hevent, .inr ⟨hinvite, h.1, h.2⟩⟩).conseq (fun _ _ => trivial) (fun _ _ h => h)
              fun _ _ h => h

end Server

/-! ## The screen and the server -/

theorem mem_offers {access : RosterAccess} {p : PersonMsg} {rung : ParticipationType} :
    rung ∈ offers access p ↔ rung ∈ rungsFor access p ∨ rungsFor access p ≠ [] ∧
      (rung = .notPresent ∨ access.admin = true ∧ rung = .ejected) := by
  rw [offers, mayRemove, List.mem_append]
  by_cases h : rungsFor access p = [] <;> cases access.admin <;> simp [h]

/-- An admin is offered everything but what is withheld. -/
theorem mem_offers_admin {access : RosterAccess} {p : PersonMsg} (h : access.admin = true)
    (rung : ParticipationType) : rung ∈ offers access p ∨ Withheld access p rung := by
  have hrungs : rungsFor access p = if p.hasPassword then adminRungs else noLoginRungs := by
    cases hpass : p.hasPassword <;> simp [rungsFor, h, hpass]
  rw [mem_offers, hrungs, Withheld, if_pos h]
  cases p.hasPassword <;> cases rung <;> simp [h, adminRungs, noLoginRungs]

/-- Whoever is no admin is offered what no admin must give, but for the ejection. -/
theorem mem_offers_inviter {access : RosterAccess} {p : PersonMsg} (h : access.admin = false)
    (rung : ParticipationType) :
    rung ∈ offers access p ↔ (access.inviteReporters = true ∧ isReserved rung = false ∧
      p.participationType.any isReserved = false) ∧ rung ≠ .ejected := by
  have hholds : p.participationType.any isReserved = (p.participationType == some .writer ||
      p.participationType == some .crewLeader) := by
    rcases p.participationType with _ | held
    · rfl
    · cases held <;> decide
  have hrungs : rungsFor access p = if access.inviteReporters = true ∧
      p.participationType.any isReserved = false then inviterRungs else [] := by
    rw [hholds]
    cases hinvite : access.inviteReporters <;>
      cases hheld : (p.participationType == some .writer || p.participationType == some .crewLeader) <;>
      simp [rungsFor, h, hinvite, hheld]
  rw [mem_offers, hrungs]
  split <;> cases rung <;> simp_all [inviterRungs, isReserved]

/-- The request that giving a rung sends. -/
def rungRequest (eventId : Int) (person : PersonMsg) (wristband : String) (rung : ParticipationType) :
    SetPersonParticipationRequest where
  personID := person.personId
  eventID := eventId
  wristband
  participationType := some rung

theorem mem_offers_or_withheld {db : DB} {claims : IMSClaims} {e : Int} {access : RosterAccess}
    {p : PersonMsg} (haccess : AccessTold db e (some claims) access)
    (hrungs : RungsTold db e (some claims) [p]) (rung : ParticipationType) :
    (rung ∈ offers access p → Permits db claims p.personId e rung) ∧
      (db.event.contains e = true → Permits db claims p.personId e rung →
        rung ∈ offers access p ∨ Withheld access p rung) := by
  obtain ⟨hadmin, hinvite⟩ := haccess claims rfl
  obtain ⟨claims', hclaims, hheld⟩ := hrungs
  cases hclaims
  cases hcaller : claims.admin with
  | true => exact ⟨fun _ => .inl hcaller, fun _ _ => mem_offers_admin (hadmin.trans hcaller) rung⟩
  | false =>
      have hholds : p.participationType.any isReserved = holdsReserved db e p.personId := by
        rw [hheld hcaller p (List.mem_singleton_self p), holdsReserved]
      have haccess : access.admin = false := hadmin.trans hcaller
      rw [mem_offers_inviter haccess, hinvite, hholds, mayInvite, Bool.and_eq_true, Withheld, haccess]
      constructor
      · rintro ⟨⟨⟨-, hbit⟩, hrung, hfree⟩, -⟩
        exact .inr ⟨hbit, hrung, hfree⟩
      · rintro hevent (hnot | ⟨hbit, hrung, hfree⟩)
        · rw [hcaller] at hnot
          cases hnot
        · by_cases hejected : rung = .ejected
          · exact .inr hejected
          · exact .inl ⟨⟨⟨hevent, hbit⟩, hrung, hfree⟩, hejected⟩

/-- **The card keeps to the ceiling.** For as long as the tables that decide stay as they are: what the
card offers is never denied, and what the server takes is offered or withheld by design. -/
theorem card_keeps_ceiling {c : Collation} {authEnv : AuthEnv} {listEnv : PersonnelEnv}
    {env : PersonEnv} {db₀ : DB} {w₁ : AuthWorld} {w₂ : PersonnelWorld} {w₃ : PersonWorld}
    (h₁ : SameGates db₀ w₁.db) (h₂ : SameGates db₀ w₂.db) (h₃ : SameGates db₀ w₃.db)
    (s : AuthStatusService) (ctx : Option IMSClaims) (e : Int) (showAll : Bool)
    {status : AuthStatus} {people : List PersonMsg} {p : PersonMsg}
    (hstatus : ((getAuthStatus s ctx (some e)).run (authDB c.sortKey) authEnv w₁).1 = .ok status)
    (hpeople : ((listPersonnelRPC ctx (rosterRequest e showAll)).run (personnelDB c) listEnv w₂).1 =
      .ok people)
    (hp : p ∈ people) (rung : ParticipationType) (wristband : String) :
    let access := rosterAccessFrom (some status) e
    let outcome := ((setParticipation ctx (rungRequest e p wristband rung)).run
      (personDB c.sortKey) env w₃).1
    (rung ∈ offers access p → ∀ err, outcome = .error err → err.code ≠ .permissionDenied) ∧
      (outcome = .ok () → rung ∈ offers access p ∨ Withheld access p rung) := by
  intro access outcome
  have haccess : AccessTold db₀ e ctx access :=
    (triple_getAuthStatus s ctx e).of_run_ok (fun _ h => Option.some.inj h ▸ h₁)
      (Prod.ext hstatus rfl)
  obtain ⟨claims, rfl, hheld⟩ : RungsTold w₂.db e ctx people :=
    (triple_listPersonnel ctx e showAll).of_run_ok ⟨rfl, fun _ _ => trivial⟩
      (Prod.ext hpeople rfl)
  have hrungs : RungsTold db₀ e (some claims) [p] := by
    refine ⟨claims, rfl, fun hadmin q hq => ?_⟩
    rw [List.mem_singleton.mp hq, hheld hadmin p hp, participationIn_congr h₂]
  have hpermits : Permits w₃.db claims p.personId e rung ↔ Permits db₀ claims p.personId e rung := by
    rw [Permits, Permits, holdsReserved, holdsReserved, h₃.eventMaskIn, participationIn_congr h₃]
  have hceiling : Call.Triple (personDB c.sortKey) env (In w₃.db)
      (setParticipation (some claims) (rungRequest e p wristband rung)) _ _ :=
    triple_setParticipation rung p.personId e wristband
  have hoffers := mem_offers_or_withheld haccess hrungs rung
  constructor
  · intro hrung err herr hdenied
    exact hceiling.of_run_error ⟨rfl, fun _ _ => trivial⟩ (Prod.ext herr rfl) hdenied
      (hpermits.mpr (hoffers.1 hrung))
  · intro hok
    obtain ⟨hevent, hpermit⟩ := hceiling.of_run_ok ⟨rfl, fun _ _ => trivial⟩ (Prod.ext hok rfl)
    exact hoffers.2 (by rwa [h₃.event] at hevent) (hpermits.mp hpermit)

/-- Hawk is a writer of the event, and Jo a reporter. -/
def inviterDB : DB where
  event := Table.empty.insert 1 { name := "2025" }
  person := (Table.empty.insert 1 { handle := some "Hawk" }).insert 2 { handle := some "Jo" }
  personEvent := (Table.empty.insert (1, 1) { participationType := .writer }).insert (2, 1)
    { participationType := .reporter }

def inviter : IMSClaims := { handle := "Hawk", personID := 1 }

def inviterStatus : AuthStatus where
  authenticated := true
  user := "Hawk"
  personID := 1
  eventAccess := some (1,
    { eventId := 1
      readIncidents := true
      writeIncidents := true
      writeReports := true
      readVisits := true
      writeVisits := true
      readAreas := true
      inviteReporters := true })

def cardOf (handle : String) (personID : Int) (rung : ParticipationType) : PersonMsg :=
  personToProto { handle, personID, participationType := some rung }

/-- Hawk may make Jo a volunteer, is offered it, and is not offered to make Jo a writer. -/
theorem card_keeps_ceiling_inviter :
    (∀ err, ((setParticipation (some inviter) (rungRequest 1 (cardOf "Jo" 2 .reporter) "" .volunteer)).run
      (personDB id) stillPersonEnv { db := inviterDB, nextId := 3 }).1 = .error err →
        err.code ≠ .permissionDenied) ∧
      ((setParticipation (some inviter) (rungRequest 1 (cardOf "Jo" 2 .reporter) "" .writer)).run
        (personDB id) stillPersonEnv { db := inviterDB, nextId := 3 }).1 ≠ .ok () := by
  have hgates : SameGates inviterDB inviterDB := ⟨rfl, rfl, rfl⟩
  have hstatus : ((getAuthStatus plainAccounts.auth (some inviter) (some 1)).run
      (authDB plainCollation.sortKey) plainAuthEnv { db := inviterDB, nextId := 3 }).1 =
        .ok inviterStatus := rfl
  have hpeople : ((listPersonnelRPC (some inviter) (rosterRequest 1 false)).run
      (personnelDB plainCollation) (stillPersonnelEnv []) { db := inviterDB, nextId := 3 }).1 =
        .ok [cardOf "Hawk" 1 .writer, cardOf "Jo" 2 .reporter] := rfl
  refine ⟨(card_keeps_ceiling (by exact hgates) (by exact hgates) (by exact hgates) _ _ _ _ hstatus
    hpeople (by decide) .volunteer "").1 (by decide), fun hok => ?_⟩
  rcases (card_keeps_ceiling (by exact hgates) (by exact hgates) (by exact hgates) _ _ _ _ hstatus
    hpeople (by decide) .writer "").2 hok with hoffered | hwithheld
  · exact absurd hoffered (by decide)
  · cases hwithheld

end OcfIms.RosterCeiling
