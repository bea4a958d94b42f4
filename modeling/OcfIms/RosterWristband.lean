import OcfIms.IncidentRuns
import OcfIms.LibUntil
import OcfIms.PersonEdits
import OcfIms.Personnel

/-!
# Wristbands on the roster

The roster sets a person's rung, but the server replaces the whole participation, so the roster sends
along the wristband that the row it shows has; for somebody it shows no row of, it sends none. The
row may be old: others may have entered another wristband since the list was read, or do so while
the call is on its way. A row that is put back after a failure is as old as the list it came from.
The wristband is kept as long as none was entered between the read of a row and the write of the call
that was made from it, and nobody who has one is enrolled unread: then every such call still brings,
when its write is executed, the one that is stored.
-/

namespace OcfIms

open TxnLib RunLib

/-! ## The rosters and the server -/

/-- A roster on somebody's screen: the event's people as they were last read, and an answer that is
on its way. -/
structure Roster where
  ctx : Option IMSClaims
  eventID : Int
  showAll : Bool := false
  list : Option (List PersonMsg) := none
  answer : Option (List PersonMsg) := none

namespace Roster

def request (r : Roster) : ListPersonnelRequest where
  eventId := r.eventID
  all := true
  showAll := r.showAll

def row (r : Roster) (personID : Int) : Option PersonMsg :=
  r.list.bind fun people => people.find? (·.personId = personID)

def patchPerson (r : Roster) (personID : Int) (apply : PersonMsg → PersonMsg) : Roster :=
  { r with list := r.list.map (·.map fun p => if p.personId = personID then apply p else p) }

end Roster

/-- A call under way: the participation it is about, the wristband it brings, and, of a roster's
call, the roster and the row it was made from. `readAt` tells how many wristbands had been entered
when that row was read; only statements look at it. -/
structure RosterCall where
  personID : Int
  eventID : Int
  wristband : String
  sender : Option (Nat × Option PersonMsg)
  settled : Bool := false
  readAt : Nat := 0

/-- The wristband as the server stores it: trimmed, cut to the column, null where it is empty. -/
def RosterCall.sends (call : RosterCall) : Option SqlText := wristbandNull (trimSpace call.wristband)

/-- A wristband that somebody has entered for a person at an event. -/
structure EnteredWristband where
  personID : Int
  eventID : Int
  wristband : Option String
  deriving DecidableEq, Repr

abbrev PersonSys : Type 1 :=
  Sys (fun β => Read β ⊕ PersonRead β) (fun β => Write β ⊕ PersonWrite β)
    (fun β => Ask β ⊕ PersonAsk β) SqlErr (Effect ⊕ PersonEffect) DB (Except ConnectError Unit) Nat

/-- The rosters, the calls in the order they were made, what is left of each on the server, and what
has been entered. Only statements look at that, and at how many had been entered when the answer on
its way to a roster was read, and when the row was that it shows of a person. -/
structure Rosters where
  rosters : Nat → Roster
  calls : List RosterCall := []
  server : PersonSys
  entered : List EnteredWristband := []
  answerAt : Nat → Nat := fun _ => 0
  rowAt : Nat → Int → Nat := fun _ _ => 0

inductive RosterAction
  | fetch (k : Nat)
  | deliver (k : Nat)
  | setRole (k : Nat) (personID : Int) (rung : Option ParticipationType)
  | enrol (k : Nat) (personID : Int) (rung : Option ParticipationType)
  | updatePerson (ctx : Option IMSClaims) (req : UpdatePersonRequest)
  | turn (n : Nat)
  | refused (n : Nat)

def Rosters.send (st : Rosters) (call : RosterCall) (program : PersonGo ConnectError Unit) : Rosters :=
  { st with
    calls := st.calls ++ [call]
    server := { st.server with
      procs := Function.update st.server.procs st.calls.length program.prog } }

/-- `writeRole`. A person the roster shows no row of is left alone, unless they may be new. -/
def writeRole (st : Rosters) (k : Nat) (personID : Int) (rung : Option ParticipationType)
    (mayBeNew : Bool) : Rosters :=
  let roster := { st.rosters k with answer := none }
  let before := roster.row personID
  if before.isNone && !mayBeNew then { st with rosters := Function.update st.rosters k roster }
  else
    let wristband := (before.bind (·.wristband)).getD ""
    { st with
      rosters := Function.update st.rosters k
        (roster.patchPerson personID fun p => { p with participationType := rung }) }.send
      { personID, eventID := roster.eventID, wristband, sender := some (k, before)
        readAt := st.rowAt k personID }
      (setParticipation roster.ctx
        { personID, eventID := roster.eventID, wristband, participationType := rung })

/-- The participation that the program's next operation stores: its write is one the store takes, and
an update finds the row. -/
def lands (sortKey : String → String) (env : PersonEnv) (w : PersonWorld) {α : Type} :
    Prog PersonOp α → Option (Int × Int)
  | .op (.write .pool (.inr (.insertPersonEvent person event wristband participation))) _ =>
    if (step (personDB sortKey) env (.write .pool
        (.inr (.insertPersonEvent person event wristband participation)) : PersonOp _) w).1.isOk
    then some (person, event) else none
  | .op (.write .pool (.inr (.updatePersonEvent wristband participation person event))) _ =>
    if (step (personDB sortKey) env (.write .pool
        (.inr (.updatePersonEvent wristband participation person event)) : PersonOp _) w).1.isOk &&
      w.db.personEvent.contains (person, event) then some (person, event) else none
  | _ => none

/-- A step of a call; what a call that is no roster's stores, is entered. -/
def Rosters.turn (sortKey : String → String) (env : PersonEnv) (st : Rosters) (n : Nat) :
    Option Rosters :=
  match st.calls[n]? with
  | none => none
  | some call => (st.server.turn (personDB sortKey) env n).map fun server =>
    { st with
      server
      entered := if call.sender.isNone &&
          (lands sortKey env st.server.world (st.server.procs n)).isSome
        then st.entered ++ [⟨call.personID, call.eventID, call.sends.map SqlText.string⟩]
        else st.entered }

/-- A roster's call that has failed puts the row back that it was made from. -/
def Rosters.refused (st : Rosters) (n : Nat) : Option Rosters :=
  match st.calls[n]?, st.server.procs n with
  | some call, .ret (.error _) =>
    match call.sender with
    | some (k, before) =>
      if call.settled then none
      else
        let calls := st.calls.set n { call with settled := true }
        match before with
        | none => some { st with calls }
        | some row => some
          { st with
            calls
            rosters := Function.update st.rosters k
              ((st.rosters k).patchPerson call.personID fun _ => row)
            rowAt := Function.update st.rowAt k
              (Function.update (st.rowAt k) call.personID call.readAt) }
    | none => none
  | _, _ => none

def rosterStep (c : Collation) (env : PersonEnv) (listEnv : PersonnelEnv) (st : Rosters) :
    RosterAction → Option Rosters
  | .fetch k =>
    let roster := st.rosters k
    let world : PersonnelWorld := { db := st.server.world.db, nextId := 0 }
    match ((listPersonnelRPC roster.ctx roster.request).run (personnelDB c) listEnv world).1 with
    | .error _ => some st
    | .ok people =>
      some
        { st with
          rosters := Function.update st.rosters k { roster with answer := some people }
          answerAt := Function.update st.answerAt k st.entered.length }
  | .deliver k =>
    let roster := st.rosters k
    roster.answer.map fun people =>
      { st with
        rosters := Function.update st.rosters k { roster with list := some people, answer := none }
        rowAt := Function.update st.rowAt k fun _ => st.answerAt k }
  | .setRole k personID rung => some (writeRole st k personID rung false)
  | .enrol k personID rung => some (writeRole st k personID rung true)
  | .updatePerson ctx req => some (st.send
      { personID := req.personID, eventID := req.eventID, wristband := req.wristband, sender := none }
      (editPerson ctx req))
  | .turn n => st.turn c.sortKey env n
  | .refused n => st.refused n

/-! ## The wristband that is stored -/

def DB.wristband (db : DB) (person event : Int) : Option String :=
  (db.personEvent.find? (person, event)).bind (·.wristband)

def Rosters.wristband (st : Rosters) (person event : Int) : Option String :=
  st.server.world.db.wristband person event

/-- The wristband entered last, or the one there was. -/
def lastEntered (person event : Int) (initial : Option String) (entered : List EnteredWristband) :
    Option String :=
  entered.foldl (fun w e => if e.personID = person ∧ e.eventID = event then e.wristband else w)
    initial

/-- A wristband that is stored as it is when it is sent again. -/
def Storable (wristband : String) : Prop :=
  wristband ≠ "" ∧ trimSpace wristband = wristband ∧ wristband.utf8ByteSize ≤ maxWristbandLength

instance (wristband : String) : Decidable (Storable wristband) :=
  inferInstanceAs (Decidable (_ ∧ _))

/-- No wristband was entered since the first `n`. -/
def NoneEntered (person event : Int) (entered : List EnteredWristband) (n : Nat) : Prop :=
  ∀ e ∈ entered.drop n, ¬ (e.personID = person ∧ e.eventID = event)

instance (person event : Int) (entered : List EnteredWristband) (n : Nat) :
    Decidable (NoneEntered person event entered n) :=
  inferInstanceAs (Decidable (∀ e ∈ _, _))

/-- What a roster's call was made from is up to date. No wristband was entered since its row was read,
and the stored one comes through; or there was no row, and none is stored. -/
def UpToDate (person event : Int) (st : Rosters) (call : RosterCall) : Option PersonMsg → Prop
  | none => st.wristband person event = none
  | some _ => NoneEntered person event st.entered call.readAt ∧
      ∀ wristband ∈ st.wristband person event, Storable wristband

instance (person event : Int) (st : Rosters) (call : RosterCall) :
    ∀ before, Decidable (UpToDate person event st call before)
  | none => inferInstanceAs (Decidable (_ = _))
  | some _ => inferInstanceAs (Decidable (_ ∧ _))

/-- A roster's call that stores the participation was made from what is still up to date. -/
def ReadInTime (sortKey : String → String) (env : PersonEnv) (person event : Int) (st : Rosters) :
    RosterAction → Prop
  | .turn n => ∀ call ∈ st.calls[n]?, ∀ sender ∈ call.sender,
      lands sortKey env st.server.world (st.server.procs n) = some (person, event) →
        UpToDate person event st call sender.2
  | _ => True

instance (sortKey : String → String) (env : PersonEnv) (person event : Int) (st : Rosters) :
    ∀ a, Decidable (ReadInTime sortKey env person event st a)
  | .turn n => inferInstanceAs (Decidable (∀ call ∈ st.calls[n]?, ∀ sender ∈ call.sender, _ → _))
  | .fetch _ | .deliver _ | .setRole _ _ _ | .enrol _ _ _ | .updatePerson _ _ | .refused _ =>
    isTrue trivial

/-- A roster's call that stores the participation still brings the wristband that is stored. -/
def BringsStored (sortKey : String → String) (env : PersonEnv) (person event : Int) (st : Rosters) :
    RosterAction → Prop
  | .turn n => ∀ call ∈ st.calls[n]?, call.sender.isSome →
      lands sortKey env st.server.world (st.server.procs n) = some (person, event) →
        call.sends.map SqlText.string = st.wristband person event
  | _ => True

/-- No step of a roster's call changes the wristband. -/
def KeepsWristband (sortKey : String → String) (env : PersonEnv) (person event : Int) (st : Rosters) :
    RosterAction → Prop
  | .turn n => ∀ call ∈ st.calls[n]?, call.sender.isSome →
      ∀ st' ∈ st.turn sortKey env n, st'.wristband person event = st.wristband person event
  | _ => True

/-! ## What the calls write -/

/-- The writes of a call that brings a wristband for one person at one event. -/
def writesRung (person event : Int) (wristband : Option SqlText) :
    Conn → ∀ β : Type, Write β ⊕ PersonWrite β → Prop
  | .pool, _, .inr (.insertPersonEvent p e w _) => p = person ∧ e = event ∧ w = wristband
  | .pool, _, .inr (.updatePersonEvent w _ p e) => p = person ∧ e = event ∧ w = wristband
  | .pool, _, .inr (.editPerson _ _) => True
  | _, _, _ => False

/-- The program is what is left of a call. -/
abbrev Rungs (sortKey : String → String) (env : PersonEnv) (person event : Int)
    (wristband : Option SqlText) {ε α : Type} (x : PersonGo ε α) : Prop :=
  x.Every (Answers sortKey env fun _ => True) (writesIn (writesRung person event wristband))
    (fun _ => True) fun _ => True

section Programs

variable {sortKey : String → String} {env : PersonEnv} {person event : Int}
  {wristband : Option SqlText} {ε ε' α β : Type}

theorem rungs_fromIms {x : Go ε α} (hx : Within anyAnswer Call.noWrite x) :
    Rungs sortKey env person event wristband (fromIms x) := by
  refine Call.every_widen (fun β o ho => ?_) (fun _ _ _ _ => trivial) hx
  cases o with
  | write c q => exact ho.elim
  | _ => exact ho

theorem Rungs.bind {x : PersonGo ε α} {f : α → PersonGo ε β}
    (hx : Rungs sortKey env person event wristband x)
    (hf : ∀ a, Rungs sortKey env person event wristband (f a)) :
    Rungs sortKey env person event wristband (x >>= f) :=
  Call.every_bind hx fun a _ => hf a

theorem Rungs.mapErr {g : ε → ε'} {x : PersonGo ε α}
    (hx : Rungs sortKey env person event wristband x) :
    Rungs sortKey env person event wristband (Call.mapErr g x) :=
  Call.every_mapErr hx

theorem rungs_ensure (c : Bool) (err : ε) :
    Rungs sortKey env person event wristband (Call.ensure c err) :=
  Call.every_ensure (fun _ => trivial) fun _ => trivial

theorem rungs_exec {q : PersonWrite α} {err : SqlErr → ε}
    (hq : writesRung person event wristband .pool _ (.inr q)) :
    Rungs sortKey env person event wristband (personExec .pool q err) :=
  Call.every_mapErr (Call.every_attempt hq (fun _ _ => trivial) fun _ _ => trivial)

theorem rungs_invalidateUsers :
    Rungs sortKey env person event wristband (invalidateUsers (ε := ε)) :=
  Call.every_perform trivial fun _ _ => trivial

/-- A person's row is found under their own number. -/
theorem rungs_readPerson {id : Int} {err : SqlErr → ε} :
    (personSelect .pool (.personByID id) err).Every (Answers sortKey env fun _ => True)
      (writesIn (writesRung person event wristband)) (fun _ => True) fun row => row.id = id := by
  refine Call.every_mapErr (Call.every_attempt trivial (fun _ _ => trivial) fun row hrow => ?_)
  obtain ⟨db, -, heval⟩ := hrow row rfl
  obtain ⟨p, -, rfl⟩ := Option.map_eq_some_iff.mp (DB.one_eq_ok.mp heval)
  rfl

theorem rungs_requireEvent (eventID : Int) :
    Rungs sortKey env person event wristband (requireEvent eventID) :=
  Rungs.bind (rungs_fromIms (within_select _ _ _)) fun _ => Call.every_pure trivial

theorem rungs_personnelGlobals (ctx : Option IMSClaims) :
    Rungs sortKey env person event wristband (personnelGlobals ctx) := by
  refine Rungs.bind (rungs_fromIms (within_authenticated ctx)) fun claims => ?_
  refine Rungs.bind (Rungs.mapErr (rungs_fromIms (within_eventPermissions none claims)))
    fun perms => ?_
  exact Call.every_pure trivial

theorem rungs_setPersonEvent (participation : ParticipationType) :
    Rungs sortKey env person event wristband
      (setPersonEvent person event wristband participation) := by
  refine Call.every_bind (Call.every_result (rungs_fromIms (within_select _ _ _))) fun r _ => ?_
  rcases r with err | row
  · cases err with
    | noRows => exact rungs_exec ⟨rfl, rfl, rfl⟩
    | _ => exact Call.every_throw trivial
  · exact rungs_exec ⟨rfl, rfl, rfl⟩

theorem rungs_requireRungs (participation : ParticipationType) :
    Rungs sortKey env person event wristband (requireRungs person event participation) := by
  refine (rungs_ensure _ _).bind fun _ => ?_
  refine Call.every_bind (Call.every_result (rungs_fromIms (within_select _ _ _))) fun r _ => ?_
  rcases r with err | row
  · cases err with
    | noRows => exact Call.every_pure trivial
    | _ => exact Call.every_throw trivial
  · exact rungs_ensure _ _

/-- The roster's call. -/
theorem rungs_setParticipation (ctx : Option IMSClaims) (req : SetPersonParticipationRequest) :
    Rungs sortKey env req.personID req.eventID (wristbandNull (trimSpace req.wristband))
      (setParticipation ctx req) := by
  refine (rungs_personnelGlobals ctx).bind fun r => ?_
  refine Call.every_bind (Call.every_mapErr rungs_readPerson) fun person hperson => ?_
  refine (rungs_requireEvent _).mapErr.bind fun _ => ?_
  dsimp only
  rw [hperson]
  have hinvite : Rungs sortKey env req.personID req.eventID
      (wristbandNull (trimSpace req.wristband)) (requireInvite r.1 req.eventID) :=
    (rungs_fromIms (within_permissionsAt _ _)).bind fun _ => rungs_ensure _ _
  have hset : ∀ participation, Rungs sortKey env req.personID req.eventID
      (wristbandNull (trimSpace req.wristband)) (Call.mapErr herrToConnect (setPersonEvent
        req.personID req.eventID (wristbandNull (trimSpace req.wristband)) participation) >>=
          fun _ => invalidateUsers) :=
    fun _ => (rungs_setPersonEvent _).mapErr.bind fun _ => rungs_invalidateUsers
  refine Call.every_ite (fun _ => ?_) fun _ => hinvite.bind fun _ => ?_ <;>
    exact Call.every_ite (fun _ => hset _) fun _ => (rungs_requireRungs _).bind fun _ => hset _

theorem rungs_profileField (stored body : Option String) (maxLength : Nat) (tooLong : String) :
    Rungs sortKey env person event wristband (profileField stored body maxLength tooLong) := by
  cases body with
  | none => exact Call.every_pure trivial
  | some s =>
      rw [profileField]
      generalize trimSpace s = trimmed
      exact (rungs_ensure _ _).bind fun _ => Call.every_pure trivial

theorem rungs_applyProfileFields (row : PersonByIDRow) (patch : ProfilePatch) :
    Rungs sortKey env person event wristband (applyProfileFields row patch) := by
  refine (rungs_profileField _ _ _ _).bind fun handle => ?_
  refine (rungs_profileField _ _ _ _).bind fun name => (rungs_ensure _ _).bind fun _ => ?_
  refine (rungs_profileField _ _ _ _).bind fun email => (rungs_ensure _ _).bind fun _ => ?_
  exact (rungs_profileField _ _ _ _).bind fun phone => rungs_exec trivial

/-- The other callers' call. -/
theorem rungs_editPerson (ctx : Option IMSClaims) (req : UpdatePersonRequest) :
    Rungs sortKey env req.personID req.eventID (wristbandNull (trimSpace req.wristband))
      (editPerson ctx req) := by
  refine (rungs_personnelGlobals ctx).bind fun r => (rungs_ensure _ _).bind fun _ => ?_
  refine Call.every_bind (Call.every_mapErr rungs_readPerson) fun row _ => ?_
  refine (rungs_applyProfileFields row req.patch).mapErr.bind fun _ => ?_
  refine Rungs.bind ?_ fun _ => rungs_invalidateUsers
  rw [editParticipation]
  dsimp only
  refine Call.every_ite (fun _ => Call.every_pure trivial) fun _ => ?_
  exact (rungs_requireEvent _).mapErr.bind fun _ => (rungs_setPersonEvent _).mapErr

end Programs

/-! ## What a roster reads -/

section Listing

variable {c : Collation} {db : DB}

theorem every_personnelSelect {ε α : Type} {q : PersonnelRead α} {err : SqlErr → ε} :
    (personnelSelect q err).Every (truthful (personnelDB c) db) readsPool (fun _ => True)
      fun a => q.eval c db = .ok a := by
  refine Call.every_mapErr (Call.every_attempt trivial (fun _ _ => trivial) fun a ha => ?_)
  rcases ha with ha | ⟨n, ha⟩
  · exact ha.symm
  · cases ha

theorem every_requirePersonnelEvent (e : Int) :
    (requirePersonnelEvent e).Every (truthful (personnelDB c) db) readsPool (fun _ => True)
      fun _ => True :=
  Call.every_bind (Call.every_widen_reads (every_read (fun _ _ => trivial) fun _ _ => trivial))
    fun _ _ => Call.every_pure trivial

theorem every_crewsIfEvent (e : Int) :
    (crewsIfEvent e).Every (truthful (personnelDB c) db) readsPool (fun _ => True)
      fun _ => True :=
  Call.every_ite (fun _ => Call.every_bind every_personnelSelect fun _ _ => Call.every_pure trivial)
    fun _ => Call.every_pure trivial

theorem every_requireListing (claims : IMSClaims) (e : Int) (rosterOnly isPersonnelAdmin : Bool) :
    (requireListing claims e rosterOnly isPersonnelAdmin).Every (truthful (personnelDB c) db)
      readsPool (fun _ => True) fun _ => True := by
  refine Call.every_ite (fun _ => Call.every_pure trivial) fun _ => ?_
  refine Call.every_bind (Q := fun _ => True)
    (Call.every_ensure (fun _ => trivial) fun _ => trivial) fun _ _ => ?_
  refine Call.every_bind (Call.every_mapErr (Call.every_widen_reads (every_eventPermissions e claims)))
    fun perms _ => ?_
  exact Call.every_ensure (fun _ => trivial) fun _ => trivial

theorem wristband_of_eventRoster {e : Int} {row : EventRosterRow} (h : row ∈ db.eventRoster c e) :
    row.wristband = db.wristband row.id e := by
  rw [DB.eventRoster, List.mem_insertionSort, List.mem_filterMap] at h
  obtain ⟨person, -, hrow⟩ := h
  obtain ⟨pe, hpe, rfl⟩ := Option.map_eq_some_iff.mp hrow
  change pe.wristband = (db.personEvent.find? (person.1, e)).bind _
  rw [hpe]
  rfl

theorem wristband_of_allPeople {e : Int} {row : AllPeopleRow} (h : row ∈ db.allPeople c e) :
    row.wristband = db.wristband row.id e := by
  rw [DB.allPeople, List.mem_insertionSort, List.mem_map] at h
  obtain ⟨person, -, rfl⟩ := h
  rfl

theorem every_listAllPersonnel (claims : IMSClaims) (e : Int) (showAll : Bool)
    (perms : GlobalPermissionMask) :
    (listAllPersonnel claims e showAll perms).Every (truthful (personnelDB c) db) readsPool
      (fun _ => True) fun people => ∀ p ∈ people, p.wristband = (db.wristband p.personID e).getD "" := by
  have hrows : ∀ (crews : Int → List PersonCrew) (admin rosterOnly : Bool),
      Call.Every (truthful (personnelDB c) db) readsPool (fun _ => True)
        (fun people => ∀ p ∈ people, p.wristband = (db.wristband p.personID e).getD "")
        (if rosterOnly then do
          let rows ← personnelSelect (.eventRoster e)
            (.internalServerError "Failed to get personnel")
          pure (rows.map (rosterPerson admin crews))
        else do
          let rows ← personnelSelect (.allPeople e)
            (.internalServerError "Failed to get personnel")
          pure (rows.map (listedPerson crews)) : PersonnelGo HTTPError (List PersonJSON)) := by
    intro crews admin rosterOnly
    refine Call.every_ite (fun _ => ?_) fun _ => ?_ <;>
      refine Call.every_bind every_personnelSelect fun rows hrows => Call.every_pure fun p hp => ?_ <;>
      cases hrows <;> obtain ⟨row, hrow, rfl⟩ := List.mem_map.mp hp
    · exact congrArg (·.getD "") (wristband_of_eventRoster hrow)
    · exact congrArg (·.getD "") (wristband_of_allPeople hrow)
  have hrest := fun admin rosterOnly => Call.every_bind
    (every_requireListing (c := c) claims e rosterOnly admin) fun _ _ =>
      Call.every_bind (every_crewsIfEvent e) fun crews _ => hrows crews admin rosterOnly
  exact Call.every_ite (fun _ => Call.every_bind (every_requirePersonnelEvent e) fun _ _ => hrest _ _)
    fun _ => hrest _ _

/-- What a roster reads of a person is the wristband that is stored. -/
theorem every_listRoster (r : Roster) :
    (listPersonnelRPC r.ctx r.request).Every (truthful (personnelDB c) db) readsPool
      (fun _ => True) fun people =>
        ∀ p ∈ people, p.wristband.getD "" = (db.wristband p.personId r.eventID).getD "" := by
  have hempty : trimSpace "" = "" := by decide
  refine Call.every_bind (Call.every_widen_reads (every_authenticated (fun _ => trivial) _))
    fun claims _ => ?_
  refine Call.every_bind (Q := fun people => ∀ p ∈ people,
    p.wristband = (db.wristband p.personID r.eventID).getD "") (Call.every_mapErr ?_)
    fun people hpeople => Call.every_pure fun p hp => ?_
  · refine Call.every_bind (Q := fun _ => True) (Call.every_pure trivial) fun perms _ => ?_
    refine Call.every_bind (Q := fun _ => True)
      (Call.every_ensure (fun _ => trivial) fun _ => trivial) fun _ _ => ?_
    dsimp only
    rw [show trimSpace r.request.query = "" from hempty]
    exact every_listAllPersonnel claims r.eventID r.showAll perms.2
  · obtain ⟨person, hperson, rfl⟩ := List.mem_map.mp hp
    have hsame := hpeople person hperson
    change (emptyToNil person.wristband).getD "" = (db.wristband person.personID r.eventID).getD ""
    rw [emptyToNil, ← hsame]
    split
    · exact Eq.symm ‹_›
    · rfl

theorem triple_listRoster {listEnv : PersonnelEnv} (r : Roster) :
    Call.Triple (personnelDB c) listEnv (World.Holds (· = db) fun _ => True)
      (listPersonnelRPC r.ctx r.request)
      (fun people _ =>
        ∀ p ∈ people, p.wristband.getD "" = (db.wristband p.personId r.eventID).getD "")
      fun _ _ => True :=
  (Call.triple_reads (every_listRoster r) fun _ _ _ _ => trivial).conseq (fun _ h => h)
    (fun _ _ h => h.2) fun _ _ h => h

end Listing

/-! ## One step of a call -/

section Steps

variable {sortKey : String → String} {env : PersonEnv} {person event : Int}
  {wristband : Option SqlText} {db db' : DB} {w : PersonWorld}

theorem wristband_congr (h : db'.personEvent = db.personEvent) (p e : Int) :
    db'.wristband p e = db.wristband p e := by
  rw [DB.wristband, DB.wristband, h]

theorem wristband_insert {participation : ParticipationType} {id : Int} {b : Unit}
    (h : (PersonWrite.insertPersonEvent person event wristband participation).apply sortKey id db =
      .ok (b, db')) (p e : Int) : db'.wristband p e =
        if (person, event) = (p, e) then wristband.map SqlText.string else db.wristband p e := by
  simp only [PersonWrite.apply, DB.textColumn_eq_ok, DB.unique_eq_ok, DB.references_eq_ok] at h
  obtain ⟨text, rfl, hnew, -, -, -, ⟨⟩⟩ := h
  rw [DB.wristband, Table.find?_insert hnew]
  by_cases hkey : (person, event) = (p, e)
  · rw [if_pos hkey, if_pos hkey.symm, Option.map_map]
    exact (Option.map_id' ).symm
  · rw [if_neg hkey, if_neg (Ne.symm hkey)]
    rfl

theorem personEvent_editPerson {params : EditPersonParams} {id next : Int} {b : Unit}
    (h : (PersonWrite.editPerson params id).apply sortKey next db = .ok (b, db')) :
    db'.personEvent = db.personEvent := by
  rw [PersonWrite.apply] at h
  split at h
  · cases h
    rfl
  · simp only [DB.textColumn_eq_ok, DB.unique_eq_ok] at h
    obtain ⟨_, -, _, -, _, -, _, -, -, -, ⟨⟩⟩ := h
    rfl

/-- An update stores the wristband where there is a row, and does nothing where there is none. -/
theorem wristband_update {participation : ParticipationType} {id : Int} {b : Unit}
    (h : (PersonWrite.updatePersonEvent wristband participation person event).apply sortKey id db =
      .ok (b, db')) (p e : Int) : db'.wristband p e =
        if db.personEvent.contains (person, event) ∧ (person, event) = (p, e) then
          wristband.map SqlText.string else db.wristband p e := by
  rw [PersonWrite.apply] at h
  cases hrow : db.personEvent.find? (person, event) with
  | none =>
      rw [hrow] at h
      cases h
      have hcontains : db.personEvent.contains (person, event) = false := by
        rw [Table.contains_eq_false_iff, hrow]
      rw [hcontains, if_neg (fun h => Bool.false_ne_true h.1)]
  | some row =>
      simp only [hrow, DB.textColumn_eq_ok, DB.unique_eq_ok] at h
      obtain ⟨text, rfl, -, ⟨⟩⟩ := h
      have hcontains : db.personEvent.contains (person, event) = true :=
        Table.contains_iff.mpr ⟨row, hrow⟩
      rw [DB.wristband, Table.find?_modify]
      by_cases hkey : (person, event) = (p, e)
      · rw [if_pos hkey.symm, if_pos ⟨hcontains, hkey⟩, ← hkey, hrow, Option.map_map]
        exact Option.map_id'.symm
      · rw [if_neg (Ne.symm hkey), if_neg fun h => hkey h.2]
        rfl

/-- A step of a call leaves the wristbands alone, unless it stores the participation the call is
about; then it stores the wristband the call brings. -/
structure RungStep (sortKey : String → String) (env : PersonEnv) (person event : Int)
    (wristband : Option SqlText) {α : Type} (Q : α → Prop) (w : PersonWorld) (x : Prog PersonOp α)
    (next : Prog PersonOp α × PersonWorld) : Prop where
  rest : next.1.Every (Answers sortKey env fun _ => True)
    (writesIn (writesRung person event wristband)) Q
  txn : next.2.txn = none
  about : ∀ k, lands sortKey env w x = some k → k = (person, event)
  stored : ∀ p e, next.2.db.wristband p e =
    if lands sortKey env w x = some (p, e) then wristband.map SqlText.string
    else w.db.wristband p e

section Operations

variable {α β : Type} {Q : α → Prop} {o : PersonOp β} {k : β → Prog PersonOp α}

/-- A step that stores no participation. -/
theorem rungStep_none {b : β} {w' : PersonWorld}
    (hk : (k b).Every (Answers sortKey env fun _ => True)
      (writesIn (writesRung person event wristband)) Q)
    (hstep : step (personDB sortKey) env o w = (b, w')) (htxn : w'.txn = none)
    (hdb : w'.db.personEvent = w.db.personEvent) (hlands : lands sortKey env w (.op o k) = none) :
    RungStep sortKey env person event wristband Q w (.op o k)
      ((Prog.op o k).burst (personDB sortKey) env w) := by
  rw [burst_of_step hstep htxn]
  refine ⟨hk, htxn, fun _ h => ?_, fun p e => ?_⟩
  · rw [hlands] at h
    cases h
  · rw [hlands, if_neg (by simp)]
    exact wristband_congr hdb p e

theorem rungStep_idle (hk : ∀ b, answersFrom (personDB sortKey) env (fun _ => True) β o b →
      (k b).Every (Answers sortKey env fun _ => True)
        (writesIn (writesRung person event wristband)) Q)
    (ho : idle β o) (hw : w.txn = none) (hlands : lands sortKey env w (.op o k) = none) :
    RungStep sortKey env person event wristband Q w (.op o k)
      ((Prog.op o k).burst (personDB sortKey) env w) := by
  obtain ⟨htxn, hdb⟩ := step_idle (S := personDB sortKey) o ho hw
  exact rungStep_none (hk _ (answersFrom_step o hw)) rfl htxn (congrArg DB.personEvent hdb) hlands

end Operations

theorem rungStep_burst {α : Type} {Q : α → Prop} : ∀ {x : Prog PersonOp α},
    x.Every (Answers sortKey env fun _ => True) (writesIn (writesRung person event wristband)) Q →
    w.txn = none → RungStep sortKey env person event wristband Q w x
      (x.burst (personDB sortKey) env w)
  | .ret a, hx, _ => ⟨hx, rfl, fun _ h => (by cases h), fun _ _ => rfl⟩
  | .op (.read c q) k, hx, hw => rungStep_idle hx.2 trivial hw rfl
  | .op (.ask q) k, hx, hw => rungStep_idle hx.2 trivial hw rfl
  | .op (.emit out) k, hx, hw => rungStep_idle hx.2 trivial hw rfl
  | .op .begin k, hx, _ => hx.1.elim
  | .op .commit k, hx, _ => hx.1.elim
  | .op .rollback k, hx, _ => hx.1.elim
  | .op (.write .txn q) k, hx, _ => by
      have hq : writesRung person event wristband .txn _ q := hx.1
      rcases q with q | q
      · exact hq.elim
      · cases q <;> exact hq.elim
  | .op (.write .pool (.inl q)) k, hx, _ => hx.1.elim
  | .op (.write .pool (.inr q)) k, hx, hw => by
      have hq : writesRung person event wristband .pool _ (.inr q) := hx.1
      have hk : ∀ b, _ := fun b => hx.2 b trivial
      cases q with
      | insertPersonEvent p e wb t =>
          obtain ⟨rfl, rfl, rfl⟩ := hq
          rcases step_write_pool (personDB sortKey) env (.inr (.insertPersonEvent p e wb t)) w with
            ⟨err, hstep⟩ | ⟨b, db', happly, hstep⟩
          · refine rungStep_none (hk _) hstep hw rfl ?_
            simp only [lands, hstep]
            rfl
          · have hlands : lands sortKey env w
                (.op (.write .pool (.inr (.insertPersonEvent p e wb t))) k) = some (p, e) := by
              simp only [lands, hstep]
              rfl
            rw [burst_of_step hstep hw]
            refine ⟨hk _, hw, fun _ h => (Option.some.inj (hlands.symm.trans h)).symm, fun p' e' => ?_⟩
            have hrow : (PersonWrite.insertPersonEvent p e wb t).apply sortKey w.nextId w.db =
                .ok (b, db') := happly
            simp only [hlands, Option.some_inj]
            exact wristband_insert hrow p' e'
      | updatePersonEvent wb t p e =>
          obtain ⟨rfl, rfl, rfl⟩ := hq
          rcases step_write_pool (personDB sortKey) env (.inr (.updatePersonEvent wb t p e)) w with
            ⟨err, hstep⟩ | ⟨b, db', happly, hstep⟩
          · refine rungStep_none (hk _) hstep hw rfl ?_
            simp only [lands, hstep]
            rfl
          · have hlands : lands sortKey env w
                (.op (.write .pool (.inr (.updatePersonEvent wb t p e))) k) =
                  if w.db.personEvent.contains (p, e) then some (p, e) else none := by
              simp only [lands, hstep]
              rfl
            rw [burst_of_step hstep hw]
            refine ⟨hk _, hw, fun key h => ?_, fun p' e' => ?_⟩
            · rw [hlands] at h
              split at h
              · exact (Option.some.inj h).symm
              · cases h
            · have hrow : (PersonWrite.updatePersonEvent wb t p e).apply sortKey w.nextId w.db =
                  .ok (b, db') := happly
              rw [hlands]
              refine (wristband_update hrow p' e').trans ?_
              by_cases hc : w.db.personEvent.contains (p, e) = true
              · simp only [hc, if_true, true_and, Option.some_inj]
              · simp only [hc, if_false, false_and, reduceCtorEq]
      | editPerson params id =>
          rcases step_write_pool (personDB sortKey) env (.inr (.editPerson params id)) w with
            ⟨err, hstep⟩ | ⟨b, db', happly, hstep⟩
          · exact rungStep_none (hk _) hstep hw rfl rfl
          · have hrow : (PersonWrite.editPerson params id).apply sortKey w.nextId w.db =
                .ok (b, db') := happly
            exact rungStep_none (hk _) hstep hw (personEvent_editPerson hrow) rfl
      | createPerson params => exact hq.elim
      | setPersonPassword password changed id => exact hq.elim
      | setPersonAdmin isAdmin id => exact hq.elim
      | deletePersonEvent p e => exact hq.elim
      | setPersonProfilePicture picture id => exact hq.elim

end Steps

/-! ## Runs -/

/-- What is left of each call is a program of its kind, and no transaction is open. -/
structure Rosters.Sound (sortKey : String → String) (env : PersonEnv) (st : Rosters) : Prop where
  txn : st.server.world.txn = none
  programs : ∀ (n : Nat) (call : RosterCall), st.calls[n]? = some call →
    (st.server.procs n).Every (Answers sortKey env fun _ => True)
      (writesIn (writesRung call.personID call.eventID call.sends)) fun _ => True

/-- No roster has read anything, and no call has been made yet. -/
structure Rosters.Fresh (st : Rosters) : Prop where
  calls : st.calls = []
  entered : st.entered = []
  txn : st.server.world.txn = none
  unread : ∀ k, (st.rosters k).list = none ∧ (st.rosters k).answer = none

section Runs

variable {sortKey : String → String} {env : PersonEnv} {st st' : Rosters} {person event : Int}
  {call : RosterCall} {n : Nat}

theorem Rosters.Fresh.sound (h : st.Fresh) : st.Sound sortKey env := by
  refine ⟨h.txn, fun n call hcall => ?_⟩
  rw [h.calls] at hcall
  cases hcall

theorem Rosters.Sound.of_server (h : st.Sound sortKey env) (hserver : st'.server = st.server)
    (hcalls : st'.calls = st.calls) : st'.Sound sortKey env := by
  refine ⟨by rw [hserver]; exact h.txn, fun n call hcall => ?_⟩
  rw [hcalls] at hcall
  rw [hserver]
  exact h.programs n call hcall

theorem Rosters.Sound.send (h : st.Sound sortKey env) {x : PersonGo ConnectError Unit}
    (hx : Rungs sortKey env call.personID call.eventID call.sends x) :
    (st.send call x).Sound sortKey env := by
  refine ⟨h.txn, fun n c hc => ?_⟩
  change (Function.update st.server.procs st.calls.length x.prog n).Every _ _ _
  change (st.calls ++ [call])[n]? = some c at hc
  rw [List.getElem?_append] at hc
  split at hc
  · rename_i hn
    rw [Function.update_of_ne (by omega)]
    exact h.programs n c hc
  · rename_i hn
    obtain ⟨hlt, hget⟩ := List.getElem?_eq_some_iff.mp hc
    rw [List.length_singleton] at hlt
    rw [List.getElem_singleton] at hget
    subst hget
    obtain rfl : n = st.calls.length := by omega
    rw [Function.update_self]
    exact Prog.Every.mono (fun _ _ _ h => h) (fun _ _ h => h) (fun _ _ => trivial) hx

/-- Only the call whose turn it is changes a wristband, and only where it stores one. -/
theorem Rosters.Sound.turn (h : st.Sound sortKey env) (hs : st.turn sortKey env n = some st') :
    st'.Sound sortKey env ∧ ∃ call, st.calls[n]? = some call ∧
      (∀ k, lands sortKey env st.server.world (st.server.procs n) = some k →
        k = (call.personID, call.eventID)) ∧
      (∀ p e, st'.wristband p e =
        if lands sortKey env st.server.world (st.server.procs n) = some (p, e)
        then call.sends.map SqlText.string else st.wristband p e) ∧
      st'.entered = if call.sender.isNone &&
          (lands sortKey env st.server.world (st.server.procs n)).isSome
        then st.entered ++ [⟨call.personID, call.eventID, call.sends.map SqlText.string⟩]
        else st.entered := by
  rw [Rosters.turn] at hs
  split at hs
  · cases hs
  rename_i call hcall
  obtain ⟨server, hturn, rfl⟩ := Option.map_eq_some_iff.mp hs
  obtain ⟨-, rfl⟩ := turn_eq_some.mp hturn
  have hstep := rungStep_burst (h.programs n call hcall) h.txn
  refine ⟨⟨hstep.txn, fun m c hc => ?_⟩, call, hcall, hstep.about, hstep.stored, rfl⟩
  change (Function.update st.server.procs n _ m).Every _ _ _
  by_cases hm : m = n
  · subst hm
    obtain rfl : call = c := Option.some.inj (hcall.symm.trans hc)
    rw [Function.update_self]
    exact hstep.rest
  · rw [Function.update_of_ne hm]
    exact h.programs m c hc

theorem Rosters.Sound.refused (h : st.Sound sortKey env) (hs : st.refused n = some st') :
    st'.Sound sortKey env ∧ st'.server = st.server ∧ st'.entered = st.entered := by
  rw [Rosters.refused] at hs
  split at hs
  swap
  · cases hs
  rename_i call _ hcall _
  split at hs
  swap
  · cases hs
  split at hs
  · cases hs
  have hprograms : ∀ (m : Nat) (c : RosterCall),
      (st.calls.set n { call with settled := true })[m]? = some c →
        (st.server.procs m).Every (Answers sortKey env fun _ => True)
          (writesIn (writesRung c.personID c.eventID c.sends)) fun _ => True := by
    intro m c hc
    by_cases hm : m = n
    · subst hm
      rw [List.getElem?_set_self', hcall] at hc
      cases hc
      exact h.programs m call hcall
    · rw [List.getElem?_set_ne (Ne.symm hm)] at hc
      exact h.programs m c hc
  dsimp only at hs
  split at hs <;> cases hs <;> exact ⟨⟨h.txn, hprograms⟩, rfl, rfl⟩

theorem Rosters.Sound.writeRole (h : st.Sound sortKey env) (k : Nat) (personID : Int)
    (rung : Option ParticipationType) (mayBeNew : Bool) :
    (writeRole st k personID rung mayBeNew).Sound sortKey env ∧
      (OcfIms.writeRole st k personID rung mayBeNew).server.world = st.server.world ∧
      (OcfIms.writeRole st k personID rung mayBeNew).entered = st.entered := by
  rw [OcfIms.writeRole]
  generalize (_ : Roster).row personID = before
  dsimp only
  split
  · exact ⟨h.of_server rfl rfl, rfl, rfl⟩
  · generalize (before.bind (·.wristband)).getD "" = wristband
    refine ⟨?_, rfl, rfl⟩
    apply Rosters.Sound.send
    · exact h.of_server rfl rfl
    · exact rungs_setParticipation _ ⟨personID, (st.rosters k).eventID, wristband, rung⟩

/-- A step that is no call's turn leaves the server alone, but for a call that is sent. -/
theorem Rosters.Sound.step {c : Collation} {listEnv : PersonnelEnv} {a : RosterAction}
    (h : st.Sound c.sortKey env) (hs : rosterStep c env listEnv st a = some st') :
    st'.Sound c.sortKey env ∧ ((∃ n, a = .turn n) ∨
      st'.server.world = st.server.world ∧ st'.entered = st.entered) := by
  cases a with
  | fetch k =>
      rw [rosterStep] at hs
      split at hs <;> cases hs <;> exact ⟨h.of_server rfl rfl, Or.inr ⟨rfl, rfl⟩⟩
  | deliver k =>
      obtain ⟨people, -, rfl⟩ := Option.map_eq_some_iff.mp hs
      exact ⟨h.of_server rfl rfl, Or.inr ⟨rfl, rfl⟩⟩
  | setRole k personID rung =>
      cases hs
      obtain ⟨hsound, hsame⟩ := h.writeRole k personID rung false
      exact ⟨hsound, Or.inr hsame⟩
  | enrol k personID rung =>
      cases hs
      obtain ⟨hsound, hsame⟩ := h.writeRole k personID rung true
      exact ⟨hsound, Or.inr hsame⟩
  | updatePerson ctx req =>
      cases hs
      exact ⟨h.send (rungs_editPerson ctx req), Or.inr ⟨rfl, rfl⟩⟩
  | turn n => exact ⟨(h.turn hs).1, Or.inl ⟨n, rfl⟩⟩
  | refused n =>
      obtain ⟨hsound, hserver, hentered⟩ := h.refused hs
      exact ⟨hsound, Or.inr ⟨congrArg Sys.world hserver, hentered⟩⟩

theorem turn_frame {c : Collation} {listEnv : PersonnelEnv}
    (hs : rosterStep c env listEnv st (.turn n) = some st') : st'.rosters = st.rosters ∧
      st'.calls = st.calls ∧ st'.answerAt = st.answerAt ∧ st'.rowAt = st.rowAt ∧
        ∃ more, st'.entered = st.entered ++ more := by
  rw [rosterStep, Rosters.turn] at hs
  split at hs
  · cases hs
  obtain ⟨server, -, rfl⟩ := Option.map_eq_some_iff.mp hs
  refine ⟨rfl, rfl, rfl, rfl, ?_⟩
  dsimp only
  split
  · exact ⟨_, rfl⟩
  · exact ⟨[], (List.append_nil _).symm⟩

/-- A roster's step keeps the wristband exactly if the call brings what is stored. -/
theorem keepsWristband_iff {c : Collation} {listEnv : PersonnelEnv} {a : RosterAction}
    (h : st.Sound c.sortKey env) (hs : rosterStep c env listEnv st a = some st') :
    KeepsWristband c.sortKey env person event st a ↔ BringsStored c.sortKey env person event st a := by
  cases a with
  | turn n =>
      obtain ⟨-, call, hcall, -, hstored, -⟩ := h.turn hs
      constructor
      · intro hkeeps call' hcall' hsender hlands
        obtain rfl : call = call' := Option.some.inj (hcall.symm.trans hcall')
        rw [← hkeeps call hcall hsender st' hs, hstored, if_pos hlands]
      · intro hbrings call' hcall' hsender st'' hs'
        obtain rfl : call = call' := Option.some.inj (hcall.symm.trans hcall')
        obtain rfl : st' = st'' := Option.some.inj (hs.symm.trans hs')
        rw [hstored]
        split
        · exact hbrings call hcall hsender ‹_›
        · rfl
  | _ => exact Iff.rfl

theorem keepsWristband_of_run {c : Collation} {listEnv : PersonnelEnv} {as : List RosterAction}
    (h : st.Sound c.sortKey env) (hr : Run (rosterStep c env listEnv) st as st') :
    RunMeeting (rosterStep c env listEnv) (KeepsWristband c.sortKey env person event) st as st' ↔
      RunMeeting (rosterStep c env listEnv) (BringsStored c.sortKey env person event) st as st' :=
  hr.meeting_congr h (fun _ _ _ h _ hs => (h.step hs).1) fun _ _ _ h hs => keepsWristband_iff h hs

theorem lastEntered_append (initial : Option String) (entered : List EnteredWristband)
    (e : EnteredWristband) : lastEntered person event initial (entered ++ [e]) =
      if e.personID = person ∧ e.eventID = event then e.wristband
      else lastEntered person event initial entered := by
  rw [lastEntered, List.foldl_append]
  rfl

/-- The wristband is the one entered last, after a step that meets the condition too. -/
theorem wristband_step {c : Collation} {listEnv : PersonnelEnv} {a : RosterAction}
    {initial : Option String} (h : st.Sound c.sortKey env)
    (hlast : st.wristband person event = lastEntered person event initial st.entered)
    (hbrings : BringsStored c.sortKey env person event st a)
    (hs : rosterStep c env listEnv st a = some st') :
    st'.wristband person event = lastEntered person event initial st'.entered := by
  obtain ⟨-, ⟨n, rfl⟩ | ⟨hworld, hentered⟩⟩ := h.step hs
  swap
  · rw [hentered, ← hlast, Rosters.wristband, hworld]
    rfl
  obtain ⟨-, call, hcall, habout, hstored, hentered⟩ := h.turn hs
  rw [hstored]
  cases hsender : call.sender with
  | some sender =>
      have hsame : st'.entered = st.entered := hentered.trans (if_neg (by simp [hsender]))
      rw [hsame]
      split
      · exact (hbrings call hcall (by rw [hsender]; rfl) ‹_›).trans hlast
      · exact hlast
  | none =>
      cases hlands : lands c.sortKey env st.server.world (st.server.procs n) with
      | none =>
          have hsame : st'.entered = st.entered := hentered.trans (if_neg (by simp [hlands]))
          rw [hsame, if_neg (by simp)]
          exact hlast
      | some k =>
          obtain rfl := habout k hlands
          have hnew : st'.entered = st.entered ++
              [⟨call.personID, call.eventID, call.sends.map SqlText.string⟩] :=
            hentered.trans (if_pos (by simp [hsender, hlands]))
          rw [hnew, lastEntered_append, ← hlast]
          simp only [Option.some_inj, Prod.mk.injEq]

end Runs

/-! ## What the rows show -/

section Rows

variable {person event : Int} {initial : Option String} {entered more : List EnteredWristband}
  {n : Nat} {wristband : Option String}

theorem lastEntered_skip : ∀ {rest : List EnteredWristband},
    (∀ e ∈ rest, ¬ (e.personID = person ∧ e.eventID = event)) → ∀ w : Option String,
      lastEntered person event w rest = w
  | [], _, _ => rfl
  | e :: rest, h, w => by
      rw [lastEntered, List.foldl_cons, if_neg (h e List.mem_cons_self)]
      exact lastEntered_skip (fun e' he' => h e' (List.mem_cons_of_mem e he')) w

theorem lastEntered_of_noneEntered (h : NoneEntered person event entered n) :
    lastEntered person event initial entered =
      lastEntered person event initial (entered.take n) := by
  have hsplit : lastEntered person event initial (entered.take n ++ entered.drop n) = _ :=
    List.foldl_append
  rw [List.take_append_drop] at hsplit
  exact hsplit.trans (lastEntered_skip h _)

/-- A wristband that was read when the first `n` had been entered. -/
def ShownAt (person event : Int) (initial : Option String) (entered : List EnteredWristband) (n : Nat)
    (wristband : Option String) : Prop :=
  n ≤ entered.length ∧
    wristband.getD "" = (lastEntered person event initial (entered.take n)).getD ""

theorem ShownAt.append (h : ShownAt person event initial entered n wristband) :
    ShownAt person event initial (entered ++ more) n wristband := by
  refine ⟨h.1.trans ?_, ?_⟩
  · rw [List.length_append]
    exact Nat.le_add_right _ _
  · rw [List.take_append_of_le_length h.1]
    exact h.2

/-- The rows that a list has of the person at the event. -/
def RowsShown (person event : Int) (initial : Option String) (entered : List EnteredWristband)
    (eventID : Int) (list : Option (List PersonMsg)) (n : Nat) : Prop :=
  eventID = event → ∀ people ∈ list, ∀ p ∈ people, p.personId = person →
    ShownAt person event initial entered n p.wristband

theorem RowsShown.append {eventID : Int} {list : Option (List PersonMsg)}
    (h : RowsShown person event initial entered eventID list n) :
    RowsShown person event initial (entered ++ more) eventID list n :=
  fun hevent people hpeople p hp hperson => (h hevent people hpeople p hp hperson).append

/-- A patch that leaves the wristband, or is about somebody else. -/
theorem RowsShown.patch {r : Roster} {personID : Int} {apply : PersonMsg → PersonMsg} {n' : Nat}
    (h : RowsShown person event initial entered r.eventID r.list n)
    (hid : ∀ p, p.personId = personID → (apply p).personId = personID)
    (hother : personID ≠ person → n' = n)
    (happly : personID = person → r.eventID = event → ∀ p,
      ShownAt person event initial entered n p.wristband →
        ShownAt person event initial entered n' (apply p).wristband) :
    RowsShown person event initial entered r.eventID (r.patchPerson personID apply).list n' := by
  intro hevent people hpeople q hq hperson
  obtain ⟨before, hbefore, rfl⟩ := Option.map_eq_some_iff.mp hpeople
  obtain ⟨p, hp, rfl⟩ := List.mem_map.mp hq
  by_cases hpid : p.personId = personID
  · rw [if_pos hpid] at hperson ⊢
    obtain rfl : personID = person := (hid p hpid).symm.trans hperson
    exact happly rfl hevent p (h hevent before hbefore p hp hpid)
  · rw [if_neg hpid] at hperson ⊢
    have hne : personID ≠ person := fun heq => hpid (hperson.trans heq.symm)
    rw [hother hne]
    exact h hevent before hbefore p hp hperson

/-- A call from a roster at this event, with the row it was made from. -/
structure CallShown (person event : Int) (initial : Option String) (entered : List EnteredWristband)
    (eventID : Int) (call : RosterCall) (before : Option PersonMsg) : Prop where
  rosterEvent : call.eventID = eventID
  brought : call.wristband = (before.bind (·.wristband)).getD ""
  row : ∀ row ∈ before, row.personId = call.personID ∧ (call.personID = person →
    call.eventID = event → ShownAt person event initial entered call.readAt row.wristband)

theorem CallShown.append {eventID : Int} {call : RosterCall} {before : Option PersonMsg}
    (h : CallShown person event initial entered eventID call before) :
    CallShown person event initial (entered ++ more) eventID call before where
  rosterEvent := h.rosterEvent
  brought := h.brought
  row := fun row hrow => ⟨(h.row row hrow).1, fun hp he => ((h.row row hrow).2 hp he).append⟩

/-- The wristband is the one entered last, and every row, shown, on its way or kept by a call, has the
one that was entered last when it was read. -/
structure Rosters.Tracked (person event : Int) (initial : Option String) (st : Rosters) : Prop where
  stored : st.wristband person event = lastEntered person event initial st.entered
  answers : ∀ k, RowsShown person event initial st.entered (st.rosters k).eventID
    (st.rosters k).answer (st.answerAt k)
  rows : ∀ k, RowsShown person event initial st.entered (st.rosters k).eventID
    (st.rosters k).list (st.rowAt k person)
  calls : ∀ call ∈ st.calls, ∀ k before, call.sender = some (k, before) →
    CallShown person event initial st.entered (st.rosters k).eventID call before

variable {st st' : Rosters}

theorem Rosters.Fresh.tracked (h : st.Fresh) (person event : Int) :
    st.Tracked person event (st.wristband person event) where
  stored := by
    rw [h.entered]
    rfl
  answers := fun k _ people hpeople => by
    rw [(h.unread k).2] at hpeople
    cases hpeople
  rows := fun k _ people hpeople => by
    rw [(h.unread k).1] at hpeople
    cases hpeople
  calls := fun call hcall => by
    rw [h.calls] at hcall
    cases hcall

/-- A step that is about one roster. -/
theorem Rosters.Tracked.of_roster (h : st.Tracked person event initial) (k : Nat)
    (hworld : st'.server.world = st.server.world) (hentered : st'.entered = st.entered)
    (hevent : (st'.rosters k).eventID = (st.rosters k).eventID)
    (hothers : ∀ j, j ≠ k → st'.rosters j = st.rosters j ∧ st'.answerAt j = st.answerAt j ∧
      st'.rowAt j = st.rowAt j)
    (hanswer : RowsShown person event initial st.entered (st.rosters k).eventID
      (st'.rosters k).answer (st'.answerAt k))
    (hlist : RowsShown person event initial st.entered (st.rosters k).eventID
      (st'.rosters k).list (st'.rowAt k person))
    (hcalls : ∀ call ∈ st'.calls, ∀ j before, call.sender = some (j, before) →
      CallShown person event initial st.entered (st.rosters j).eventID call before) :
    st'.Tracked person event initial where
  stored := by
    rw [Rosters.wristband, hworld, hentered]
    exact h.stored
  answers := fun j => by
    rw [hentered]
    by_cases hj : j = k
    · rw [hj, hevent]
      exact hanswer
    · obtain ⟨hroster, hat, -⟩ := hothers j hj
      rw [hroster, hat]
      exact h.answers j
  rows := fun j => by
    rw [hentered]
    by_cases hj : j = k
    · rw [hj, hevent]
      exact hlist
    · obtain ⟨hroster, -, hat⟩ := hothers j hj
      rw [hroster, hat]
      exact h.rows j
  calls := fun call hcall j before hsender => by
    have hsame : (st'.rosters j).eventID = (st.rosters j).eventID := by
      by_cases hj : j = k
      · rw [hj, hevent]
      · rw [(hothers j hj).1]
    rw [hentered, hsame]
    exact hcalls call hcall j before hsender

/-- A call that is up to date brings what is stored. -/
theorem Rosters.Tracked.brings (h : st.Tracked person event initial) {call : RosterCall}
    (hcall : call ∈ st.calls) {k : Nat} {before : Option PersonMsg}
    (hsender : call.sender = some (k, before)) (hperson : call.personID = person)
    (hevent : call.eventID = event) (hdate : UpToDate person event st call before) :
    call.sends.map SqlText.string = st.wristband person event := by
  have hshown := h.calls call hcall k before hsender
  have hempty : wristbandNull (trimSpace "") = none := by decide
  rw [RosterCall.sends, hshown.brought]
  cases before with
  | none =>
      rw [show st.wristband person event = none from hdate]
      exact congrArg (Option.map SqlText.string) hempty
  | some row =>
      obtain ⟨hnone, hstorable⟩ := hdate
      have hrow := ((hshown.row row rfl).2 hperson hevent).2
      rw [← lastEntered_of_noneEntered hnone, ← h.stored] at hrow
      rw [Option.bind_some, hrow]
      cases hstored : st.wristband person event with
      | none => exact congrArg (Option.map SqlText.string) hempty
      | some wristband =>
          obtain ⟨hne, htrim, hfits⟩ := hstorable wristband hstored
          rw [Option.getD_some, htrim, wristbandNull, if_pos hne, stringToSql, if_neg hne,
            if_pos (.inr hfits)]
          rfl

end Rows

/-! ## The wristband over a run -/

section Claim

variable {c : Collation} {env : PersonEnv} {listEnv : PersonnelEnv} {person event : Int}
  {initial : Option String} {st st' : Rosters}

theorem Rosters.Tracked.fetch (h : st.Tracked person event initial) {k : Nat}
    (hs : rosterStep c env listEnv st (.fetch k) = some st') :
    st'.Tracked person event initial := by
  rw [rosterStep] at hs
  split at hs
  · cases hs
    exact h
  rename_i people hpeople
  cases hs
  refine h.of_roster k rfl rfl ?_ (fun j hj => ?_) ?_ ?_ h.calls
  · dsimp only
    rw [Function.update_self]
  · exact ⟨Function.update_of_ne hj _ _, Function.update_of_ne hj _ _, rfl⟩
  · have hread := (triple_listRoster (st.rosters k)).of_run_ok
      (w := { db := st.server.world.db, nextId := 0 }) ⟨rfl, fun _ _ => trivial⟩
      (Prod.ext hpeople rfl)
    dsimp only
    rw [Function.update_self, Function.update_self]
    intro hevent people' hpeople' p hp hperson
    cases hpeople'
    refine ⟨le_refl _, ?_⟩
    rw [List.take_length, ← h.stored, ← hperson, ← hevent]
    exact hread p hp
  · dsimp only
    rw [Function.update_self]
    exact h.rows k

theorem Rosters.Tracked.deliver (h : st.Tracked person event initial) {k : Nat}
    (hs : rosterStep c env listEnv st (.deliver k) = some st') :
    st'.Tracked person event initial := by
  obtain ⟨people, hanswer, rfl⟩ := Option.map_eq_some_iff.mp hs
  refine h.of_roster k rfl rfl ?_ (fun j hj => ?_) ?_ ?_ h.calls
  · dsimp only
    rw [Function.update_self]
  · exact ⟨Function.update_of_ne hj _ _, rfl, Function.update_of_ne hj _ _⟩
  · dsimp only
    rw [Function.update_self]
    exact fun _ _ hnone => nomatch hnone
  · dsimp only
    rw [Function.update_self, Function.update_self]
    have hread := h.answers k
    rw [hanswer] at hread
    exact hread

/-- The row that a roster shows of somebody. -/
theorem Rosters.Tracked.row (h : st.Tracked person event initial) {k : Nat} {personID : Int}
    {row : PersonMsg} (hrow : (st.rosters k).row personID = some row) :
    row.personId = personID ∧ (personID = person → (st.rosters k).eventID = event →
      ShownAt person event initial st.entered (st.rowAt k personID) row.wristband) := by
  obtain ⟨people, hlist, hfind⟩ := Option.bind_eq_some_iff.mp hrow
  have hfound := List.find?_some hfind
  have hid : row.personId = personID := of_decide_eq_true hfound
  refine ⟨hid, fun hperson hevent => ?_⟩
  subst hperson
  exact h.rows k hevent people hlist row (List.mem_of_find?_eq_some hfind) hid

theorem Rosters.Tracked.writeRole (h : st.Tracked person event initial) (k : Nat) (personID : Int)
    (rung : Option ParticipationType) (mayBeNew : Bool) :
    (writeRole st k personID rung mayBeNew).Tracked person event initial := by
  rw [OcfIms.writeRole]
  have hrow : ∀ row, (st.rosters k).row personID = some row → _ := fun row hrow => h.row hrow
  generalize hbefore : { st.rosters k with answer := none }.row personID = before
  dsimp only
  split
  · refine h.of_roster k rfl rfl ?_ (fun j hj => ?_) ?_ ?_ h.calls
    · dsimp only
      rw [Function.update_self]
    · exact ⟨Function.update_of_ne hj _ _, rfl, rfl⟩
    · dsimp only
      rw [Function.update_self]
      exact fun _ _ hnone => nomatch hnone
    · dsimp only
      rw [Function.update_self]
      exact h.rows k
  · refine h.of_roster k rfl rfl ?_ (fun j hj => ?_) ?_ ?_ fun call hcall j before' hsender => ?_
    · dsimp only [Rosters.send]
      rw [Function.update_self]
      rfl
    · exact ⟨Function.update_of_ne hj _ _, rfl, rfl⟩
    · dsimp only [Rosters.send]
      rw [Function.update_self]
      exact fun _ _ hnone => nomatch hnone
    · dsimp only [Rosters.send]
      rw [Function.update_self]
      exact RowsShown.patch (h.rows k) (fun _ hp => hp) (fun _ => rfl) fun _ _ _ hp => hp
    · rcases List.mem_append.mp hcall with hold | hnew
      · exact h.calls call hold j before' hsender
      · rw [List.mem_singleton] at hnew
        subst hnew
        cases hsender
        exact ⟨rfl, rfl, fun row hrow' => hrow row (hbefore.trans hrow')⟩

theorem Rosters.Tracked.updatePerson (h : st.Tracked person event initial) {call : RosterCall}
    (hsender : call.sender = none) (x : PersonGo ConnectError Unit) :
    (st.send call x).Tracked person event initial where
  stored := h.stored
  answers := h.answers
  rows := h.rows
  calls := fun c hc k before hc' => by
    rcases List.mem_append.mp hc with hold | hnew
    · exact h.calls c hold k before hc'
    · rw [List.mem_singleton.mp hnew, hsender] at hc'
      cases hc'

theorem Rosters.Tracked.refused (h : st.Tracked person event initial) {n : Nat}
    (hs : st.refused n = some st') : st'.Tracked person event initial := by
  rw [Rosters.refused] at hs
  split at hs
  swap
  · cases hs
  rename_i call _ hcall _
  split at hs
  swap
  · cases hs
  rename_i k before hsender
  split at hs
  · cases hs
  have hmem : call ∈ st.calls := List.mem_of_getElem? hcall
  have hshown := h.calls call hmem k before hsender
  have hcalls : ∀ c ∈ st.calls.set n { call with settled := true }, ∀ j before',
      c.sender = some (j, before') →
        CallShown person event initial st.entered (st.rosters j).eventID c before' := by
    intro c hc j before' hc'
    rcases List.mem_or_eq_of_mem_set hc with hold | rfl
    · exact h.calls c hold j before' hc'
    · obtain ⟨rfl, rfl⟩ := Prod.ext_iff.mp (Option.some.inj (hsender.symm.trans hc'))
      exact ⟨hshown.rosterEvent, hshown.brought, hshown.row⟩
  dsimp only at hs
  split at hs
  · cases hs
    exact ⟨h.stored, h.answers, h.rows, hcalls⟩
  · rename_i row
    cases hs
    obtain ⟨hid, hrow⟩ := hshown.row row rfl
    refine h.of_roster k rfl rfl ?_ (fun j hj => ?_) ?_ ?_ hcalls
    · dsimp only
      rw [Function.update_self]
      rfl
    · exact ⟨Function.update_of_ne hj _ _, rfl, Function.update_of_ne hj _ _⟩
    · dsimp only
      rw [Function.update_self]
      exact h.answers k
    · dsimp only
      rw [Function.update_self, Function.update_self]
      refine RowsShown.patch (h.rows k) (fun _ _ => hid) (fun hne => ?_) fun hperson hevent _ _ => ?_
      · exact Function.update_of_ne (Ne.symm hne) _ _
      · subst hperson
        rw [Function.update_self]
        exact hrow rfl (hshown.rosterEvent.trans hevent)

/-- **The step.** What is up to date brings what is stored, and what is read then is tracked. -/
theorem Rosters.Tracked.step {a : RosterAction} (hsound : st.Sound c.sortKey env)
    (h : st.Tracked person event initial) (ha : ReadInTime c.sortKey env person event st a)
    (hs : rosterStep c env listEnv st a = some st') :
    BringsStored c.sortKey env person event st a ∧ st'.Tracked person event initial := by
  cases a with
  | fetch k => exact ⟨trivial, h.fetch hs⟩
  | deliver k => exact ⟨trivial, h.deliver hs⟩
  | setRole k personID rung =>
      cases hs
      exact ⟨trivial, h.writeRole k personID rung false⟩
  | enrol k personID rung =>
      cases hs
      exact ⟨trivial, h.writeRole k personID rung true⟩
  | updatePerson ctx req =>
      cases hs
      exact ⟨trivial, h.updatePerson rfl _⟩
  | refused n => exact ⟨trivial, h.refused hs⟩
  | turn n =>
      have hbrings : BringsStored c.sortKey env person event st (.turn n) := by
        intro call hcall hsender hlands
        obtain ⟨⟨k, before⟩, hsome⟩ := Option.isSome_iff_exists.mp hsender
        obtain ⟨-, call', hcall', habout, -⟩ := hsound.turn hs
        obtain rfl : call = call' := Option.some.inj (hcall.symm.trans hcall')
        obtain ⟨hperson, hevent⟩ := Prod.ext_iff.mp (habout _ hlands)
        exact h.brings (List.mem_of_getElem? hcall) hsome hperson.symm hevent.symm
          (ha call hcall _ hsome hlands)
      have hstored := wristband_step hsound h.stored hbrings hs
      refine ⟨hbrings, ?_⟩
      obtain ⟨hrosters, hcalls, hanswerAt, hrowAt, more, hentered⟩ := turn_frame hs
      refine ⟨hstored, fun k => ?_, fun k => ?_, fun call hcall k before hsender => ?_⟩
      · rw [hentered, hrosters, hanswerAt]
        exact (h.answers k).append
      · rw [hentered, hrosters, hrowAt]
        exact (h.rows k).append
      · rw [hentered, hrosters]
        exact (h.calls call (hcalls ▸ hcall) k before hsender).append

end Claim

/-- **A rung change loses no wristband**, where every roster's call that stores a participation was
made from what is still up to date then: rosters set rungs while others enter wristbands, in any order
and step by step, and no roster's call clears or replaces the wristband, which is always the one that
was entered last. -/
theorem wristband_enteredLast (c : Collation) (env : PersonEnv) (listEnv : PersonnelEnv)
    (person event : Int) {st₀ st : Rosters} {as : List RosterAction} (hfresh : st₀.Fresh)
    (hr : RunMeeting (rosterStep c env listEnv) (ReadInTime c.sortKey env person event) st₀ as st) :
    RunMeeting (rosterStep c env listEnv) (KeepsWristband c.sortKey env person event) st₀ as st ∧
      st.wristband person event =
        lastEntered person event (st₀.wristband person event) st.entered := by
  have hinv := hr.implies
    (I := fun st => st.Sound c.sortKey env ∧ st.Tracked person event (st₀.wristband person event))
    ⟨hfresh.sound, hfresh.tracked person event⟩ fun st a st' h ha hs =>
      ⟨(h.2.step h.1 ha hs).1, (h.1.step hs).1, (h.2.step h.1 ha hs).2⟩
  exact ⟨(keepsWristband_of_run hfresh.sound hr.run).mpr hinv.1, hinv.2.2.stored⟩

/-! ## An administrator's roster -/

def plainCollation : Collation where
  sortKey := id
  like s pattern := s == pattern

/-- A roster that has read nothing yet, at the event of `rungDB`. -/
def rosterStart : Rosters where
  rosters _ := { ctx := hawk, eventID := 9 }
  server := { procs := fun _ => .ret (.ok ()), world := rungWorld }

def plainRosterStep : Rosters → RosterAction → Option Rosters :=
  rosterStep plainCollation stillPersonEnv (stillPersonnelEnv [])

/-- A rung is set, somebody enters another wristband, and the next rung is set after another look;
somebody who has no wristband is enrolled. -/
def rosterDay : List RosterAction :=
  [.fetch 0, .deliver 0, .setRole 0 2 (some .reporter)] ++ List.replicate 5 (RosterAction.turn 0) ++
    [.updatePerson hawk (enterWristband 2)] ++ List.replicate 6 (RosterAction.turn 1) ++
    [.fetch 0, .deliver 0, .setRole 0 2 (some .writer)] ++ List.replicate 5 (RosterAction.turn 2) ++
    [.enrol 0 1 (some .reporter)] ++ List.replicate 5 (RosterAction.turn 3)

theorem wristband_enteredLast_day : ∃ st, Run plainRosterStep rosterStart rosterDay st ∧
    RunMeeting plainRosterStep (KeepsWristband id stillPersonEnv 2 9) rosterStart rosterDay st ∧
    st.wristband 2 9 = some "B2" := by
  have hsome : (RunLib.exec (fun st a => if ReadInTime id stillPersonEnv 2 9 st a then
      plainRosterStep st a else none) rosterStart rosterDay).isSome = true := by decide
  obtain ⟨st, hexec⟩ := Option.isSome_iff_exists.mp hsome
  have hread := runMeeting_of_exec hexec
  have hentered : (RunLib.exec plainRosterStep rosterStart rosterDay).map (fun st => st.entered) =
      some [⟨2, 9, some "B2"⟩] := by decide
  rw [hread.run.exec_eq] at hentered
  have hfresh : rosterStart.Fresh := ⟨rfl, rfl, rfl, fun _ => ⟨rfl, rfl⟩⟩
  obtain ⟨hkeeps, hlast⟩ := wristband_enteredLast plainCollation stillPersonEnv
    (stillPersonnelEnv []) 2 9 hfresh hread
  refine ⟨st, hread.run, hkeeps, hlast.trans ?_⟩
  rw [show st.entered = _ from Option.some.inj hentered]
  rfl

/-- Every call has returned, and none has failed. -/
def Rosters.Succeeded (st : Rosters) : Prop :=
  ∀ n < st.calls.length, (st.server.procs n).returned = some (.ok ())

instance (st : Rosters) : Decidable st.Succeeded :=
  inferInstanceAs (Decidable (∀ n < st.calls.length, _))

/-- A roster that is out of date brings the wristband back that was there before; one that has not
been read takes the wristband away. -/
theorem wristband_lost :
    (∃ st, Run plainRosterStep rosterStart ([.fetch 0, .deliver 0] ++
        .updatePerson hawk (enterWristband 2) :: List.replicate 6 (.turn 0) ++
        .setRole 0 2 (some .reporter) :: List.replicate 5 (.turn 1)) st ∧ st.Succeeded ∧
      st.wristband 2 9 ≠ lastEntered 2 9 (rosterStart.wristband 2 9) st.entered) ∧
    ∃ st, Run plainRosterStep rosterStart
        (.enrol 0 2 (some .reporter) :: List.replicate 5 (.turn 0)) st ∧ st.Succeeded ∧
      st.wristband 2 9 ≠ lastEntered 2 9 (rosterStart.wristband 2 9) st.entered := by
  have hrun : ∀ as, (RunLib.exec plainRosterStep rosterStart as).any (fun st => st.Succeeded ∧
      st.wristband 2 9 ≠ lastEntered 2 9 (rosterStart.wristband 2 9) st.entered) = true →
      ∃ st, Run plainRosterStep rosterStart as st ∧ st.Succeeded ∧
        st.wristband 2 9 ≠ lastEntered 2 9 (rosterStart.wristband 2 9) st.entered := by
    intro as h
    obtain ⟨st, hexec, hst⟩ := (Option.any_eq_true _ _).mp h
    exact ⟨st, run_of_exec hexec, of_decide_eq_true hst⟩
  exact ⟨hrun _ (by decide), hrun _ (by decide)⟩

end OcfIms
