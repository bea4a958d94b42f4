import OcfIms.Area
import OcfIms.CrewStore
import OcfIms.Person

/-!
# Crews

The writes of the crew service. An administrator makes the crews and says who leads them; a crew's
leaders add and remove its other members themselves, through `myEditMember`.
-/

namespace OcfIms

open TxnLib

/-- The crew service's configuration. A transaction that cannot be opened or committed is reported
with the driver's own text. -/
structure CrewService where
  unicode : UnicodeTables
  errorText : SqlErr → String := fun _ => ""

/-- What `crewMsgToJSON` takes over from a `Crew` message. -/
structure CrewJSON where
  slug : String := ""
  name : Option String := none
  sortOrder : Option Int := none
  deriving DecidableEq, Repr

structure CreateCrewRequest where
  eventID : Int
  name : Option String := none
  deriving DecidableEq, Repr

structure UpdateCrewRequest where
  eventID : Int
  crewSlug : String
  name : Option String := none
  deriving DecidableEq, Repr

/-- A request of `SetCrewMembership` or of `SetMyCrewMembership`. -/
structure SetCrewMembershipRequest where
  eventID : Int
  crewSlug : String
  personID : Int
  remove : Bool := false
  isLeader : Bool := false
  deriving DecidableEq, Repr

def requireCrewAdmin (ctx : Option IMSClaims) (eventID : Int) : CrewGo ConnectError Unit := do
  let claims ← fromPerson (fromIms (authenticated ctx))
  let perms ← fromPerson (fromIms (Call.mapErr (internalError "failed to compute permissions")
    (eventPermissions (some eventID) claims)))
  Call.ensure (hasBit perms.2 globalAdministrateCrews)
    ⟨.permissionDenied, "the requestor does not have GlobalAdministrateCrews permission"⟩

/-- `s.Crews.InvalidateEvent`. -/
def invalidateCrews (eventID : Int) : CrewGo ConnectError Unit :=
  Call.perform (.emit (.inr (.invalidateCrews eventID)))

def fetchCrews (eventID : Int) : CrewGo ConnectError (List CrewRow) :=
  crewSelect .pool (.crews eventID) (internalError "failed to fetch crews")

def mustFindCrew (eventID : Int) (slug : String) : CrewGo ConnectError CrewRow := do
  let existing ← fetchCrews eventID
  match existing.find? fun c => c.slug == slug with
  | none => throw ⟨.notFound, "No such Crew"⟩
  | some row => pure row

/-- What a failure to add a member means. -/
def addMemberError (err : SqlErr) : ConnectError :=
  if err = .mysql 1452 then ⟨.notFound, "No such person"⟩
  else internalError "failed to add crew member" err

/-! ## Crews -/

/-- `s.createCrew`, which inserts the row. -/
def insertNewCrew (s : CrewService) (eventID : Int) (crewReq : CrewJSON) :
    CrewGo ConnectError String := do
  Call.ensure (trimSpace (crewReq.name.getD "") != "")
    ⟨.invalidArgument, "Crew name is required for a new Crew"⟩
  let existing ← fetchCrews eventID
  let slug := uniqueSlug s.unicode (crewReq.name.getD "") (existing.map (·.slug))
  crewExec .pool (.createCrew eventID slug
    { name := trimSpace (crewReq.name.getD ""), sortOrder := crewReq.sortOrder.getD 0 })
    (internalError "failed to create crew")
  pure slug

def createCrew (s : CrewService) (ctx : Option IMSClaims) (req : CreateCrewRequest) :
    CrewGo ConnectError String := do
  requireCrewAdmin ctx req.eventID
  let slug ← insertNewCrew s req.eventID { name := req.name }
  invalidateCrews req.eventID
  pure slug

/-- The name an update leaves: absent it stays, present it is trimmed and must not be blank. -/
def updatedCrewName (stored : String) : Option String → CrewGo ConnectError String
  | none => pure stored
  | some name => do
    Call.ensure (trimSpace name != "") ⟨.invalidArgument, "Crew name may not be blank"⟩
    pure (trimSpace name)

/-- `s.updateCrew`, which writes the row. -/
def writeUpdatedCrew (eventID : Int) (crewReq : CrewJSON) : CrewGo ConnectError Unit := do
  let row ← mustFindCrew eventID crewReq.slug
  let name ← updatedCrewName row.crew.name crewReq.name
  crewExec .pool (.updateCrew { name, sortOrder := crewReq.sortOrder.getD row.crew.sortOrder }
    eventID crewReq.slug) (internalError "failed to update crew")

def updateCrew (ctx : Option IMSClaims) (req : UpdateCrewRequest) : CrewGo ConnectError Unit := do
  requireCrewAdmin ctx req.eventID
  writeUpdatedCrew req.eventID { slug := req.crewSlug, name := req.name }
  invalidateCrews req.eventID

/-- The crew's members go first: their foreign key names the crew. -/
def deleteCrewTxn (eventID : Int) (slug : String) : CrewGo CausedError Unit := do
  crewExec .txn (.removeAllCrewMembers eventID slug) fun err =>
    { wire := internalError "failed to clear crew membership" err, cause := some err }
  crewExec .txn (.deleteCrew eventID slug) fun err =>
    { wire := internalError "failed to delete crew" err, cause := some err }

def deleteCrew (s : CrewService) (ctx : Option IMSClaims) (eventID : Int) (slug : String) :
    CrewGo ConnectError Unit := do
  requireCrewAdmin ctx eventID
  let _ ← mustFindCrew eventID slug
  Call.mapErr CausedError.wire (Call.runInTx
    (fun err => { wire := ⟨.unknown, s.errorText err⟩, cause := some err }) CausedError.retryable
    (deleteCrewTxn eventID slug) 3)
  invalidateCrews eventID

/-! ## Members -/

def requirePersonID (personID : Int) : CrewGo ConnectError Unit :=
  Call.ensure (personID != 0)
    ⟨.invalidArgument, "A person id is required to change crew membership"⟩

def removeMember (eventID : Int) (slug : String) (personID : Int) : CrewGo ConnectError Unit :=
  crewExec .pool (.removeCrewMember eventID slug personID)
    (internalError "failed to remove crew member")

def adminEditMember (req : SetCrewMembershipRequest) : CrewGo ConnectError Unit := do
  let _ ← mustFindCrew req.eventID req.crewSlug
  requirePersonID req.personID
  if req.remove then removeMember req.eventID req.crewSlug req.personID
  else
    crewExec .pool (.addCrewMember req.eventID req.crewSlug req.personID req.isLeader)
      addMemberError

def setCrewMembership (ctx : Option IMSClaims) (req : SetCrewMembershipRequest) :
    CrewGo ConnectError Unit := do
  requireCrewAdmin ctx req.eventID
  adminEditMember req
  invalidateCrews req.eventID

/-- The part of `myEditMember` that takes a member out, who must not be a leader. -/
def removeNonLeader (eventID : Int) (slug : String) (personID : Int) :
    CrewGo ConnectError Unit := do
  match ← Call.result (crewSelect .pool (.crewMembership eventID slug personID) id) with
  | .error .noRows => pure ()
  | .error err => throw (internalError "failed to look up crew member" err)
  | .ok isLeader => do
    Call.ensure (!isLeader)
      ⟨.permissionDenied, "Crew leaders are managed by an admin and can't be removed here"⟩
    removeMember eventID slug personID

def myEditMember (req : SetCrewMembershipRequest) : CrewGo ConnectError Unit := do
  requirePersonID req.personID
  if req.remove then removeNonLeader req.eventID req.crewSlug req.personID
  else crewExec .pool (.addCrewMemberIfAbsent req.eventID req.crewSlug req.personID) addMemberError

def setMyCrewMembership (ctx : Option IMSClaims) (req : SetCrewMembershipRequest) :
    CrewGo ConnectError Unit := do
  let claims ← fromPerson (fromIms (authenticated ctx))
  let ledSlugs ← fromPerson (fromIms
    (select .pool (.crewsLedByPerson req.eventID claims.personID)
      (internalError "failed to check crew leadership")))
  Call.ensure (req.crewSlug ∈ ledSlugs) ⟨.permissionDenied, "you do not lead this crew"⟩
  myEditMember req
  invalidateCrews req.eventID

end OcfIms
