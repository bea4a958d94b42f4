import OcfIms.LoginIdentity
import OcfIms.PersonnelStore

/-!
# Listing people

`ListPersonnel` is one method with four modes. A query is the typeahead; person numbers filter the
list to those people; `all` is the administrator's listing, of which a roster is shown to whoever
may invite to its event; with none of these the answer is the login directory.
-/

namespace OcfIms

open TxnLib

structure PersonCrew where
  name : String
  slug : String
  isLeader : Bool
  deriving DecidableEq, Repr

/-- `imsjson.Person`. -/
structure PersonJSON where
  handle : String := ""
  name : String := ""
  email : String := ""
  phone : String := ""
  hasPassword : Bool := false
  isAdmin : Bool := false
  personID : Int
  profilePictureURL : Option String := none
  wristband : String := ""
  participationType : Option ParticipationType := none
  crews : List PersonCrew := []
  deriving DecidableEq, Repr

/-- `resourcesv1.Person`. -/
structure PersonMsg where
  handle : Option String
  name : Option String
  email : Option String
  phone : Option String
  hasPassword : Bool
  isAdmin : Bool
  personId : Int
  profilePictureUrl : Option String
  wristband : Option String
  participationType : Option ParticipationType
  crews : List PersonCrew
  deriving DecidableEq, Repr

structure ListPersonnelRequest where
  eventId : Int := 0
  query : String := ""
  all : Bool := false
  showAll : Bool := false
  personIds : List Int := []
  deriving DecidableEq, Repr

/-- `conv.EmptyToNil`. -/
def emptyToNil (s : String) : Option String := if s = "" then none else some s

def personToProto (p : PersonJSON) : PersonMsg where
  handle := emptyToNil p.handle
  name := emptyToNil p.name
  email := emptyToNil p.email
  phone := emptyToNil p.phone
  hasPassword := p.hasPassword
  isAdmin := p.isAdmin
  personId := p.personID
  profilePictureUrl := p.profilePictureURL
  wristband := emptyToNil p.wristband
  participationType := p.participationType
  crews := p.crews

def personProfilePictureURL (personID : Int) : String :=
  "/ims/api/personnel/" ++ toString personID ++ "/picture"

/-- A typed backslash, percent sign or underscore matches itself. -/
def escapeLike (s : String) : String :=
  String.ofList (s.toList.flatMap fun c => if c ∈ ['\\', '%', '_'] then ['\\', c] else [c])

/-! ## The modes -/

/-- The event must exist. -/
def requirePersonnelEvent (eventID : Int) : PersonnelGo HTTPError Unit := do
  let _ ← personnelFromIms (select .pool (.event eventID) fun err =>
    if err = .noRows then .notFound "No such event" (some err)
    else .internalServerError "Failed to get event" err)

/-- The crews of one person among an event's memberships. -/
def crewsOf (rows : List EventCrewMembershipsRow) (person : Int) : List PersonCrew :=
  (rows.filter (·.personID = person)).map fun r => ⟨r.crew.crew.name, r.crew.slug, r.isLeader⟩

def crewsByPersonForEvent (eventID : Int) : PersonnelGo HTTPError (Int → List PersonCrew) := do
  let rows ← personnelSelect (.eventCrewMemberships eventID)
    (.internalServerError "Failed to get crew memberships")
  pure (crewsOf rows)

/-- The crews where an event is named, and none elsewhere. -/
def crewsIfEvent (eventID : Int) : PersonnelGo HTTPError (Int → List PersonCrew) :=
  if eventID ≠ 0 then crewsByPersonForEvent eventID else pure fun _ => []

def searchPersonnel (eventID : Int) (q : String) : PersonnelGo HTTPError (List PersonJSON) :=
  if q.length < 2 then pure []
  else do
    if eventID ≠ 0 then requirePersonnelEvent eventID else pure ()
    let rows ← personnelSelect (.searchPeople eventID ("%" ++ escapeLike q ++ "%"))
      (.internalServerError "Failed to search personnel")
    pure (rows.map fun row =>
      { personID := row.id
        handle := row.handle.getD ""
        name := row.name.getD ""
        wristband := row.wristband.getD ""
        participationType := row.participationType })

/-- What the card of a person shows; contact data only to an administrator and to themselves. -/
def personnelCard (isPersonnelAdmin : Bool) (callerID : Int) (crews : Int → List PersonCrew)
    (participation : List PersonEventRow) (person : PersonByIDRow) : PersonJSON :=
  let isSelf := decide (callerID > 0) && person.id == callerID
  let pe := participation.find? (·.personID = person.id)
  { personID := person.id
    handle := person.handle.getD ""
    name := person.name.getD ""
    profilePictureURL := if person.profilePicture.getD "" ≠ "" then
      some (personProfilePictureURL person.id) else none
    email := if isPersonnelAdmin || isSelf then person.email.getD "" else ""
    phone := if isPersonnelAdmin || isSelf then person.phone.getD "" else ""
    isAdmin := if isPersonnelAdmin then person.isAdmin else false
    wristband := (pe.bind (·.personEvent.wristband)).getD ""
    participationType := pe.map (·.personEvent.participationType)
    crews := crews person.id }

/-- What is looked up of an event for a set of people. -/
def eventColumns (eventID : Int) (personIDs : List Int) :
    PersonnelGo HTTPError (List PersonEventRow × (Int → List PersonCrew)) :=
  if eventID ≠ 0 then do
    requirePersonnelEvent eventID
    let participation ← personnelSelect (.personEventsForPeople eventID personIDs)
      (.internalServerError "Failed to get participation")
    let crews ← crewsByPersonForEvent eventID
    pure (participation, crews)
  else pure ([], fun _ => [])

/-- The people asked for, in the order of the request; an unknown number is left out. -/
def personnelByIDs (personIDs : List Int) (eventID : Int) (globalPerms : GlobalPermissionMask)
    (callerID : Int) : PersonnelGo HTTPError (List PersonJSON) := do
  let rows ← personnelSelect (.peopleByIDs personIDs)
    (.internalServerError "Failed to get people")
  let isPersonnelAdmin := hasBit globalPerms globalAdministratePersonnel
  let (participation, crews) ← eventColumns eventID personIDs
  pure (personIDs.filterMap fun id => (rows.find? (·.id = id)).map
    (personnelCard isPersonnelAdmin callerID crews participation))

/-- The roster of an event is also for whoever may invite to it; the rest is an administrator's. -/
def requireListing (claims : IMSClaims) (eventID : Int) (rosterOnly isPersonnelAdmin : Bool) :
    PersonnelGo HTTPError Unit :=
  if isPersonnelAdmin then pure ()
  else do
    Call.ensure rosterOnly
      (.forbidden "The requestor does not have GlobalAdministratePersonnel permission")
    let perms ← Call.mapErr (.internalServerError "Failed to compute permissions")
      (personnelFromIms (eventPermissions (some eventID) claims))
    Call.ensure (hasBit (perms.1.get eventID) eventInviteReporters)
      (.forbidden "You do not have invite-reporters access to that event")

def rosterPerson (isPersonnelAdmin : Bool) (crews : Int → List PersonCrew)
    (person : EventRosterRow) : PersonJSON where
  handle := person.handle.getD ""
  name := person.name.getD ""
  personID := person.id
  wristband := person.wristband.getD ""
  participationType := some person.participationType
  crews := crews person.id
  email := if isPersonnelAdmin then person.email.getD "" else ""
  phone := if isPersonnelAdmin then person.phone.getD "" else ""
  isAdmin := if isPersonnelAdmin then person.isAdmin else false
  hasPassword := if isPersonnelAdmin then person.hasPassword else false

def listedPerson (crews : Int → List PersonCrew) (person : AllPeopleRow) : PersonJSON where
  handle := person.handle.getD ""
  name := person.name.getD ""
  email := person.email.getD ""
  phone := person.phone.getD ""
  isAdmin := person.isAdmin
  hasPassword := person.hasPassword
  personID := person.id
  wristband := person.wristband.getD ""
  crews := crews person.id
  participationType := person.participationType

def listAllPersonnel (claims : IMSClaims) (eventID : Int) (showAll : Bool)
    (globalPerms : GlobalPermissionMask) : PersonnelGo HTTPError (List PersonJSON) := do
  let isPersonnelAdmin := hasBit globalPerms globalAdministratePersonnel
  if eventID ≠ 0 then requirePersonnelEvent eventID else pure ()
  let rosterOnly := eventID != 0 && !showAll
  requireListing claims eventID rosterOnly isPersonnelAdmin
  let crews ← crewsIfEvent eventID
  if rosterOnly then do
    let rows ← personnelSelect (.eventRoster eventID)
      (.internalServerError "Failed to get personnel")
    pure (rows.map (rosterPerson isPersonnelAdmin crews))
  else do
    let rows ← personnelSelect (.allPeople eventID)
      (.internalServerError "Failed to get personnel")
    pure (rows.map (listedPerson crews))

/-- The login directory, without email and password. -/
def directoryPersonnel : PersonnelGo HTTPError (List PersonJSON) := do
  let people ← getPeople (.internalServerError "Failed to get personnel")
  pure (people.map fun person =>
    { handle := person.handle, isAdmin := person.isAdmin, personID := person.id })

def listPersonnel (claims : IMSClaims) (req : ListPersonnelRequest) :
    PersonnelGo HTTPError (List PersonJSON) := do
  let perms ← Call.mapErr (.internalServerError "Failed to compute permissions")
    (personnelFromIms (eventPermissions none claims))
  Call.ensure (hasBit perms.2 globalReadPersonnel)
    (.forbidden "The requestor does not have GlobalReadPersonnel permission")
  let q := trimSpace req.query
  if q ≠ "" then searchPersonnel req.eventId q
  else if req.personIds ≠ [] then
    personnelByIDs req.personIds req.eventId perms.2 claims.personID
  else if req.all then listAllPersonnel claims req.eventId req.showAll perms.2
  else directoryPersonnel

/-- `ListPersonnel`. -/
def listPersonnelRPC (ctx : Option IMSClaims) (req : ListPersonnelRequest) :
    PersonnelGo ConnectError (List PersonMsg) := do
  let claims ← personnelFromIms (authenticated ctx)
  let people ← Call.mapErr herrToConnect (listPersonnel claims req)
  pure (people.map personToProto)

end OcfIms
