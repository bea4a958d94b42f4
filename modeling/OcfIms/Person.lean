import OcfIms.IncidentRead
import OcfIms.PersonStore

/-!
# People

The writes of the personnel service: those of an administrator on other people, the few an inviter
may do at an event, and what everyone may change of themselves. A profile edit goes through
`applyProfileFields` on either way, and a participation through `setPersonEvent`.
-/

namespace OcfIms

open TxnLib

def maxHandleLength : Nat := 64
def maxNameLength : Nat := 255
def maxEmailLength : Nat := 128
def maxPhoneLength : Nat := 32
def maxWristbandLength : Nat := 32

def minPasswordLength : Nat := 8
def maxPasswordLength : Nat := 256

/-- The personnel service's configuration. A transaction that cannot be opened or committed is
reported with the driver's own text. -/
structure PersonService where
  defaultPassword : String := ""
  errorText : SqlErr → String := fun _ => ""

structure CreatePersonRequest where
  handle : String := ""
  name : String := ""
  email : String := ""
  phone : String := ""
  password : String := ""
  useDefaultPassword : Bool := false
  eventID : Int := 0
  wristband : String := ""
  participationType : Option ParticipationType := none
  deriving DecidableEq, Repr

/-- The person a `CreatePerson` answers with. -/
structure CreatedPerson where
  personID : Int
  handle : String
  name : String
  email : String
  phone : String
  wristband : String := ""
  participationType : Option ParticipationType := none
  deriving DecidableEq, Repr

/-- A profile edit: a field that is absent stays as it is, an empty one is cleared. -/
structure ProfilePatch where
  handle : Option String := none
  name : Option String := none
  email : Option String := none
  phone : Option String := none
  deriving DecidableEq, Repr

structure UpdatePersonRequest where
  personID : Int
  patch : ProfilePatch := {}
  eventID : Int := 0
  wristband : String := ""
  participationType : Option ParticipationType := none
  deriving DecidableEq, Repr

/-- `DupEntryError`. -/
def isDupEntry (err : SqlErr) : Bool := err == .mysql 1062

/-! ## Helpers -/

/-- `server.PersonByID`. -/
def personByIDRow (id : Int) : PersonGo HTTPError PersonByIDRow :=
  personSelect .pool (.personByID id) fun err =>
    if err = .noRows then .notFound "Unknown person" none
    else .internalServerError "Failed to look up person" err

def requireEvent (eventID : Int) : PersonGo HTTPError Unit := do
  let _ ← fromIms (select .pool (.event eventID) fun err =>
    if err = .noRows then .notFound "No such event" (some err)
    else .internalServerError "Failed to get event" err)

def personnelGlobals (ctx : Option IMSClaims) :
    PersonGo ConnectError (IMSClaims × GlobalPermissionMask) := do
  let claims ← fromIms (authenticated ctx)
  let perms ← Call.mapErr (internalError "failed to compute permissions")
    (fromIms (eventPermissions none claims))
  pure (claims, perms.2)

def requirePersonnelAdmin (globalPerms : GlobalPermissionMask) : PersonGo ConnectError Unit :=
  Call.ensure (hasBit globalPerms globalAdministratePersonnel)
    ⟨.permissionDenied, "The requestor does not have GlobalAdministratePersonnel permission"⟩

def defaultParticipation (wristband : String) : ParticipationType :=
  if trimSpace wristband ≠ "" then .volunteer else .public

def mayAssignParticipation (callerIsAdmin : Bool) (target : ParticipationType) : Bool :=
  callerIsAdmin || match target with
    | .writer | .crewLeader => false
    | _ => true

def wristbandConflict (err : SqlErr) : HTTPError :=
  if isDupEntry err then ⟨409, "That wristband is already assigned for this event", none⟩
  else .internalServerError "Failed to set participation" err

/-- A wristband as it is stored: null where it is empty. -/
def wristbandNull (wristband : String) : Option SqlText :=
  if wristband ≠ "" then stringToSql (some wristband) maxWristbandLength else none

def setPersonEvent (person event : Int) (wristband : Option SqlText)
    (participation : ParticipationType) : PersonGo HTTPError Unit := do
  match ← Call.result (fromIms (select .pool (.personEvent person event) id)) with
  | .ok _ =>
    personExec .pool (.updatePersonEvent wristband participation person event) wristbandConflict
  | .error .noRows =>
    personExec .pool (.insertPersonEvent person event wristband participation) wristbandConflict
  | .error err => throw (.internalServerError "Failed to read participation" err)

/-- A text field of a profile edit: absent it keeps the stored value, present it is trimmed, checked
against its bound and made null where it is empty. -/
def profileField (stored : Option String) (body : Option String) (maxLength : Nat)
    (tooLong : String) : PersonGo HTTPError (Option SqlText) :=
  match body with
  | none => pure (stored.map .text)
  | some s => do
    let trimmed := trimSpace s
    Call.ensure (trimmed.utf8ByteSize ≤ maxLength) (.badRequest tooLong none)
    pure (stringToSql (some trimmed) maxLength)

/-- The text of a nullable column, empty where it is null. -/
def nullText (t : Option SqlText) : String := (t.map SqlText.string).getD ""

def applyProfileFields (person : PersonByIDRow) (patch : ProfilePatch) : PersonGo HTTPError Unit := do
  let handle ← profileField person.handle patch.handle maxHandleLength "Handle is too long"
  let name ← profileField person.name patch.name maxNameLength "Name is too long"
  Call.ensure (!(nullText handle == "" && nullText name == ""))
    (.badRequest "A fair name or full legal name is required" none)
  let email ← profileField person.email patch.email maxEmailLength "Email is too long"
  Call.ensure (!(person.hasPassword && nullText email == ""))
    (.badRequest "This person can sign in, so an email is required and cannot be cleared" none)
  let phone ← profileField person.phone patch.phone maxPhoneLength "Phone number is too long"
  personExec .pool (.editPerson { handle, name, email, phone } person.id) fun err =>
    if isDupEntry err then ⟨409, "That handle or email is already in use", none⟩
    else .internalServerError "Failed to edit person" err

/-! ## Creating a person -/

/-- A non-admin must name an event they may invite reporters to. -/
def eventForInvite (claims : IMSClaims) (eventID : Int) : PersonGo ConnectError Int := do
  Call.ensure (eventID != 0) ⟨.permissionDenied, "Creating a person requires " ++
    "GlobalAdministratePersonnel, or invite-reporters access on a named event"⟩
  Call.mapErr herrToConnect (requireEvent eventID)
  let perms ← fromIms (permissionsAt eventID claims)
  Call.ensure (hasBit perms eventInviteReporters)
    ⟨.permissionDenied, "You do not have invite-reporters access to that event"⟩
  pure eventID

/-- The event to enrol the new person at; 0 is none. -/
def eventForCreate (claims : IMSClaims) (isPersonnelAdmin : Bool) (eventID : Int) :
    PersonGo ConnectError Int :=
  if !isPersonnelAdmin then eventForInvite claims eventID
  else if eventID ≠ 0 then do
    Call.mapErr herrToConnect (requireEvent eventID)
    pure eventID
  else pure 0

/-- The participation of a new person: as asked for, or by their wristband. -/
def participationForCreate (isPersonnelAdmin : Bool) (wristband : String) :
    Option ParticipationType → PersonGo ConnectError ParticipationType
  | none => pure (defaultParticipation wristband)
  | some mapped => do
    Call.ensure (mayAssignParticipation isPersonnelAdmin mapped)
      ⟨.permissionDenied, "Only an admin may assign the writer or crew_leader role"⟩
    pure mapped

def checkPasswordLength (password : String) : PersonGo ConnectError Unit := do
  Call.ensure (minPasswordLength ≤ password.utf8ByteSize)
    ⟨.invalidArgument, "Password must be at least 8 characters"⟩
  Call.ensure (password.utf8ByteSize ≤ maxPasswordLength)
    ⟨.invalidArgument, "Outrageously long passwords are disallowed"⟩

def requireDefaultPassword (s : PersonService) : PersonGo ConnectError Unit :=
  Call.ensure (s.defaultPassword ≠ "") ⟨.invalidArgument, "No default password is configured on " ++
    "this server; set a specific password instead"⟩

/-- The hash a new person starts with, null without access, and whether its password is another
than the shared default. -/
def passwordForCreate (s : PersonService) (req : CreatePersonRequest) :
    PersonGo ConnectError (Option SqlText × Bool) :=
  if req.password ≠ "" then do
    checkPasswordLength req.password
    let hashed ← createHash req.password
    pure (stringToSql (some hashed) 255, req.password != s.defaultPassword)
  else if req.useDefaultPassword then do
    requireDefaultPassword s
    let hashed ← createHash s.defaultPassword
    pure (stringToSql (some hashed) 255, false)
  else pure (none, false)

/-- The pre-check on a handle; the unique constraint is the backstop. -/
def checkHandleFree (handle : String) : PersonGo ConnectError Unit :=
  if handle = "" then pure () else do
    let handleNull := stringToSql (some handle) maxHandleLength
    match ← Call.result (personSelect .pool (.personByHandle handleNull) id) with
    | .ok _ => throw ⟨.alreadyExists, "A person with that handle already exists"⟩
    | .error .noRows => pure ()
    | .error err => throw (internalError "failed to check handle" err)

/-- A new person's row at the event, if one is named. -/
def enrolPerson (person eventID : Int) (wristband : String) (participation : ParticipationType) :
    PersonGo CausedError Unit :=
  if eventID = 0 then pure ()
  else personExec .txn
    (.insertPersonEvent person eventID (wristbandNull wristband) participation) fun err =>
      { wire := herrToConnect (wristbandConflict err), cause := (wristbandConflict err).internalErr }

/-- The body of the transaction: the person's row, stamped with the time, and their row at the event
if one is named. -/
def createPersonTxn (params : Int → CreatePersonParams) (eventID : Int) (wristband : String)
    (participation : ParticipationType) : PersonGo CausedError Int := do
  let created ← fromIms now
  let id ← personExec .txn (.createPerson (params (timeToFloat created))) fun err =>
    if isDupEntry err then { wire := ⟨.alreadyExists, "That handle or email is already in use"⟩ }
    else { wire := internalError "failed to create person" err, cause := some err }
  enrolPerson id eventID wristband participation
  pure id

def createPerson (s : PersonService) (ctx : Option IMSClaims) (req : CreatePersonRequest) :
    PersonGo ConnectError CreatedPerson := do
  let (claims, globalPerms) ← personnelGlobals ctx
  let handle := trimSpace req.handle
  let name := trimSpace req.name
  let email := trimSpace req.email
  let phone := trimSpace req.phone
  let wristband := trimSpace req.wristband
  Call.ensure (!(handle == "" && name == ""))
    ⟨.invalidArgument, "A fair name or full legal name is required"⟩
  let isPersonnelAdmin := hasBit globalPerms globalAdministratePersonnel
  let eventID ← eventForCreate claims isPersonnelAdmin req.eventID
  let participation ← participationForCreate isPersonnelAdmin wristband req.participationType
  let grantAccess := req.password ≠ "" || req.useDefaultPassword
  Call.ensure (!(grantAccess && handle == ""))
    ⟨.invalidArgument, "A fair name is required to provide IMS access"⟩
  Call.ensure (!(grantAccess && email == ""))
    ⟨.invalidArgument, "An email is required to provide IMS access (it is the login identifier)"⟩
  let (password, passwordChanged) ← passwordForCreate s req
  checkHandleFree handle
  let newID ← Call.mapErr CausedError.wire (Call.runInTx
    (fun err => { wire := ⟨.unknown, s.errorText err⟩, cause := some err }) CausedError.retryable
    (createPersonTxn (fun created =>
      { handle := stringToSql (some handle) maxHandleLength,
        name := stringToSql (some name) maxNameLength,
        email := stringToSql (some email) maxEmailLength,
        phone := stringToSql (some phone) maxPhoneLength,
        password, created, passwordChanged }) eventID wristband participation) 3)
  invalidateUsers
  if eventID ≠ 0 then
    pure { personID := newID, handle, name, email, phone, wristband,
           participationType := some participation }
  else pure { personID := newID, handle, name, email, phone }

/-! ## Editing a person -/

def editParticipation (req : UpdatePersonRequest) : PersonGo ConnectError Unit := do
  let wristband := trimSpace req.wristband
  if req.eventID = 0 ∨ wristband = "" ∧ req.participationType = none then pure ()
  else do
    let participation := req.participationType.getD (defaultParticipation wristband)
    Call.mapErr herrToConnect (requireEvent req.eventID)
    Call.mapErr herrToConnect
      (setPersonEvent req.personID req.eventID (wristbandNull wristband) participation)

/-- `UpdatePerson`. -/
def editPerson (ctx : Option IMSClaims) (req : UpdatePersonRequest) :
    PersonGo ConnectError Unit := do
  let (_, globalPerms) ← personnelGlobals ctx
  requirePersonnelAdmin globalPerms
  let person ← Call.mapErr herrToConnect (personByIDRow req.personID)
  Call.mapErr herrToConnect (applyProfileFields person req.patch)
  editParticipation req
  invalidateUsers

/-- `resolveSelf`: the caller's own row. -/
def resolveSelf (ctx : Option IMSClaims) : PersonGo ConnectError PersonByIDRow := do
  let claims ← fromIms (authenticated ctx)
  personSelect .pool (.personByID claims.personID) fun err =>
    if err = .noRows then ⟨.notFound, "unknown person"⟩
    else internalError "failed to load person" err

def updateOwnProfile (ctx : Option IMSClaims) (patch : ProfilePatch) :
    PersonGo ConnectError Unit := do
  let person ← resolveSelf ctx
  Call.mapErr herrToConnect (applyProfileFields person patch)
  invalidateUsers

/-! ## Participations -/

structure SetPersonParticipationRequest where
  personID : Int
  eventID : Int
  wristband : String := ""
  participationType : Option ParticipationType := none
  deriving DecidableEq, Repr

/-- A non-admin may set participations at an event they may invite reporters to. -/
def requireInvite (claims : IMSClaims) (eventID : Int) : PersonGo ConnectError Unit := do
  let perms ← fromIms (permissionsAt eventID claims)
  Call.ensure (hasBit perms eventInviteReporters) ⟨.permissionDenied, "Setting participation " ++
    "requires GlobalAdministratePersonnel or invite-reporters access for this event"⟩

/-- A non-admin grants neither of the two rungs an admin reserves, and leaves alone who holds one. -/
def requireRungs (person eventID : Int) (participation : ParticipationType) :
    PersonGo ConnectError Unit := do
  Call.ensure (mayAssignParticipation false participation)
    ⟨.permissionDenied, "Only an admin may assign the writer or crew_leader role"⟩
  match ← Call.result (fromIms (select .pool (.personEvent person eventID) id)) with
  | .error .noRows => pure ()
  | .error err => throw (internalError "failed to read participation" err)
  | .ok current =>
    Call.ensure (mayAssignParticipation false current.participationType)
      ⟨.permissionDenied, "You may not modify a writer or crew leader"⟩

/-- `SetPersonParticipation`. -/
def setParticipation (ctx : Option IMSClaims) (req : SetPersonParticipationRequest) :
    PersonGo ConnectError Unit := do
  let (claims, globalPerms) ← personnelGlobals ctx
  let isPersonnelAdmin := hasBit globalPerms globalAdministratePersonnel
  let person ← Call.mapErr herrToConnect (personByIDRow req.personID)
  Call.mapErr herrToConnect (requireEvent req.eventID)
  if isPersonnelAdmin then pure () else requireInvite claims req.eventID
  let wristband := trimSpace req.wristband
  let participation := req.participationType.getD (defaultParticipation wristband)
  if isPersonnelAdmin then pure () else requireRungs person.id req.eventID participation
  Call.mapErr herrToConnect
    (setPersonEvent person.id req.eventID (wristbandNull wristband) participation)
  invalidateUsers

/-- `RemovePersonFromEvent`. -/
def removePersonEvent (ctx : Option IMSClaims) (personID eventID : Int) :
    PersonGo ConnectError Unit := do
  let (_, globalPerms) ← personnelGlobals ctx
  requirePersonnelAdmin globalPerms
  let person ← Call.mapErr herrToConnect (personByIDRow personID)
  Call.mapErr herrToConnect (requireEvent eventID)
  personExec .pool (.deletePersonEvent person.id eventID)
    (internalError "failed to remove participation")
  invalidateUsers

/-! ## Profile pictures -/

def clearProfilePicture (personID : Int) (oldFileName : String) : PersonGo HTTPError Unit := do
  personExec .pool (.setPersonProfilePicture none personID)
    (.internalServerError "Failed to remove profile picture")
  if oldFileName ≠ "" then Call.perform (.emit (.inr (.deleteFile oldFileName))) else pure ()

def deletePersonProfilePicture (ctx : Option IMSClaims) (personID : Int) :
    PersonGo ConnectError Unit := do
  let (_, globalPerms) ← personnelGlobals ctx
  requirePersonnelAdmin globalPerms
  let person ← Call.mapErr herrToConnect (personByIDRow personID)
  Call.mapErr herrToConnect (clearProfilePicture person.id (person.profilePicture.getD ""))

def deleteOwnProfilePicture (ctx : Option IMSClaims) : PersonGo ConnectError Unit := do
  let person ← resolveSelf ctx
  Call.mapErr herrToConnect (clearProfilePicture person.id (person.profilePicture.getD ""))

/-! ## Passwords and the admin flag -/

/-- The caller's own new password, which must be another than the shared default. -/
def changeOwnPassword (s : PersonService) (ctx : Option IMSClaims) (password : String) :
    PersonGo ConnectError Unit := do
  Call.ensure (minPasswordLength ≤ password.utf8ByteSize)
    ⟨.invalidArgument, "password must be at least " ++ toString minPasswordLength ++ " characters"⟩
  Call.ensure (password.utf8ByteSize ≤ 256)
    ⟨.invalidArgument, "outrageously long passwords are disallowed"⟩
  Call.ensure (!(s.defaultPassword != "" && password == s.defaultPassword))
    ⟨.invalidArgument, "please choose a password other than the shared default"⟩
  let person ← resolveSelf ctx
  Call.ensure (person.email.getD "" != "")
    ⟨.invalidArgument, "your account has no email on file; ask an admin to add one"⟩
  let hashed ← createHash password
  personExec .pool (.setPersonPassword (stringToSql (some hashed) 255) true person.id)
    (internalError "failed to set password")
  invalidateUsers

def checkNewPassword (s : PersonService) (password : String) (useDefault : Bool) :
    PersonGo ConnectError Unit :=
  if useDefault then requireDefaultPassword s else checkPasswordLength password

def setPersonPassword (s : PersonService) (ctx : Option IMSClaims) (personID : Int)
    (password : String) (useDefault : Bool) : PersonGo ConnectError Unit := do
  let (_, globalPerms) ← personnelGlobals ctx
  requirePersonnelAdmin globalPerms
  checkNewPassword s password useDefault
  let person ← Call.mapErr herrToConnect (personByIDRow personID)
  Call.ensure (person.email.getD "" != "") ⟨.invalidArgument, "This person has no email; an email " ++
    "is the login identifier, so add one before setting a password"⟩
  let pw := if useDefault then s.defaultPassword else password
  let hashed ← createHash pw
  personExec .pool (.setPersonPassword (stringToSql (some hashed) 255)
    (s.defaultPassword == "" || pw != s.defaultPassword) person.id)
    (internalError "failed to set password")
  invalidateUsers

/-- The guard against removing the last administrator. -/
def checkNotLastAdmin (target : PersonByIDRow) (isAdmin : Bool) : PersonGo ConnectError Unit :=
  if !isAdmin && target.isAdmin then do
    let adminCount ← personSelect .pool .countAdmins
      (internalError "failed to count administrators")
    Call.ensure (1 < adminCount) ⟨.failedPrecondition, "Cannot remove the last administrator"⟩
  else pure ()

def setPersonAdmin (ctx : Option IMSClaims) (personID : Int) (isAdmin : Bool) :
    PersonGo ConnectError Unit := do
  let claims ← fromIms (authenticated ctx)
  Call.ensure claims.admin
    ⟨.permissionDenied, "Only administrators may change administrator status"⟩
  let target ← Call.mapErr herrToConnect (personByIDRow personID)
  checkNotLastAdmin target isAdmin
  personExec .pool (.setPersonAdmin isAdmin target.id) (internalError "failed to set admin flag")
  invalidateUsers

end OcfIms
