import OcfIms.IncidentRead
import OcfIms.ReferenceStore

/-!
# Incident types and outcomes

The writes of the two reference-data services. An administrator creates, edits, hides and approves
them; anyone who may write incidents at an event may propose one. The two services are the same up to
their texts, their permission and their caches, and to what an update edits.
-/

namespace OcfIms

open TxnLib

inductive IncidentTypeGroupMsg
  | unspecified
  | safety
  | conduct
  | operations
  | compliance
  deriving DecidableEq, Repr

/-- An `IncidentType` message, or an `Outcome` one, which has no description and no group; its id and
its approval are not read. -/
structure ReferenceMsg where
  name : Option String := none
  description : Option String := none
  hidden : Option Bool := none
  group : Option IncidentTypeGroupMsg := none
  deriving DecidableEq, Repr

structure CreateReferenceRequest where
  msg : ReferenceMsg := {}
  deriving DecidableEq, Repr

structure UpdateReferenceRequest where
  id : Int
  msg : ReferenceMsg := {}
  deriving DecidableEq, Repr

structure ApproveReferenceRequest where
  id : Int
  deriving DecidableEq, Repr

structure SetReferenceHiddenRequest where
  id : Int
  hidden : Bool
  deriving DecidableEq, Repr

structure ProposeReferenceRequest where
  eventID : Int
  msg : ReferenceMsg := {}
  deriving DecidableEq, Repr

/-- Absent and `UNSPECIFIED` are no group. -/
def incidentTypeGroupFromProto : Option IncidentTypeGroupMsg → Option IncidentTypeGroup
  | some .safety => some .safety
  | some .conduct => some .conduct
  | some .operations => some .operations
  | some .compliance => some .compliance
  | some .unspecified => none
  | none => none

namespace ReferenceKind

/-- What the service's texts call one of them. -/
def noun : ReferenceKind → String
  | .incidentType => "incident type"
  | .outcome => "outcome"

def plural (kind : ReferenceKind) : String := kind.noun ++ "s"

/-- The permission to administer them, and its name. -/
def administrate : ReferenceKind → GlobalPermissionMask × String
  | .incidentType => (globalAdministrateIncidentTypes, "GlobalAdministrateIncidentTypes")
  | .outcome => (globalAdministrateOutcomes, "GlobalAdministrateOutcomes")

/-- The caches a write drops. -/
def caches : ReferenceKind → List ReferenceEffect
  | .incidentType => [.invalidateMetrics, .invalidateTypes]
  | .outcome => [.invalidateOutcomes]

end ReferenceKind

/-! ## What the services share -/

/-- The caller and their global permissions. -/
def referenceGlobals (ctx : Option IMSClaims) :
    ReferenceGo ConnectError (IMSClaims × GlobalPermissionMask) := Call.widen do
  let claims ← authenticated ctx
  let perms ← Call.mapErr (internalError "failed to compute permissions")
    (eventPermissions none claims)
  pure (claims, perms.2)

/-- `requireAdmin`. -/
def requireReferenceAdmin (kind : ReferenceKind) (ctx : Option IMSClaims) :
    ReferenceGo ConnectError Unit := do
  let (_, globalPermissions) ← referenceGlobals ctx
  Call.ensure (hasBit globalPermissions kind.administrate.1)
    ⟨.permissionDenied,
      "the requestor does not have " ++ kind.administrate.2 ++ " permission"⟩

/-- `loadIncidentType` and `loadOutcome`. -/
def loadReference (kind : ReferenceKind) (id : Int) : ReferenceGo ConnectError ReferenceRow :=
  referenceSelect .pool (.row kind id) fun err =>
    if err = .noRows then ⟨.notFound, kind.noun ++ " not found"⟩
    else internalError ("failed to fetch " ++ kind.noun) err

/-- `s.invalidateCaches`. -/
def invalidateReference (kind : ReferenceKind) : ReferenceGo ConnectError Unit :=
  kind.caches.forM fun o => Call.perform (.emit (.inr o))

/-- An administrator's new row, approved and without a proposer. -/
def createReference (kind : ReferenceKind) (ctx : Option IMSClaims) (req : CreateReferenceRequest)
    (group : Option IncidentTypeGroup) : ReferenceGo ConnectError Int := do
  requireReferenceAdmin kind ctx
  let name := trimSpace (req.msg.name.getD "")
  Call.ensure (name != "")
    ⟨.invalidArgument, kind.noun ++ " name is required for a new " ++ kind.noun⟩
  let id ← referenceExec .pool (.create kind {
      name, hidden := req.msg.hidden.getD false, group, approved := true,
      proposedByPersonID := none }) (internalError ("failed to create " ++ kind.noun))
  invalidateReference kind
  pure id

/-- A write that changes a row that was just read. -/
def editReference (kind : ReferenceKind) (ctx : Option IMSClaims) (id : Int)
    (write : ReferenceRow → ReferenceWrite Unit) (failed : String) :
    ReferenceGo ConnectError Unit := do
  requireReferenceAdmin kind ctx
  let row ← loadReference kind id
  referenceExec .pool (write row) (internalError failed)
  invalidateReference kind

/-- What a proposal answers when its insert failed: the row that has the name already, if the failure
was a duplicate and the row is found. -/
def resolveProposed (kind : ReferenceKind) (name : String) (err : SqlErr) :
    ReferenceGo ConnectError Int := do
  let failed := internalError ("failed to propose " ++ kind.noun) err
  if err = .mysql 1062 then
    match ← Call.result (referenceSelect .pool (.byName kind name) id) with
    | .ok existing => pure existing.id
    | .error _ => throw failed
  else throw failed

def proposeReference (kind : ReferenceKind) (ctx : Option IMSClaims) (req : ProposeReferenceRequest) :
    ReferenceGo ConnectError Int := do
  let claims ← Call.widen (authenticated ctx)
  let perms ← Call.widen (Call.mapErr (internalError "failed to compute permissions")
    (eventPermissions (some req.eventID) claims))
  Call.ensure (hasBit (perms.1.get req.eventID) eventWriteIncidents)
    ⟨.permissionDenied,
      "the requestor does not have permission to propose " ++ kind.plural ++ " on this event"⟩
  let name := trimSpace (req.msg.name.getD "")
  Call.ensure (name != "") ⟨.invalidArgument, kind.noun ++ " name is required"⟩
  match ← Call.result (referenceExec .pool (.create kind {
      name, hidden := false, approved := false, proposedByPersonID := some claims.personID }) id) with
  | .ok id => do
    invalidateReference kind
    pure id
  | .error err => resolveProposed kind name err

/-- The write of `ApproveIncidentType` and of `ApproveOutcome`. -/
def approveReference (kind : ReferenceKind) (ctx : Option IMSClaims) (req : ApproveReferenceRequest) :
    ReferenceGo ConnectError Unit :=
  editReference kind ctx req.id (fun _ => .approve kind req.id) ("failed to approve " ++ kind.noun)

/-! ## Incident types -/

def createIncidentType (ctx : Option IMSClaims) (req : CreateReferenceRequest) :
    ReferenceGo ConnectError Int :=
  createReference .incidentType ctx req (incidentTypeGroupFromProto req.msg.group)

/-- The row that an update writes: every field that is present. A present group may clear it. -/
def updatedIncidentType (msg : ReferenceMsg) (row : ReferenceRow) : UpdateIncidentTypeParams where
  hidden := row.columns.hidden
  name := msg.name.getD row.name
  id := row.id
  description :=
    if msg.description.isSome then stringToSql msg.description 1023
    else row.columns.description.map .text
  group := if msg.group.isSome then incidentTypeGroupFromProto msg.group else row.columns.group

def updateIncidentType (ctx : Option IMSClaims) (req : UpdateReferenceRequest) :
    ReferenceGo ConnectError Unit :=
  editReference .incidentType ctx req.id
    (fun row => .updateIncidentType (updatedIncidentType req.msg row)) "failed to update incident type"

def approveIncidentType (ctx : Option IMSClaims) (req : ApproveReferenceRequest) :
    ReferenceGo ConnectError Unit :=
  approveReference .incidentType ctx req

def setIncidentTypeHidden (ctx : Option IMSClaims) (req : SetReferenceHiddenRequest) :
    ReferenceGo ConnectError Unit :=
  editReference .incidentType ctx req.id
    (fun row => .updateIncidentType
      { hidden := req.hidden
        name := row.name
        id := row.id
        description := row.columns.description.map .text
        group := row.columns.group })
    "failed to set incident type hidden"

def proposeIncidentType (ctx : Option IMSClaims) (req : ProposeReferenceRequest) :
    ReferenceGo ConnectError Int :=
  proposeReference .incidentType ctx req

/-! ## Outcomes -/

def createOutcome (ctx : Option IMSClaims) (req : CreateReferenceRequest) :
    ReferenceGo ConnectError Int :=
  createReference .outcome ctx req none

/-- The row that an update writes. -/
def updatedOutcome (msg : ReferenceMsg) (row : ReferenceRow) : UpdateOutcomeParams where
  hidden := row.columns.hidden
  name := msg.name.getD row.name
  id := row.id

def updateOutcome (ctx : Option IMSClaims) (req : UpdateReferenceRequest) :
    ReferenceGo ConnectError Unit :=
  editReference .outcome ctx req.id (fun row => .updateOutcome (updatedOutcome req.msg row))
    "failed to update outcome"

def approveOutcome (ctx : Option IMSClaims) (req : ApproveReferenceRequest) :
    ReferenceGo ConnectError Unit :=
  approveReference .outcome ctx req

def setOutcomeHidden (ctx : Option IMSClaims) (req : SetReferenceHiddenRequest) :
    ReferenceGo ConnectError Unit :=
  editReference .outcome ctx req.id
    (fun row => .updateOutcome { hidden := req.hidden, name := row.name, id := row.id })
    "failed to set outcome hidden"

def proposeOutcome (ctx : Option IMSClaims) (req : ProposeReferenceRequest) :
    ReferenceGo ConnectError Int :=
  proposeReference .outcome ctx req

end OcfIms
