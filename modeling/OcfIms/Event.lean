import OcfIms.Area
import OcfIms.EventStore

/-!
# Events

The writes of the event service. An event is an ordinary one or a group of events, and an ordinary
one may belong to a group. Creating an event inserts its row, then edits it as an update would, and
then gives an ordinary event its areas: three writes, each on its own.
-/

namespace OcfIms

open TxnLib

/-- An `Event` message: an absent field stays as it is. Its id is not read. -/
structure EventMsg where
  name : Option String := none
  isGroup : Option Bool := none
  parentGroup : Option Int := none
  deriving DecidableEq, Repr

structure CreateEventRequest where
  event : EventMsg := {}
  deriving DecidableEq, Repr

structure UpdateEventRequest where
  eventID : Int
  event : EventMsg := {}
  deriving DecidableEq, Repr

/-- `\w` of a Go regular expression. -/
def isWordChar (c : Char) : Bool :=
  ('0' ≤ c && c ≤ '9') || ('A' ≤ c && c ≤ 'Z') || c == '_' || ('a' ≤ c && c ≤ 'z')

/-- `allowedEventNames.MatchString`: one or more word characters and hyphens. -/
def allowedEventName (name : String) : Bool :=
  name.toList != [] && name.toList.all fun c => isWordChar c || c == '-'

def badEventName : ConnectError :=
  ⟨.invalidArgument, "event names must match the pattern ^[\\w-]+$"⟩

def requireEventAdmin (ctx : Option IMSClaims) : EventGo ConnectError Unit := do
  let globalPermissions ← fromArea (Call.widen do
    let claims ← authenticated ctx
    let perms ← Call.mapErr (internalError "failed to compute permissions")
      (eventPermissions none claims)
    pure perms.2)
  Call.ensure (hasBit globalPermissions globalAdministrateEvents)
    ⟨.permissionDenied, "the requestor does not have GlobalAdministrateEvents permission"⟩

/-- The name an edit leaves. -/
def editedName (stored : String) : Option String → EventGo ConnectError String
  | none => pure stored
  | some name => do
    Call.ensure (allowedEventName name) badEventName
    pure name

/-- The group an edit leaves the event in: a number that is not positive takes it out of its group. -/
def editedParent (id : Int) (stored : Option Int) : Option Int →
    EventGo ConnectError (Option Int)
  | none => pure stored
  | some pg => do
    Call.ensure (pg != id)
      ⟨.invalidArgument, "event parent group cannot be the same as the event itself"⟩
    if 0 < pg then do
      let target ← eventSelect (.event pg) fun err =>
        if err = .noRows then ⟨.invalidArgument, "event parent group does not exist"⟩
        else internalError "failed to fetch parent group" err
      Call.ensure target.event.isGroup
        ⟨.invalidArgument, "event parent must be an event group"⟩
      pure (some pg)
    else pure none

def applyEventEdits (existing : EventRow) (ev : EventMsg) :
    EventGo ConnectError UpdateEventParams := do
  let name ← editedName existing.event.name ev.name
  let isGroup := ev.isGroup.getD existing.event.isGroup
  let parentGroup ← editedParent existing.id existing.event.parentGroup ev.parentGroup
  Call.ensure (!(isGroup && parentGroup.isSome))
    ⟨.invalidArgument, "an event group cannot have a parent event group"⟩
  pure { id := existing.id, name, isGroup, parentGroup }

/-- Read the row, edit it and write it back: the part the two methods share. -/
def editEvent (id : Int) (ev : EventMsg) (err : SqlErr → ConnectError) :
    EventGo ConnectError UpdateEventParams := do
  let existing ← eventSelect (.event id) err
  let params ← applyEventEdits existing ev
  eventExec (.updateEvent params) (internalError "failed to update event")
  pure params

/-- The areas of a new event; a group has none. -/
def populateAreas (id : Int) (isGroup : Bool) : EventGo ConnectError Unit :=
  if isGroup then pure ()
  else Call.mapErr (internalError "failed to populate event areas")
    (fromArea (populateNewEventAreas id))

def createEvent (ctx : Option IMSClaims) (req : CreateEventRequest) : EventGo ConnectError Int := do
  requireEventAdmin ctx
  Call.ensure (req.event.name.any allowedEventName) badEventName
  let id ← eventExec (.createEvent { name := req.event.name.getD "" })
    (internalError "failed to create event")
  let params ← editEvent id req.event (internalError "failed to fetch event")
  populateAreas id params.isGroup
  pure id

def updateEvent (ctx : Option IMSClaims) (req : UpdateEventRequest) :
    EventGo ConnectError Unit := do
  requireEventAdmin ctx
  let _ ← editEvent req.eventID req.event fun err =>
    if err = .noRows then ⟨.notFound, "event not found"⟩
    else internalError "failed to fetch event" err
  pure ()

end OcfIms
