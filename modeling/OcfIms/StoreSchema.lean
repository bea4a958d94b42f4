import OcfIms.LibTable
import OcfIms.LibTxn

/-!
# The database

The tables of the schema that the modelled services read and write, with their primary keys. Columns
no modelled query mentions are left out. Instants are whole nanoseconds since the Unix epoch where
the schema has a `double`, and every `integer` column is an `Int`.

A journal entry's text is kept as the list of lines the server built it from rather than as the
joined string: the lines that record a report link are data of their own, every other line and
everything a person typed is text. `JournalLine.render` is the text the line stands for.
-/

namespace OcfIms

open TxnLib

inductive IncidentState
  | stateOpen
  | stateClosed
  deriving DecidableEq, Repr

/-- `PERSON__EVENT.PARTICIPATION_TYPE`. -/
inductive ParticipationType
  | writer
  | crewLeader
  | reporter
  | volunteer
  | «public»
  | notPresent
  | ejected
  deriving DecidableEq, Repr

inductive NotificationType
  | mentioned
  | addedToIncident
  | reportRequested
  deriving DecidableEq, Repr

/-- A line of a journal entry. -/
inductive JournalLine
  | text (s : String)
  | reportAdded (number : Int)
  | reportRemoved (number : Int)
  | reportsAdded (numbers : List Int)
  | reportsRemoved (numbers : List Int)
  | attachedToIncident (number : Int)
  | detachedFromIncident (number : Int)
  deriving DecidableEq, Repr

/-- Go's `%v` of a slice of integers. -/
def formatSlice (numbers : List Int) : String :=
  "[" ++ String.intercalate " " (numbers.map toString) ++ "]"

def JournalLine.render : JournalLine → String
  | .text s => s
  | .reportAdded n => "Report added: " ++ toString n
  | .reportRemoved n => "Report removed: " ++ toString n
  | .reportsAdded ns => "Report added: " ++ formatSlice ns
  | .reportsRemoved ns => "Report removed: " ++ formatSlice ns
  | .attachedToIncident n => "Attached to incident: " ++ toString n
  | .detachedFromIncident n => "Detached from incident: " ++ toString n

structure Event where
  name : String
  isGroup : Bool := false
  parentGroup : Option Int := none
  deriving DecidableEq, Repr

structure Person where
  handle : Option String
  name : Option String := none
  isAdmin : Bool := false
  email : Option String := none
  phone : Option String := none
  password : Option String := none
  passwordChanged : Bool := false
  created : Int := 0
  profilePicture : Option String := none
  deriving DecidableEq, Repr

structure PersonEvent where
  wristband : Option String := none
  participationType : ParticipationType
  deriving DecidableEq, Repr

structure Crew where
  name : String
  sortOrder : Int := 0
  deriving DecidableEq, Repr

structure Area where
  name : String
  /-- Null for a top-level area. -/
  parentSlug : Option String := none
  sortOrder : Int := 0
  approved : Bool := true
  proposedByPersonID : Option Int := none
  deriving DecidableEq, Repr

structure Incident where
  created : Int
  priority : Int
  state : IncidentState
  outcomeID : Option Int := none
  started : Int
  closed : Option Int := none
  summary : Option String := none
  locationDescription : Option String := none
  locationAreaSlug : Option String := none
  locationBooth : Option String := none
  isPrivate : Bool := false
  createdBy : Option Int
  deriving DecidableEq, Repr

structure IncidentPerson where
  event : Int
  incidentNumber : Int
  personID : Int
  involvement : Option String := none
  grantedAccess : Bool
  reportRequested : Option Int := none
  deriving DecidableEq, Repr

structure Report where
  created : Int
  summary : Option String := none
  incidentNumber : Option Int := none
  createdBy : Option Int
  deriving DecidableEq, Repr

/-- The free texts of a visit; null where nothing was entered. -/
structure VisitTexts where
  guestLegalName : Option String := none
  guestDescription : Option String := none
  guestActionPlan : Option String := none
  resourceBedID : Option String := none
  guestCampName : Option String := none
  guestCampAddress : Option String := none
  guestCampDescription : Option String := none
  guestCampContacts : Option String := none
  resourceSitter : Option String := none
  arrivalMethod : Option String := none
  arrivalState : Option String := none
  arrivalReason : Option String := none
  arrivalBelongings : Option String := none
  departureMethod : Option String := none
  departureState : Option String := none
  resourceRest : Option String := none
  resourceClothes : Option String := none
  resourcePogs : Option String := none
  resourceFoodBev : Option String := none
  resourceOther : Option String := none
  deriving DecidableEq, Repr

structure Visit where
  incidentNumber : Option Int
  created : Int := 0
  guestPersonID : Option Int := none
  arrivalTime : Option Int := none
  departureTime : Option Int := none
  texts : VisitTexts := {}
  deriving DecidableEq, Repr

/-- `INCIDENT_TYPE.GROUP`. -/
inductive IncidentTypeGroup
  | safety
  | conduct
  | operations
  | compliance
  deriving DecidableEq, Repr

/-- The columns of an incident type or an outcome beside its name; an outcome has no description and
no group. -/
structure ReferenceColumns where
  hidden : Bool := false
  description : Option String := none
  group : Option IncidentTypeGroup := none
  approved : Bool := true
  proposedByPersonID : Option Int := none
  deriving DecidableEq, Repr

/-- A device that takes pushes; an Expo device has no Web Push keys. -/
structure PushSubscription where
  personID : Int
  endpoint : String
  kind : String
  p256dh : Option String
  auth : Option String
  userAgent : Option String
  created : Int
  deriving DecidableEq, Repr

structure JournalEntry where
  authorPersonID : Int
  text : List JournalLine
  created : Int
  generated : Bool
  stricken : Bool := false
  attachedFile : Option String := none
  attachedFileOriginalName : Option String := none
  attachedFileMediaType : Option String := none
  onBehalfOfPersonID : Option Int := none
  deriving DecidableEq, Repr

structure Notification where
  recipientPersonID : Int
  type : NotificationType
  event : Int
  incidentNumber : Option Int
  reportNumber : Option Int
  journalEntry : Option Int
  actorPersonID : Option Int
  created : Int
  readAt : Option Int := none
  deriving DecidableEq, Repr

/-- The tables. A row's key is its primary key; link tables carry no other data. -/
structure DB where
  event : Table Int Event := .empty
  person : Table Int Person := .empty
  /-- `PERSON__EVENT`, keyed on the person and the event. -/
  personEvent : Table (Int × Int) PersonEvent := .empty
  /-- `CREW`, keyed on the event and the slug. -/
  crew : Table (Int × String) Crew := .empty
  /-- `CREW_MEMBERSHIP`, keyed on the event, the crew's slug and the person; the row is `IS_LEADER`. -/
  crewMembership : Table (Int × String × Int) Bool := .empty
  incidentType : Table Int String := .empty
  outcome : Table Int String := .empty
  /-- `AREA`, keyed on the event and the slug. -/
  area : Table (Int × String) Area := .empty
  incident : Table (Int × Int) Incident := .empty
  incidentPerson : Table Int IncidentPerson := .empty
  incidentIncidentType : Table (Int × Int × Int) Unit := .empty
  incidentLinkedIncident : Table ((Int × Int) × Int × Int) Unit := .empty
  report : Table (Int × Int) Report := .empty
  visit : Table (Int × Int) Visit := .empty
  journalEntry : Table Int JournalEntry := .empty
  incidentJournalEntry : Table (Int × Int × Int) Unit := .empty
  reportJournalEntry : Table (Int × Int × Int) Unit := .empty
  /-- `JOURNAL_ENTRY__MENTION`, keyed on the entry and the person. -/
  journalEntryMention : Table (Int × Int) Unit := .empty
  notification : Table Int Notification := .empty
  /-- The names of the incident types are in `incidentType`, their other columns here. -/
  incidentTypeColumns : Table Int ReferenceColumns := .empty
  outcomeColumns : Table Int ReferenceColumns := .empty
  visitJournalEntry : Table (Int × Int × Int) Unit := .empty
  pushSubscription : Table Int PushSubscription := .empty
  deriving DecidableEq

/-- An error of the SQL driver: an empty result, a finished transaction, a value that does not fit
the Go type, or an error number of the server. -/
inductive SqlErr
  | noRows
  | txDone
  | scan
  | mysql (number : Nat)
  deriving DecidableEq, Repr

/-- A text parameter. `conv.StringToSql` cuts by bytes, and a cut inside a character leaves bytes
that are no text: `cut` holds the whole characters before it. -/
inductive SqlText
  | text (s : String)
  | cut (before : String)
  deriving DecidableEq, Repr

namespace SqlText

/-- The characters a Go string prints. -/
def string : SqlText → String
  | .text s => s
  | .cut s => s

end SqlText

end OcfIms
