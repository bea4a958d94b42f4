import OcfIms.Server

/-!
# The JSON layer

`imsjson`: the records the services assemble on a read and consume on a write, and the bridges
between them and the protocol's messages. An `IncidentJSON` serves both directions, as in the
source: on a write an absent field (`none`, priority 0, the zero time) leaves the stored one alone.
The protocol's enumerations are open; a value the source does not name counts as unspecified.
-/

namespace OcfIms

structure Mention where
  personID : Int
  handle : String
  name : String
  deriving DecidableEq, Repr

structure AttachmentJSON where
  name : String := ""
  previewable : Bool := false
  mediaType : String := ""
  deriving DecidableEq, Repr

structure JournalEntryJSON where
  id : Int := 0
  created : Int := zeroTime
  author : String := ""
  systemEntry : Bool := false
  text : String
  stricken : Option Bool := none
  attachment : AttachmentJSON := {}
  mentionedPersonIDs : List Int := []
  mentions : List Mention := []
  onBehalfOfPersonID : Option Int := none
  onBehalfOf : Option Mention := none
  deriving DecidableEq, Repr

structure IncidentPersonJSON where
  personID : Int
  handle : String
  name : String
  involvement : Option String
  grantedAccess : Bool
  hasEventAccess : Bool
  reportRequested : Option Int
  reportNumber : Option Int
  deriving DecidableEq, Repr

structure LinkedIncidentJSON where
  eventName : String := ""
  eventID : Int
  number : Int
  summary : String := ""
  deriving DecidableEq, Repr

structure LocationJSON where
  areaSlug : Option String := none
  description : Option String := none
  booth : Option String := none
  deriving DecidableEq, Repr

structure IncidentJSON where
  event : String := ""
  eventID : Int := 0
  number : Int := 0
  created : Int := zeroTime
  lastModified : Int := zeroTime
  createdBy : Option Mention := none
  state : Option IncidentState := none
  isPrivate : Option Bool := none
  outcomeID : Option Int := none
  started : Int := zeroTime
  closed : Int := zeroTime
  priority : Int := 0
  summary : Option String := none
  location : LocationJSON := {}
  incidentTypeIDs : Option (List Int) := none
  reports : Option (List Int) := none
  visits : Option (List Int) := none
  people : Option (List IncidentPersonJSON) := none
  linkedIncidents : Option (List LinkedIncidentJSON) := none
  journalEntries : List JournalEntryJSON := []
  deriving DecidableEq, Repr

structure ReportJSON where
  event : String := ""
  number : Int := 0
  created : Int := zeroTime
  createdBy : Option Mention := none
  summary : Option String := none
  incident : Option Int := none
  journalEntries : List JournalEntryJSON := []
  mayEditSummary : Bool := false
  mayAddJournalEntry : Bool := false
  deriving DecidableEq, Repr

/-! ## Messages -/

/-- An enumeration of the wire: a number no case names is kept. -/
inductive IncidentStateMsg
  | unspecified
  | stateOpen
  | stateClosed
  | unrecognized (number : Int)
  deriving DecidableEq, Repr

inductive IncidentPriorityMsg
  | unspecified
  | high
  | normal
  | low
  | unrecognized (number : Int)
  deriving DecidableEq, Repr

structure PersonRef where
  personId : Int
  handle : Option String := none
  name : Option String := none
  deriving DecidableEq, Repr

structure IncidentRef where
  eventName : String := ""
  eventId : Int
  incidentNumber : Int
  summary : String := ""
  deriving DecidableEq, Repr

structure AttachmentMsg where
  id : String
  previewable : Bool
  mediaType : String
  deriving DecidableEq, Repr

structure JournalEntryMsg where
  id : Int
  created : Int
  author : String
  systemEntry : Bool
  text : String
  stricken : Option Bool
  onBehalfOf : Option PersonRef
  attachment : Option AttachmentMsg
  mentions : List PersonRef
  deriving DecidableEq, Repr

structure IncidentPersonMsg where
  person : PersonRef
  involvement : Option String
  grantedAccess : Bool
  hasEventAccess : Bool
  reportRequested : Option Int
  reportNumber : Option Int
  deriving DecidableEq, Repr

structure IncidentMsg where
  event : String
  eventId : Int
  number : Int
  created : Int
  lastModified : Int
  createdBy : Option PersonRef
  state : IncidentStateMsg
  isPrivate : Option Bool
  outcomeId : Option Int
  started : Int
  priority : IncidentPriorityMsg
  summary : Option String
  location : LocationJSON
  closed : Option Int
  incidentTypeIds : List Int
  reports : List Int
  people : List IncidentPersonMsg
  linkedIncidents : List IncidentRef
  journalEntries : List JournalEntryMsg
  deriving DecidableEq, Repr

structure IncidentView where
  incident : IncidentMsg
  viewerMayAddJournal : Bool
  deriving DecidableEq, Repr

structure ReportMsg where
  event : String
  number : Int
  created : Int
  createdBy : Option PersonRef
  summary : Option String
  incident : Option Int
  journalEntries : List JournalEntryMsg
  deriving DecidableEq, Repr

structure ReportView where
  report : ReportMsg
  mayEditSummary : Bool
  mayAddJournalEntry : Bool
  deriving DecidableEq, Repr

/-- A journal entry of an `IncidentUpdate`. -/
structure NewJournalEntry where
  text : String
  mentionedPersonIds : List Int := []
  deriving DecidableEq, Repr

/-- The write body of an incident; an absent field leaves the stored one unchanged. -/
structure IncidentUpdate where
  state : IncidentStateMsg := .unspecified
  isPrivate : Option Bool := none
  outcomeId : Option Int := none
  started : Option Int := none
  priority : IncidentPriorityMsg := .unspecified
  summary : Option String := none
  location : Option LocationJSON := none
  incidentTypeIds : Option (List Int) := none
  reports : Option (List Int) := none
  linkedIncidents : Option (List IncidentRef) := none
  journalEntries : List NewJournalEntry := []
  deriving DecidableEq, Repr

/-- A journal entry of a report's write body: only these fields are read. -/
structure NewReportJournalEntry where
  text : String
  mentions : List PersonRef := []
  onBehalfOf : Option PersonRef := none
  deriving DecidableEq, Repr

/-- The write body of a report. -/
structure ReportWrite where
  summary : Option String := none
  incident : Option Int := none
  journalEntries : List NewReportJournalEntry := []
  deriving DecidableEq, Repr

/-! ## Bridges -/

def incidentStateFromProto : IncidentStateMsg → Option IncidentState
  | .stateOpen => some .stateOpen
  | .stateClosed => some .stateClosed
  | _ => none

def incidentStateToProto : Option IncidentState → IncidentStateMsg
  | some .stateOpen => .stateOpen
  | some .stateClosed => .stateClosed
  | none => .unspecified

def incidentPriorityHigh : Int := 5
def incidentPriorityNormal : Int := 3
def incidentPriorityLow : Int := 1

def incidentPriorityFromProto : IncidentPriorityMsg → Int
  | .high => incidentPriorityHigh
  | .normal => incidentPriorityNormal
  | .low => incidentPriorityLow
  | _ => 0

def incidentPriorityToProto (p : Int) : IncidentPriorityMsg :=
  if p = incidentPriorityHigh then .high
  else if p = incidentPriorityNormal then .normal
  else if p = incidentPriorityLow then .low
  else .unspecified

def strPtrIfNonEmpty (s : String) : Option String := if s = "" then none else some s

def mentionToPersonRef (m : Mention) : PersonRef :=
  ⟨m.personID, strPtrIfNonEmpty m.handle, strPtrIfNonEmpty m.name⟩

def journalEntryToProto (je : JournalEntryJSON) : JournalEntryMsg where
  id := je.id
  created := je.created
  author := je.author
  systemEntry := je.systemEntry
  text := je.text
  stricken := je.stricken
  onBehalfOf := je.onBehalfOf.map mentionToPersonRef
  attachment :=
    if je.attachment.name ≠ "" then
      some ⟨je.attachment.name, je.attachment.previewable, je.attachment.mediaType⟩
    else none
  mentions := je.mentions.map mentionToPersonRef

def incidentPersonToProto (p : IncidentPersonJSON) : IncidentPersonMsg where
  person := ⟨p.personID, strPtrIfNonEmpty p.handle, strPtrIfNonEmpty p.name⟩
  involvement := p.involvement
  grantedAccess := p.grantedAccess
  hasEventAccess := p.hasEventAccess
  reportRequested := p.reportRequested
  reportNumber := p.reportNumber

/-- Visits are dropped: the contract excludes them. -/
def incidentJSONToProto (inc : IncidentJSON) : IncidentMsg where
  event := inc.event
  eventId := inc.eventID
  number := inc.number
  created := inc.created
  lastModified := inc.lastModified
  createdBy := inc.createdBy.map mentionToPersonRef
  state := incidentStateToProto inc.state
  isPrivate := inc.isPrivate
  outcomeId := inc.outcomeID
  started := inc.started
  priority := incidentPriorityToProto inc.priority
  summary := inc.summary
  location := inc.location
  closed := if isZero inc.closed then none else some inc.closed
  incidentTypeIds := inc.incidentTypeIDs.getD []
  reports := inc.reports.getD []
  people := (inc.people.getD []).map incidentPersonToProto
  linkedIncidents := (inc.linkedIncidents.getD []).map fun li =>
    ⟨li.eventName, li.eventID, li.number, li.summary⟩
  journalEntries := inc.journalEntries.map journalEntryToProto

def reportJSONToProto (r : ReportJSON) : ReportMsg where
  event := r.event
  number := r.number
  created := r.created
  createdBy := r.createdBy.map mentionToPersonRef
  summary := r.summary
  incident := r.incident
  journalEntries := r.journalEntries.map journalEntryToProto

def reportViewFromJSON (r : ReportJSON) : ReportView :=
  ⟨reportJSONToProto r, r.mayEditSummary, r.mayAddJournalEntry⟩

/-- `incidentUpdateToJSON`; a missing message is an empty write. -/
def incidentUpdateToJSON : Option IncidentUpdate → IncidentJSON
  | none => {}
  | some u =>
    { state := incidentStateFromProto u.state
      isPrivate := u.isPrivate
      outcomeID := u.outcomeId
      priority := incidentPriorityFromProto u.priority
      summary := u.summary
      started := u.started.getD zeroTime
      location := u.location.getD {}
      incidentTypeIDs := u.incidentTypeIds
      reports := u.reports
      linkedIncidents := u.linkedIncidents.map fun refs =>
        refs.map fun r => { eventID := r.eventId, number := r.incidentNumber }
      journalEntries := u.journalEntries.map fun je =>
        { text := je.text, mentionedPersonIDs := je.mentionedPersonIds } }

def personRefsToIDs (refs : List PersonRef) : List Int := refs.map (·.personId)

def reportWriteToJSON : Option ReportWrite → ReportJSON
  | none => {}
  | some r =>
    { summary := r.summary
      incident := r.incident
      journalEntries := r.journalEntries.map fun je =>
        { text := je.text
          mentionedPersonIDs := personRefsToIDs je.mentions
          onBehalfOfPersonID := je.onBehalfOf.map (·.personId) } }

/-! ## Rows to JSON -/

def previewableContentType (s : Service) (contentType : String) : Bool :=
  s.safeToPreviewContentType contentType ≠ "application/octet-stream"

/-- The text of a stored entry: its lines, joined. -/
def JournalEntry.renderText (je : JournalEntry) : String :=
  "\n".intercalate (je.text.map JournalLine.render)

def journalEntryToJSON (s : Service) (attachmentsEnabled : Bool) (row : JournalEntryRow)
    (onBehalfOf : Option Mention) : JournalEntryJSON where
  id := row.id
  created := floatToSeconds row.journalEntry.created
  author := row.author.getD ""
  systemEntry := row.journalEntry.generated
  text := row.journalEntry.renderText
  stricken := some row.journalEntry.stricken
  attachment :=
    match attachmentsEnabled, row.journalEntry.attachedFileOriginalName with
    | true, some name =>
      { name
        previewable := previewableContentType s (row.journalEntry.attachedFileMediaType.getD "")
        mediaType := s.safeToPreviewContentType (row.journalEntry.attachedFileMediaType.getD "") }
    | _, _ => {}
  onBehalfOf

def onBehalfOfJSON (row : JournalEntryRow) : Option Mention :=
  row.journalEntry.onBehalfOfPersonID.map fun id =>
    ⟨id, row.onBehalfOfHandle.getD "", row.onBehalfOfName.getD ""⟩

def createdByJSON (personID : Option Int) (handle name : Option String) : Option Mention :=
  personID.map fun id => ⟨id, handle.getD "", name.getD ""⟩

/-- Put the mention rows of a record onto its entries. -/
def withMentions (entries : List JournalEntryJSON) (rows : List MentionRow) :
    List JournalEntryJSON :=
  entries.map fun je =>
    let ms := (rows.filter (·.journalEntry = je.id)).map fun m =>
      (⟨m.personID, m.handle.getD "", m.name.getD ""⟩ : Mention)
    if ms = [] then je else { je with mentions := ms }

end OcfIms
