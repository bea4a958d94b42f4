import Mathlib
import OcfIms.StoreSchema

/-!
# The queries

The statements of `store/queries.sql` that the modelled services issue, each a constructor of `Read`
or `Write` with the parameters and the result the statement has, and what the server does with
them. A read never touches the database. A write checks its primary key and its foreign keys as the
schema declares them (error 1062 for a duplicate, 1452 for a missing referenced row); an `update` or
`delete` that matches no row succeeds and changes nothing. Result rows come in insertion order.
-/

namespace OcfIms

open TxnLib

/-! ## Result rows -/

structure EventRow where
  id : Int
  event : Event
  deriving DecidableEq, Repr

structure IncidentRow where
  event : Int
  number : Int
  incident : Incident
  incidentTypeIds : List Int
  reportNumbers : List Int
  visitNumbers : List Int
  createdByHandle : Option String
  createdByName : Option String
  deriving DecidableEq, Repr

structure IncidentPersonRow where
  incidentPerson : IncidentPerson
  handle : Option String
  name : Option String
  hasEventAccess : Bool
  deriving DecidableEq, Repr

structure LinkedIncidentRow where
  linkedEvent : Int
  linkedEventName : String
  linkedIncident : Int
  linkedIncidentSummary : Option String
  linkedIncidentPrivate : Bool
  linkedIncidentCreatedBy : Option Int
  deriving DecidableEq, Repr

structure ReportRow where
  event : Int
  number : Int
  report : Report
  createdByHandle : Option String
  createdByName : Option String
  deriving DecidableEq, Repr

/-- A journal entry of an incident or a report, with the number of the record it belongs to. -/
structure JournalEntryRow where
  recordNumber : Int
  id : Int
  journalEntry : JournalEntry
  author : Option String
  onBehalfOfHandle : Option String := none
  onBehalfOfName : Option String := none
  deriving DecidableEq, Repr

structure MentionRow where
  journalEntry : Int
  personID : Int
  handle : Option String
  name : Option String
  deriving DecidableEq, Repr

structure LinkedReportRow where
  number : Int
  incidentNumber : Option Int
  createdBy : Option Int
  deriving DecidableEq, Repr

structure PersonRow where
  id : Int
  handle : Option String
  name : Option String
  deriving DecidableEq, Repr

/-- A notification with what the bell shows of its incident, its report and its actor. -/
structure NotificationRow where
  id : Int
  notification : Notification
  eventName : Option String
  incidentSummary : Option String
  incidentPrivate : Option Bool
  incidentCreatedBy : Option Int
  incidentRecipientHasGrant : Bool
  reportSummary : Option String
  actorHandle : Option String
  actorName : Option String
  deriving DecidableEq, Repr

/-! ## Reads -/

inductive Read : Type → Type
  | event (id : Int) : Read EventRow
  | events : Read (List EventRow)
  | incident (event number : Int) : Read IncidentRow
  | incidents (event : Int) : Read (List IncidentRow)
  | incidentsPeople (event : Int) : Read (List IncidentPersonRow)
  | incidentPeople (event incidentNumber : Int) : Read (List IncidentPersonRow)
  | incidentPersonHasGrant (event incidentNumber personID : Int) : Read Bool
  | grantedIncidentNumbersForPerson (event personID : Int) : Read (List Int)
  | incidentLinkedIncidents (event incidentNumber : Int) : Read (List LinkedIncidentRow)
  | incidentsJournalEntries (event : Int) (generated : Bool) : Read (List JournalEntryRow)
  | incidentJournalEntries (event incidentNumber : Int) : Read (List JournalEntryRow)
  | incidentTypes : Read (List (Int × String))
  | reports (event : Int) : Read (List ReportRow)
  | report (event number : Int) : Read ReportRow
  | reportsJournalEntries (event : Int) (generated : Bool) : Read (List JournalEntryRow)
  | reportJournalEntries (event reportNumber : Int) : Read (List JournalEntryRow)
  | reportsLinkedToIncidents (event : Int) : Read (List LinkedReportRow)
  | nextReportNumber (event : Int) : Read Int
  | nextIncidentNumber (event : Int) : Read Int
  | journalEntryMentionPersonIDs (journalEntry : Int) : Read (List Int)
  | incidentJournalEntryMentions (event incidentNumber : Int) : Read (List MentionRow)
  | reportJournalEntryMentions (event reportNumber : Int) : Read (List MentionRow)
  | reportJournalEntryAuthor (event reportNumber journalEntry : Int) : Read (Option String)
  | outcomes : Read (List (Int × String))
  | area (event : Int) (slug : String) : Read Unit
  | crewsLedByPerson (event personID : Int) : Read (List String)
  | crewLeaderReportNumbers (event leaderPersonID : Int) : Read (List Int)
  | personByID (id : Int) : Read PersonRow
  | personEvent (personID event : Int) : Read PersonEvent
  | personEventsForPerson (personID : Int) : Read (List (Int × ParticipationType))
  | notificationsForPerson (recipientPersonID : Int) : Read (List NotificationRow)
  | unreadNotificationCountForPerson (recipientPersonID : Int) : Read Int

namespace DB

/-- A `:one` query without a row answers `sql.ErrNoRows`. -/
def one {α : Type} : Option α → Except SqlErr α
  | some a => .ok a
  | none => .error .noRows

def handleOf (db : DB) (person : Option Int) : Option String := do
  let p ← db.person.find? (← person)
  p.handle

def nameOf (db : DB) (person : Option Int) : Option String := do
  let p ← db.person.find? (← person)
  p.name

/-- The ids of the incident types on an incident. -/
def typesOf (db : DB) (e n : Int) : List Int :=
  db.incidentIncidentType.rows.filterMap fun r =>
    if r.1.1 = e ∧ r.1.2.1 = n then some r.1.2.2 else none

/-- The numbers of the reports linked to an incident. -/
def reportsOf (db : DB) (e n : Int) : List Int :=
  db.report.rows.filterMap fun r =>
    if r.1.1 = e ∧ r.2.incidentNumber = some n then some r.1.2 else none

def visitsOf (db : DB) (e n : Int) : List Int :=
  db.visit.rows.filterMap fun r =>
    if r.1.1 = e ∧ r.2.incidentNumber = some n then some r.1.2 else none

/-- The incidents linked from an incident. -/
def linksOf (db : DB) (e n : Int) : List (Int × Int) :=
  db.incidentLinkedIncident.rows.filterMap fun r =>
    if r.1.1 = (e, n) then some r.1.2 else none

/-- The ids of the journal entries of an incident. -/
def incidentEntriesOf (db : DB) (e n : Int) : List Int :=
  db.incidentJournalEntry.rows.filterMap fun r =>
    if r.1.1 = e ∧ r.1.2.1 = n then some r.1.2.2 else none

def reportEntriesOf (db : DB) (e n : Int) : List Int :=
  db.reportJournalEntry.rows.filterMap fun r =>
    if r.1.1 = e ∧ r.1.2.1 = n then some r.1.2.2 else none

def incidentRow (db : DB) (e n : Int) (i : Incident) : IncidentRow where
  event := e
  number := n
  incident := i
  incidentTypeIds := db.typesOf e n
  reportNumbers := db.reportsOf e n
  visitNumbers := db.visitsOf e n
  createdByHandle := db.handleOf i.createdBy
  createdByName := db.nameOf i.createdBy

def reportRow (db : DB) (e n : Int) (r : Report) : ReportRow where
  event := e
  number := n
  report := r
  createdByHandle := db.handleOf r.createdBy
  createdByName := db.nameOf r.createdBy

/-- `HAS_EVENT_ACCESS`: an admin, a writer unless the incident is private, its creator if it is. -/
def hasEventAccess (db : DB) (ip : IncidentPerson) (p : Person) (i : Incident) : Bool :=
  p.isAdmin ||
    (!i.isPrivate &&
      ((db.personEvent.find? (ip.personID, ip.event)).map (·.participationType) == some .writer)) ||
    (i.isPrivate && i.createdBy == some ip.personID)

def incidentPersonRow (db : DB) (ip : IncidentPerson) : Option IncidentPersonRow := do
  let p ← db.person.find? ip.personID
  let i ← db.incident.find? (ip.event, ip.incidentNumber)
  some ⟨ip, p.handle, p.name, db.hasEventAccess ip p i⟩

/-- Whether the person has a granted involvement on the incident. -/
def hasGrant (db : DB) (e n person : Int) : Bool :=
  db.incidentPerson.rows.any fun r =>
    r.2.event = e && r.2.incidentNumber = n && r.2.personID = person && r.2.grantedAccess

def linkedIncidentRow (db : DB) (e n : Int) : Option LinkedIncidentRow := do
  let ev ← db.event.find? e
  let i ← db.incident.find? (e, n)
  some ⟨e, ev.name, n, i.summary, i.isPrivate, i.createdBy⟩

/-- An entry joined with its author and the person it was written for. -/
def journalEntryRow (db : DB) (record id : Int) : Option JournalEntryRow := do
  let je ← db.journalEntry.find? id
  let author ← db.person.find? je.authorPersonID
  some ⟨record, id, je, author.handle, db.handleOf je.onBehalfOfPersonID,
    db.nameOf je.onBehalfOfPersonID⟩

/-- `GENERATED <= ?`. -/
def generatedUpTo (bound : Bool) (r : JournalEntryRow) : Bool := !r.journalEntry.generated || bound

def mentionRows (db : DB) (entry : Int) : List MentionRow :=
  db.journalEntryMention.rows.filterMap fun r =>
    if r.1.1 = entry then
      (db.person.find? r.1.2).map fun p => ⟨entry, r.1.2, p.handle, p.name⟩
    else none

/-- `NUMBER + 1`, or 1 for an event without any, the largest first; the result is scanned into an
`int32`. -/
def nextNumber (numbers : List Int) : Except SqlErr Int :=
  let next := numbers.foldr (fun n m => max (n + 1) m) 1
  if next ≤ 2147483647 then .ok next else .error .scan

def numbersIn {ρ : Type} (t : Table (Int × Int) ρ) (e : Int) : List Int :=
  t.rows.filterMap fun r => if r.1.1 = e then some r.1.2 else none

/-- The slugs of the crews a person leads in an event. -/
def crewsLedBy (db : DB) (e person : Int) : List String :=
  db.crewMembership.rows.filterMap fun r =>
    if r.1.1 = e ∧ r.1.2.2 = person ∧ r.2 = true then some r.1.2.1 else none

/-- The reports whose creator is a member of a crew the person leads. -/
def crewLeaderReports (db : DB) (e leader : Int) : List Int :=
  db.report.rows.filterMap fun r =>
    if r.1.1 = e ∧ (db.crewsLedBy e leader).any (fun slug =>
        r.2.createdBy.any fun c => db.crewMembership.contains (e, slug, c))
    then some r.1.2 else none

/-- A notification left-joined with its event, its incident, its report and its actor. -/
def notificationRow (db : DB) (id : Int) (n : Notification) : NotificationRow :=
  let incident := n.incidentNumber.bind fun number => db.incident.find? (n.event, number)
  let report := n.reportNumber.bind fun number => db.report.find? (n.event, number)
  { id
    notification := n
    eventName := (db.event.find? n.event).map (·.name)
    incidentSummary := incident.bind (·.summary)
    incidentPrivate := incident.map (·.isPrivate)
    incidentCreatedBy := incident.bind (·.createdBy)
    incidentRecipientHasGrant := n.incidentNumber.any fun number =>
      db.hasGrant n.event number n.recipientPersonID
    reportSummary := report.bind (·.summary)
    actorHandle := db.handleOf n.actorPersonID
    actorName := db.nameOf n.actorPersonID }

/-- A person's 200 newest notifications, the newest first. -/
def recentNotifications (db : DB) (person : Int) : List (Int × Notification) :=
  ((db.notification.rows.filter (·.2.recipientPersonID = person)).insertionSort
    fun a b => b.2.created ≤ a.2.created).take 200

end DB

def Read.eval : {β : Type} → Read β → DB → Except SqlErr β
  | _, .event id, db => DB.one ((db.event.find? id).map (EventRow.mk id))
  | _, .events, db => .ok (db.event.rows.map fun r => ⟨r.1, r.2⟩)
  | _, .incident e n, db => DB.one ((db.incident.find? (e, n)).map (db.incidentRow e n))
  | _, .incidents e, db => .ok (db.incident.rows.filterMap fun r =>
      if r.1.1 = e then some (db.incidentRow e r.1.2 r.2) else none)
  | _, .incidentsPeople e, db => .ok (db.incidentPerson.rows.filterMap fun r =>
      if r.2.event = e then db.incidentPersonRow r.2 else none)
  | _, .incidentPeople e n, db => .ok (db.incidentPerson.rows.filterMap fun r =>
      if r.2.event = e ∧ r.2.incidentNumber = n then db.incidentPersonRow r.2 else none)
  | _, .incidentPersonHasGrant e n p, db => .ok (db.hasGrant e n p)
  | _, .grantedIncidentNumbersForPerson e p, db =>
      .ok (db.incidentPerson.rows.filterMap fun r =>
        if r.2.event = e ∧ r.2.personID = p ∧ r.2.grantedAccess = true
        then some r.2.incidentNumber else none).dedup
  | _, .incidentLinkedIncidents e n, db =>
      .ok ((db.linksOf e n).filterMap fun l => db.linkedIncidentRow l.1 l.2)
  | _, .incidentsJournalEntries e g, db =>
      .ok ((db.incidentJournalEntry.rows.filterMap fun r =>
        if r.1.1 = e then db.journalEntryRow r.1.2.1 r.1.2.2 else none).filter (DB.generatedUpTo g))
  | _, .incidentJournalEntries e n, db =>
      .ok ((db.incidentEntriesOf e n).filterMap (db.journalEntryRow n))
  | _, .incidentTypes, db => .ok db.incidentType.rows
  | _, .reports e, db => .ok (db.report.rows.filterMap fun r =>
      if r.1.1 = e then some (db.reportRow e r.1.2 r.2) else none)
  | _, .report e n, db => DB.one ((db.report.find? (e, n)).map (db.reportRow e n))
  | _, .reportsJournalEntries e g, db =>
      .ok ((db.reportJournalEntry.rows.filterMap fun r =>
        if r.1.1 = e then db.journalEntryRow r.1.2.1 r.1.2.2 else none).filter (DB.generatedUpTo g))
  | _, .reportJournalEntries e n, db =>
      .ok ((db.reportEntriesOf e n).filterMap (db.journalEntryRow n))
  | _, .reportsLinkedToIncidents e, db => .ok (db.report.rows.filterMap fun r =>
      if r.1.1 = e ∧ r.2.incidentNumber.isSome then
        some ⟨r.1.2, r.2.incidentNumber, r.2.createdBy⟩ else none)
  | _, .nextReportNumber e, db => DB.nextNumber (DB.numbersIn db.report e)
  | _, .nextIncidentNumber e, db => DB.nextNumber (DB.numbersIn db.incident e)
  | _, .journalEntryMentionPersonIDs je, db => .ok (db.journalEntryMention.rows.filterMap fun r =>
      if r.1.1 = je then some r.1.2 else none)
  | _, .incidentJournalEntryMentions e n, db =>
      .ok ((db.incidentEntriesOf e n).flatMap db.mentionRows)
  | _, .reportJournalEntryMentions e n, db =>
      .ok ((db.reportEntriesOf e n).flatMap db.mentionRows)
  | _, .reportJournalEntryAuthor e n je, db =>
      DB.one (if db.reportJournalEntry.contains (e, n, je) then
        (db.journalEntryRow n je).map (·.author) else none)
  | _, .outcomes, db => .ok db.outcome.rows
  | _, .area e slug, db => DB.one ((db.area.find? (e, slug)).map fun _ => ())
  | _, .crewsLedByPerson e p, db => .ok (db.crewsLedBy e p)
  | _, .crewLeaderReportNumbers e p, db => .ok (db.crewLeaderReports e p)
  | _, .personByID id, db =>
      DB.one ((db.person.find? id).map fun p => ⟨id, p.handle, p.name⟩)
  | _, .personEvent p e, db => DB.one (db.personEvent.find? (p, e))
  | _, .personEventsForPerson p, db => .ok (db.personEvent.rows.filterMap fun r =>
      if r.1.1 = p then some (r.1.2, r.2.participationType) else none)
  | _, .notificationsForPerson p, db =>
      .ok ((db.recentNotifications p).map fun r => db.notificationRow r.1 r.2)
  | _, .unreadNotificationCountForPerson p, db => .ok (db.notification.rows.countP fun r =>
      r.2.recipientPersonID = p ∧ r.2.readAt = none)

/-! ## Writes -/

structure UpdateIncidentParams where
  priority : Int
  state : IncidentState
  outcomeID : Option Int
  started : Int
  closed : Option Int
  summary : Option String
  locationDescription : Option String
  locationAreaSlug : Option String
  locationBooth : Option SqlText
  isPrivate : Bool
  deriving DecidableEq, Repr

inductive Write : Type → Type
  | createIncident (event number created started priority : Int) (state : IncidentState)
      (createdBy : Option Int) : Write Unit
  | updateIncident (event number : Int) (params : UpdateIncidentParams) : Write Unit
  | attachReportToIncident (event number : Int) (incidentNumber : Option Int) : Write Unit
  | createReport (event number created : Int) (summary : Option String)
      (incidentNumber createdBy : Option Int) : Write Unit
  | updateReport (event number : Int) (summary : Option String) (incidentNumber : Option Int) :
      Write Unit
  | createJournalEntry (params : JournalEntry) : Write Int
  | attachJournalEntryToReport (event reportNumber journalEntry : Int) : Write Unit
  | attachJournalEntryToIncident (event incidentNumber journalEntry : Int) : Write Unit
  | attachVisitToIncident (event number : Int) (incidentNumber : Option Int) : Write Unit
  | createJournalEntryMention (journalEntry personID : Int) : Write Unit
  | createNotification (params : Notification) : Write Unit
  | setIncidentJournalEntryStricken (stricken : Bool) (event incidentNumber journalEntry : Int) :
      Write Unit
  | setReportJournalEntryStricken (stricken : Bool) (event reportNumber journalEntry : Int) :
      Write Unit
  | attachPersonToIncident (event incidentNumber personID : Int) (involvement : Option SqlText)
      (grantedAccess : Bool) (reportRequested : Option Int) : Write Unit
  | requestReportFromPerson (reportRequested : Option Int) (event incidentNumber personID : Int) :
      Write Unit
  | detachPersonFromIncident (event incidentNumber personID : Int) : Write Unit
  | linkIncidents (event1 incidentNumber1 event2 incidentNumber2 : Int) : Write Unit
  | unlinkIncidents (event1 incidentNumber1 event2 incidentNumber2 : Int) : Write Unit
  | attachIncidentTypeToIncident (event incidentNumber incidentType : Int) : Write Unit
  | detachIncidentTypeFromIncident (event incidentNumber incidentType : Int) : Write Unit

namespace DB

/-- A primary key must be new. -/
def unique {α : Type} (taken : Bool) (k : Except SqlErr α) : Except SqlErr α :=
  if taken then .error (.mysql 1062) else k

/-- A foreign key must name a row. -/
def references {α : Type} (present : Bool) (k : Except SqlErr α) : Except SqlErr α :=
  if present then k else .error (.mysql 1452)

/-- A nullable foreign key must be null or name a row. -/
def nullOr {κ ρ : Type} [DecidableEq κ] (t : Table κ ρ) : Option κ → Bool
  | none => true
  | some k => t.contains k

/-- A text column takes text only: error 1366 for bytes that are none. -/
def textColumn {α : Type} : Option SqlText → (Option String → Except SqlErr α) → Except SqlErr α
  | none, k => k none
  | some (.text s), k => k (some s)
  | some (.cut _), _ => .error (.mysql 1366)

/-- A `:one` query that answers has its row. -/
theorem one_eq_ok {α : Type} {o : Option α} {a : α} : one o = .ok a ↔ o = some a := by
  cases o <;> simp [one]

@[simp] theorem unique_eq_ok {α : Type} {taken : Bool} {k : Except SqlErr α} {a : α} :
    unique taken k = .ok a ↔ taken = false ∧ k = .ok a := by
  cases taken <;> simp [unique]

@[simp] theorem references_eq_ok {α : Type} {present : Bool} {k : Except SqlErr α} {a : α} :
    references present k = .ok a ↔ present = true ∧ k = .ok a := by
  cases present <;> simp [references]

@[simp] theorem textColumn_eq_ok {α : Type} {t : Option SqlText}
    {k : Option String → Except SqlErr α} {a : α} :
    textColumn t k = .ok a ↔ ∃ s : Option String, t = s.map .text ∧ k s = .ok a := by
  rcases t with _ | _ | _
  · constructor
    · exact fun h => ⟨none, rfl, h⟩
    · rintro ⟨_ | s', hs, h⟩
      · exact h
      · simp at hs
  · rename_i s
    constructor
    · intro h
      exact ⟨some s, rfl, h⟩
    · rintro ⟨_ | s', hs, h⟩
      · simp at hs
      · simp only [Option.map_some, Option.some.injEq, SqlText.text.injEq] at hs
        subst hs
        exact h
  · simp only [textColumn, reduceCtorEq, false_iff, not_exists, not_and]
    rintro (_ | s') hs <;> simp at hs

/-- The row an `UpdateIncident` leaves: every column it sets, `CREATED` and `CREATED_BY` kept. -/
def updatedIncident (p : UpdateIncidentParams) (booth : Option String) (i : Incident) : Incident :=
  { i with
    priority := p.priority
    state := p.state
    outcomeID := p.outcomeID
    started := p.started
    closed := p.closed
    summary := p.summary
    locationDescription := p.locationDescription
    locationAreaSlug := p.locationAreaSlug
    locationBooth := booth
    isPrivate := p.isPrivate }

end DB

open DB in
def Write.apply : {β : Type} → Write β → Int → DB → Except SqlErr (β × DB)
  | _, .createIncident e n created started priority state createdBy, _, db =>
      unique (db.incident.contains (e, n)) <|
      references (db.event.contains e) <|
      references (nullOr db.person createdBy) <|
      .ok ((), { db with
        incident := db.incident.insert (e, n) { created, started, priority, state, createdBy } })
  | _, .updateIncident e n p, _, db =>
      match db.incident.find? (e, n) with
      | none => .ok ((), db)
      | some i =>
        textColumn p.locationBooth fun booth =>
        references (nullOr db.outcome p.outcomeID) <|
        references (nullOr db.area (p.locationAreaSlug.map (e, ·))) <|
        .ok ((), { db with incident := db.incident.modify (e, n) fun _ => updatedIncident p booth i })
  | _, .attachReportToIncident e n incidentNumber, _, db =>
      match db.report.find? (e, n) with
      | none => .ok ((), db)
      | some _ =>
        references (nullOr db.incident (incidentNumber.map (e, ·))) <|
        .ok ((), { db with report := db.report.modify (e, n) fun r => { r with incidentNumber } })
  | _, .createReport e n created summary incidentNumber createdBy, _, db =>
      unique (db.report.contains (e, n)) <|
      references (db.event.contains e) <|
      references (nullOr db.incident (incidentNumber.map (e, ·))) <|
      references (nullOr db.person createdBy) <|
      .ok ((), { db with
        report := db.report.insert (e, n) { created, summary, incidentNumber, createdBy } })
  | _, .updateReport e n summary incidentNumber, _, db =>
      match db.report.find? (e, n) with
      | none => .ok ((), db)
      | some _ =>
        references (nullOr db.incident (incidentNumber.map (e, ·))) <|
        .ok ((), { db with
          report := db.report.modify (e, n) fun r => { r with summary, incidentNumber } })
  | _, .createJournalEntry je, id, db =>
      unique (db.journalEntry.contains id) <|
      references (db.person.contains je.authorPersonID) <|
      references (nullOr db.person je.onBehalfOfPersonID) <|
      .ok (id, { db with journalEntry := db.journalEntry.insert id je })
  | _, .attachJournalEntryToReport e n je, _, db =>
      unique (db.reportJournalEntry.contains (e, n, je)) <|
      references (db.report.contains (e, n)) <|
      references (db.journalEntry.contains je) <|
      .ok ((), { db with reportJournalEntry := db.reportJournalEntry.insert (e, n, je) () })
  | _, .attachJournalEntryToIncident e n je, _, db =>
      unique (db.incidentJournalEntry.contains (e, n, je)) <|
      references (db.incident.contains (e, n)) <|
      references (db.journalEntry.contains je) <|
      .ok ((), { db with incidentJournalEntry := db.incidentJournalEntry.insert (e, n, je) () })
  | _, .attachVisitToIncident e n incidentNumber, _, db =>
      match db.visit.find? (e, n) with
      | none => .ok ((), db)
      | some _ =>
        references (nullOr db.incident (incidentNumber.map (e, ·))) <|
        .ok ((), { db with visit := db.visit.modify (e, n) fun r => { r with incidentNumber } })
  | _, .createJournalEntryMention je p, _, db =>
      -- Insert-ignore: a duplicate or a missing person is skipped without an error.
      if db.journalEntry.contains je && db.person.contains p
      then .ok ((), { db with journalEntryMention := db.journalEntryMention.insert (je, p) () })
      else .ok ((), db)
  | _, .createNotification n, id, db =>
      unique (db.notification.contains id) <|
      references (db.person.contains n.recipientPersonID) <|
      references (nullOr db.person n.actorPersonID) <|
      references (db.event.contains n.event) <|
      references (nullOr db.incident (n.incidentNumber.map (n.event, ·))) <|
      references (nullOr db.report (n.reportNumber.map (n.event, ·))) <|
      references (nullOr db.journalEntry n.journalEntry) <|
      .ok ((), { db with notification := db.notification.insert id n })
  | _, .setIncidentJournalEntryStricken stricken e n je, _, db =>
      .ok ((), if db.incidentJournalEntry.contains (e, n, je)
        then { db with journalEntry := db.journalEntry.modify je fun r => { r with stricken } }
        else db)
  | _, .setReportJournalEntryStricken stricken e n je, _, db =>
      .ok ((), if db.reportJournalEntry.contains (e, n, je)
        then { db with journalEntry := db.journalEntry.modify je fun r => { r with stricken } }
        else db)
  | _, .attachPersonToIncident e n p involvement grantedAccess reportRequested, id, db =>
      textColumn involvement fun inv =>
      unique (db.incidentPerson.contains id) <|
      references (db.incident.contains (e, n)) <|
      references (db.person.contains p) <|
      .ok ((), { db with
        incidentPerson :=
          db.incidentPerson.insert id ⟨e, n, p, inv, grantedAccess, reportRequested⟩ })
  | _, .requestReportFromPerson reportRequested e n p, _, db =>
      .ok ((), { db with
        incidentPerson := db.incidentPerson.mapVal fun _ ip =>
          if ip.event = e ∧ ip.incidentNumber = n ∧ ip.personID = p
          then { ip with reportRequested, grantedAccess := true } else ip })
  | _, .detachPersonFromIncident e n p, _, db =>
      .ok ((), { db with
        incidentPerson := db.incidentPerson.filter fun _ ip =>
          !(ip.event = e && ip.incidentNumber = n && ip.personID = p) })
  | _, .linkIncidents e1 n1 e2 n2, _, db =>
      unique (db.incidentLinkedIncident.contains ((e1, n1), e2, n2)) <|
      references (db.incident.contains (e1, n1)) <|
      references (db.incident.contains (e2, n2)) <|
      .ok ((), { db with
        incidentLinkedIncident := db.incidentLinkedIncident.insert ((e1, n1), e2, n2) () })
  | _, .unlinkIncidents e1 n1 e2 n2, _, db =>
      .ok ((), { db with
        incidentLinkedIncident := db.incidentLinkedIncident.erase ((e1, n1), e2, n2) })
  | _, .attachIncidentTypeToIncident e n t, _, db =>
      unique (db.incidentIncidentType.contains (e, n, t)) <|
      references (db.incident.contains (e, n)) <|
      references (db.incidentType.contains t) <|
      .ok ((), { db with incidentIncidentType := db.incidentIncidentType.insert (e, n, t) () })
  | _, .detachIncidentTypeFromIncident e n t, _, db =>
      .ok ((), { db with incidentIncidentType := db.incidentIncidentType.erase (e, n, t) })

/-- The database as a transactional store. -/
def imsDB : Store Read Write SqlErr DB where
  eval := Read.eval
  apply := Write.apply
  txDone := .txDone
  failed := .mysql

end OcfIms
