import OcfIms.AttachmentRead

/-!
# Visits

The two REST methods that write visits: `newVisit` reserves a number and inserts a bare row,
`editVisit` names a stored one, and both hand their payload to `updateVisit`. It reads the row,
applies the fields that are present and writes all columns back.
-/

namespace OcfIms

open TxnLib

/-! ## The statements -/

structure VisitRow where
  event : Int
  number : Int
  visit : Visit
  guestHandle : Option String
  guestName : Option String
  deriving DecidableEq, Repr

/-- What `UpdateVisit` writes: every column but `CREATED`. -/
structure UpdateVisitParams where
  event : Int
  number : Int
  incidentNumber : Option Int
  guestPersonID : Option Int
  arrivalTime : Option Int
  departureTime : Option Int
  texts : VisitTexts
  deriving DecidableEq, Repr

inductive VisitQuery : Type → Type
  | visit (event number : Int) : VisitQuery VisitRow
  | nextVisitNumber (event : Int) : VisitQuery Int

inductive VisitWrite : Type → Type
  | createVisit (event number created : Int) : VisitWrite Unit
  | updateVisit (params : UpdateVisitParams) : VisitWrite Unit
  | attachJournalEntryToVisit (event visitNumber journalEntry : Int) : VisitWrite Unit

def VisitQuery.eval : {β : Type} → VisitQuery β → DB → Except SqlErr β
  | _, .visit e n, db => DB.one ((db.visit.find? (e, n)).map fun v =>
      ⟨e, n, v, db.handleOf v.guestPersonID, db.nameOf v.guestPersonID⟩)
  | _, .nextVisitNumber e, db => DB.nextNumber (DB.numbersIn db.visit e)

open DB in
def VisitWrite.apply : {β : Type} → VisitWrite β → Int → DB → Except SqlErr (β × DB)
  | _, .createVisit e n created, _, db =>
      unique (db.visit.contains (e, n)) <|
      references (db.event.contains e) <|
      .ok ((), { db with visit := db.visit.insert (e, n) { incidentNumber := none, created } })
  | _, .updateVisit p, _, db =>
      match db.visit.find? (p.event, p.number) with
      | none => .ok ((), db)
      | some _ =>
        references (nullOr db.incident (p.incidentNumber.map (p.event, ·))) <|
        references (nullOr db.person p.guestPersonID) <|
        .ok ((), { db with
          visit := db.visit.modify (p.event, p.number) fun r =>
            { r with
              incidentNumber := p.incidentNumber
              guestPersonID := p.guestPersonID
              arrivalTime := p.arrivalTime
              departureTime := p.departureTime
              texts := p.texts } })
  | _, .attachJournalEntryToVisit e n je, _, db =>
      unique (db.visitJournalEntry.contains (e, n, je)) <|
      references (db.visit.contains (e, n)) <|
      references (db.journalEntry.contains je) <|
      .ok ((), { db with visitJournalEntry := db.visitJournalEntry.insert (e, n, je) () })

/-- The database as the visit methods use it. -/
def visitDB (sortKey : String → String) :
    Store (fun β => (Read β ⊕ AttachmentQuery β) ⊕ VisitQuery β)
      (fun β => (Write β ⊕ AttachmentWrite β) ⊕ VisitWrite β) SqlErr DB :=
  (attachmentDB sortKey).extend VisitQuery.eval VisitWrite.apply

inductive VisitAsk : Type → Type

inductive VisitEffect

abbrev VisitOp : Type → Type 1 :=
  DbOp (fun β => (Read β ⊕ AttachmentQuery β) ⊕ VisitQuery β)
    (fun β => (Write β ⊕ AttachmentWrite β) ⊕ VisitWrite β)
    (fun β => (Ask β ⊕ AttachmentAsk β) ⊕ VisitAsk β) SqlErr
    ((Effect ⊕ AttachmentEffect) ⊕ VisitEffect)

abbrev VisitGo (ε α : Type) : Type 1 := Call VisitOp ε α

abbrev VisitEnv : Type 1 := Env fun β => (Ask β ⊕ AttachmentAsk β) ⊕ VisitAsk β

abbrev VisitWorld : Type := World DB ((Effect ⊕ AttachmentEffect) ⊕ VisitEffect)

/-- Nothing fails. -/
def stillVisitEnv : VisitEnv where
  answer := fun n _ q => match q with
    | .inl q => stillAttachmentEnv.answer n q
  fault := fun _ => none

/-- A program of the incident service, run by a visit method. -/
def inVisit {ε α : Type} (x : Go ε α) : VisitGo ε α := Call.widen (inDownload x)

section Statements

variable {ε α : Type}

def visitSelect (c : Conn) (q : VisitQuery α) (err : SqlErr → ε) : VisitGo ε α :=
  Call.mapErr err (Call.attempt (.read c (.inr q)))

def visitExec (c : Conn) (q : VisitWrite α) (err : SqlErr → ε) : VisitGo ε α :=
  Call.mapErr err (Call.attempt (.write c (.inr q)))

end Statements

/-! ## The payload -/

/-- The writable fields of `imsjson.Visit`; an absent field leaves the stored one alone. -/
structure VisitJSON where
  eventID : Int := 0
  number : Int := 0
  incident : Option Int := none
  guestPersonID : Option Int := none
  arrivalTime : Option Int := none
  departureTime : Option Int := none
  texts : VisitTexts := {}
  journalEntries : List JournalEntryJSON := []
  deriving DecidableEq, Repr

/-- The row to be written, and the lines of the journal entry. -/
structure VisitEdit where
  update : UpdateVisitParams
  logs : List JournalLine := []
  deriving DecidableEq, Repr

/-- `update := imsdb.UpdateVisitParams{…}`, from the stored row. -/
def VisitEdit.ofStored (row : VisitRow) : VisitEdit where
  update :=
    { event := row.event
      number := row.number
      incidentNumber := row.visit.incidentNumber
      guestPersonID := row.visit.guestPersonID
      arrivalTime := row.visit.arrivalTime
      departureTime := row.visit.departureTime
      texts := row.visit.texts }

def VisitEdit.log (ed : VisitEdit) (text : String) : VisitEdit :=
  { ed with logs := ed.logs ++ [.text text] }

/-! ## The edits -/

section Edits

variable (newVisit : VisitJSON)

/-- A number that is not positive unassigns the visit. -/
def editVisitIncident (ed : VisitEdit) : VisitEdit :=
  match newVisit.incident with
  | none => ed
  | some n =>
    { ed with update := { ed.update with incidentNumber := if n > 0 then some n else none } }.log
      (if n > 0 then "Changed incident number: " ++ toString n
      else "Changed incident number: (unassigned)")

def editGuestPerson (ed : VisitEdit) : VisitEdit :=
  match newVisit.guestPersonID with
  | none => ed
  | some p =>
    { ed with update := { ed.update with guestPersonID := if p > 0 then some p else none } }.log
      (if p > 0 then "Linked guest person: " ++ toString p else "Unlinked guest person")

/-- A text that is present is stored, null where it is empty. -/
def editVisitText (name : String) (get : VisitTexts → Option String)
    (set : Option String → VisitTexts → VisitTexts) (ed : VisitEdit) : VisitEdit :=
  match get newVisit.texts with
  | none => ed
  | some s =>
    { ed with update := { ed.update with texts := set (textToSql (some s)) ed.update.texts } }.log
      ("Changed " ++ name ++ ": " ++ s)

/-- The texts between the guest and the arrival. -/
def editGuestTexts (ed : VisitEdit) : VisitEdit :=
  let ed := editVisitText newVisit "GuestLegalName" (·.guestLegalName)
    (fun s t => { t with guestLegalName := s }) ed
  let ed := editVisitText newVisit "GuestDescription" (·.guestDescription)
    (fun s t => { t with guestDescription := s }) ed
  let ed := editVisitText newVisit "GuestActionPlan" (·.guestActionPlan)
    (fun s t => { t with guestActionPlan := s }) ed
  let ed := editVisitText newVisit "ResourceBedID" (·.resourceBedID)
    (fun s t => { t with resourceBedID := s }) ed
  let ed := editVisitText newVisit "GuestCampName" (·.guestCampName)
    (fun s t => { t with guestCampName := s }) ed
  let ed := editVisitText newVisit "GuestCampAddress" (·.guestCampAddress)
    (fun s t => { t with guestCampAddress := s }) ed
  let ed := editVisitText newVisit "GuestCampDescription" (·.guestCampDescription)
    (fun s t => { t with guestCampDescription := s }) ed
  let ed := editVisitText newVisit "GuestCampContacts" (·.guestCampContacts)
    (fun s t => { t with guestCampContacts := s }) ed
  editVisitText newVisit "ResourceSitter" (·.resourceSitter)
    (fun s t => { t with resourceSitter := s }) ed

def editArrivalTexts (ed : VisitEdit) : VisitEdit :=
  let ed := editVisitText newVisit "ArrivalMethod" (·.arrivalMethod)
    (fun s t => { t with arrivalMethod := s }) ed
  let ed := editVisitText newVisit "ArrivalState" (·.arrivalState)
    (fun s t => { t with arrivalState := s }) ed
  let ed := editVisitText newVisit "ArrivalReason" (·.arrivalReason)
    (fun s t => { t with arrivalReason := s }) ed
  editVisitText newVisit "ArrivalBelongings" (·.arrivalBelongings)
    (fun s t => { t with arrivalBelongings := s }) ed

def editDepartureTexts (ed : VisitEdit) : VisitEdit :=
  let ed := editVisitText newVisit "DepartureMethod" (·.departureMethod)
    (fun s t => { t with departureMethod := s }) ed
  editVisitText newVisit "DepartureState" (·.departureState)
    (fun s t => { t with departureState := s }) ed

def editResourceTexts (ed : VisitEdit) : VisitEdit :=
  let ed := editVisitText newVisit "ResourceRest" (·.resourceRest)
    (fun s t => { t with resourceRest := s }) ed
  let ed := editVisitText newVisit "ResourceClothes" (·.resourceClothes)
    (fun s t => { t with resourceClothes := s }) ed
  let ed := editVisitText newVisit "ResourcePogs" (·.resourcePogs)
    (fun s t => { t with resourcePogs := s }) ed
  let ed := editVisitText newVisit "ResourceFoodBev" (·.resourceFoodBev)
    (fun s t => { t with resourceFoodBev := s }) ed
  editVisitText newVisit "ResourceOther" (·.resourceOther)
    (fun s t => { t with resourceOther := s }) ed

/-- Both times are set, and the departure is before the arrival. -/
def departsEarly (arrivalTime departureTime : Option Int) : Bool :=
  match arrivalTime, departureTime with
  | some arrival, some departure => departure < arrival
  | _, _ => false

def arrivalAfterDeparture : HTTPError :=
  .badRequest "Arrival time cannot be after departure time" none

def departureBeforeArrival : HTTPError :=
  .badRequest "Departure time cannot be before arrival time" none

/-- The new arrival is checked against whatever departure the row holds so far. -/
def editArrivalTime (s : Service) (ed : VisitEdit) : Except HTTPError VisitEdit :=
  match newVisit.arrivalTime with
  | none => .ok ed
  | some t =>
    let update := { ed.update with arrivalTime := timeToNullFloat t }
    if departsEarly update.arrivalTime update.departureTime then .error arrivalAfterDeparture
    else .ok ({ ed with update }.log ("Changed ArrivalTime: " ++ s.formatRFC3339 t))

def editDepartureTime (s : Service) (ed : VisitEdit) : Except HTTPError VisitEdit :=
  match newVisit.departureTime with
  | none => .ok ed
  | some t =>
    let update := { ed.update with departureTime := timeToNullFloat t }
    if departsEarly update.arrivalTime update.departureTime then .error departureBeforeArrival
    else .ok ({ ed with update }.log ("Changed DepartureTime: " ++ s.formatRFC3339 t))

/-- All the edits, in the order of the source. -/
def editsOfVisit (s : Service) (row : VisitRow) : Except HTTPError VisitEdit := do
  let ed ← editArrivalTime newVisit s
    (editGuestTexts newVisit (editGuestPerson newVisit (editVisitIncident newVisit
      (VisitEdit.ofStored row))))
  let ed ← editDepartureTime newVisit s (editArrivalTexts newVisit ed)
  .ok (editResourceTexts newVisit (editDepartureTexts newVisit ed))

end Edits

/-! ## The methods -/

def addVisitJournalEntry (e n author : Int) (text : List JournalLine) (generated : Bool) :
    VisitGo HTTPError Unit := do
  let created ← inVisit now
  let entryID ← inVisit (exec .txn
    (.createJournalEntry { authorPersonID := author, text, created := timeToFloat created, generated })
    (.internalServerError "Failed to create journal entry"))
  visitExec .txn (.attachJournalEntryToVisit e n entryID)
    (.internalServerError "Failed to attach journal entry")

/-- The transaction of an update: the edits, the write of the whole row, and the entries. -/
def updateVisitTxn (s : Service) (newVisit : VisitJSON) (row : VisitRow) (author : Int) :
    VisitGo HTTPError UpdateVisitParams := do
  let ed ← inVisit (liftExcept (editsOfVisit newVisit s row))
  visitExec .txn (.updateVisit ed.update) fun err =>
    if isNoReferencedRow err then .notFound "No such Incident or guest Person" (some err)
    else .internalServerError "Failed to update visit" err
  if ed.logs = [] then pure ()
    else addVisitJournalEntry newVisit.eventID newVisit.number author ed.logs true
  newVisit.journalEntries.forM fun entry =>
    if entry.text = "" then pure ()
    else addVisitJournalEntry newVisit.eventID newVisit.number author [.text entry.text] false
  inVisit (commit (.internalServerError "Failed to commit transaction"))
  pure ed.update

def updateVisit (s : Service) (newVisit : VisitJSON) (author : Int) : VisitGo HTTPError Unit := do
  let row ← visitSelect .pool (.visit newVisit.eventID newVisit.number)
    (.internalServerError "Failed to fetch visit")
  let _ ← inVisit (select .pool .events (.internalServerError "Failed to fetch events"))
  inVisit (begin (.internalServerError "Failed to start transaction"))
  Call.deferRollback do
    let update ← updateVisitTxn s newVisit row author
    inVisit (notifyVisitUpdate row.event row.number)
    inVisit (notifyIncidentUpdates row.event (row.visit.incidentNumber.getD 0)
      (update.incidentNumber.getD 0))

/-- `server.ReadBodyAs`: the body, or why it could not be read. -/
abbrev VisitBody : Type := Except HTTPError VisitJSON

structure NewVisitRequest where
  eventName : String
  body : VisitBody

structure EditVisitRequest where
  eventName : String
  visitNumber : String
  body : VisitBody

def newVisit (s : Service) (claims : IMSClaims) (req : NewVisitRequest) :
    VisitGo HTTPError Int := do
  let (event, perms) ← Call.widen (getEventPermissions req.eventName claims)
  Call.ensure (hasBit perms eventWriteVisits)
    (.forbidden "The requestor does not have EventWriteVisits permission on this Event")
  let body ← inVisit (liftExcept req.body)
  let n ← visitSelect .pool (.nextVisitNumber event.id)
    (.internalServerError "Failed to find next Visit number")
  let created ← inVisit now
  visitExec .pool (.createVisit event.id n (timeToFloat created))
    (.internalServerError "Failed to create visit")
  updateVisit s { body with eventID := event.id, number := n } claims.personID
  pure n

def editVisit (s : Service) (claims : IMSClaims) (req : EditVisitRequest) :
    VisitGo HTTPError Unit := do
  let (event, perms) ← Call.widen (getEventPermissions req.eventName claims)
  Call.ensure (hasBit perms eventWriteVisits)
    (.forbidden "The requestor does not have EventWriteVisits permission for this Event")
  let n ← Call.widen (parsePathValue req.visitNumber "Invalid Visit Number")
  let body ← inVisit (liftExcept req.body)
  updateVisit s { body with eventID := event.id, number := n } claims.personID

end OcfIms
