import OcfIms.IncidentJson

/-!
# Writing journal entries

The helpers that append to a timeline: an entry and its attachment to an incident or a report, the
people it mentions, and the notifications that follow. Each takes the connection to write on, since
the link of a report is reconciled on the pool while everything else rides a transaction. None of
the modelled methods attaches a file, so the entry's file columns are null.
-/

namespace OcfIms

open TxnLib

def addIncidentJournalEntry (c : Conn) (e n author : Int) (text : List JournalLine)
    (generated : Bool) : Go HTTPError Int := do
  let created ← now
  let entryID ← exec c (.createJournalEntry { authorPersonID := author, text, created := timeToFloat created, generated })
    (.internalServerError "Failed to create journal entry")
  exec c (.attachJournalEntryToIncident e n entryID)
    (.internalServerError "Failed to attach journal entry")
  pure entryID

/-- The report's counterpart: an entry here may be written on behalf of a person. -/
def addJournalEntry (c : Conn) (e n author : Int) (text : List JournalLine) (generated : Bool)
    (onBehalfOf : Option Int) : Go HTTPError Int := do
  let created ← now
  let entryID ← exec c (.createJournalEntry
      { authorPersonID := author, text, created := timeToFloat created, generated
        onBehalfOfPersonID := onBehalfOf })
    fun err =>
      if isNoReferencedRow err then .badRequest "No such person for 'on behalf of'" (some err)
      else .internalServerError "Failed to create journal entry" err
  exec c (.attachJournalEntryToReport e n entryID)
    (.internalServerError "Failed to attach journal entry")
  pure entryID

/-! ## Mentions -/

/-- The punctuation trimmed off the end of a typed handle. -/
def mentionCutset : List Char :=
  ['.', ',', ';', ':', '!', '?', ')', ']', '\x7d', '\x27', '\x22', '\x60']

/-- The id of the last person of the directory with this handle, in lower case. -/
def idByHandle (s : Service) (users : List User) (token : String) : Option Int :=
  ((users.filter fun u => u.handle ≠ "" ∧ s.toLower u.handle = token).getLast?).map (·.id)

def resolveTypedMentionIDs (s : Service) (text : String) : Go SqlErr (List Int) :=
  if mentionTokens text = [] then pure []
  else do
    let users ← getAllUsers id
    pure ((mentionTokens text).filterMap fun token =>
      idByHandle s users (s.toLower (String.ofList (trimRight token mentionCutset))))

def addJournalEntryMentions (s : Service) (c : Conn) (entryID : Int) (text : String)
    (explicitPersonIDs : List Int) : Go HTTPError Unit := do
  let typed ← Call.mapErr (.internalServerError "Failed to resolve typed mentions")
    (resolveTypedMentionIDs s text)
  (explicitPersonIDs ++ typed).forM fun personID =>
    if personID ≤ 0 then pure ()
    else exec c (.createJournalEntryMention entryID personID)
      (.internalServerError "Failed to record journal entry mention")

/-! ## Notifications -/

/-- Nobody is told about their own action, and a notification for nobody is skipped. -/
def createNotification (c : Conn) (recipient : Int) (type : NotificationType) (e : Int)
    (incidentNumber reportNumber journalEntry : Option Int) (actor : Int) : Go HTTPError Unit :=
  if recipient ≤ 0 ∨ recipient = actor then pure ()
  else do
    let created ← now
    exec c (.createNotification
        { recipientPersonID := recipient, type, event := e, incidentNumber, reportNumber,
          journalEntry, actorPersonID := some actor, created := timeToFloat created })
      (.internalServerError "Failed to create notification")

def generateMentionNotificationsFor (c : Conn) (e : Int) (incidentNumber reportNumber : Option Int)
    (entryID actor : Int) : Go HTTPError (List Int) := do
  let personIDs ← select c (.journalEntryMentionPersonIDs entryID)
    (.internalServerError "Failed to read journal entry mentions")
  personIDs.forM fun personID =>
    createNotification c personID .mentioned e incidentNumber reportNumber (some entryID) actor
  pure personIDs

def generateMentionNotifications (c : Conn) (e n entryID actor : Int) : Go HTTPError (List Int) :=
  generateMentionNotificationsFor c e (some n) none entryID actor

def generateReportMentionNotifications (c : Conn) (e n entryID actor : Int) :
    Go HTTPError (List Int) :=
  generateMentionNotificationsFor c e none (some n) entryID actor

def generateAddedToIncidentNotification (c : Conn) (e n recipient actor : Int) :
    Go HTTPError Unit :=
  createNotification c recipient .addedToIncident e (some n) none none actor

def generateReportRequestedNotification (c : Conn) (e n recipient actor : Int) :
    Go HTTPError Unit :=
  createNotification c recipient .reportRequested e (some n) none none actor

end OcfIms
