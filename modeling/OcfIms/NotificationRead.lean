import OcfIms.IncidentRead

/-!
# The bell

`ListNotifications`: the caller's newest notifications, each with the summary of the incident or the
report it is about. Only the summary of a private incident is ever withheld.
-/

namespace OcfIms

open TxnLib

structure NotificationJSON where
  id : Int
  type : NotificationType
  event : String
  incidentNumber : Option Int
  incidentSummary : String
  reportNumber : Option Int
  reportSummary : String
  journalEntryID : Option Int
  actor : String
  created : Int
  read : Bool
  deriving DecidableEq, Repr

structure NotificationMsg where
  id : Int
  type : NotificationType
  event : String
  incidentNumber : Option Int
  incidentSummary : Option String
  reportNumber : Option Int
  reportSummary : Option String
  journalEntryId : Option Int
  actor : Option String
  created : Int
  read : Bool
  deriving DecidableEq, Repr

structure ListNotificationsResponse where
  notifications : List NotificationMsg
  unread : Int
  deriving DecidableEq, Repr

/-- The incident's summary, withheld where the incident is private and the caller is neither an
admin nor its creator and has no grant on it. -/
def notificationSummary (row : NotificationRow) (callerPersonID : Int) (callerIsAdmin : Bool) :
    String :=
  if row.incidentPrivate == some true && !callerIsAdmin &&
      !(row.incidentCreatedBy == some callerPersonID) && !row.incidentRecipientHasGrant then ""
  else row.incidentSummary.getD ""

def notificationToJSON (row : NotificationRow) (callerPersonID : Int) (callerIsAdmin : Bool) :
    NotificationJSON where
  id := row.id
  type := row.notification.type
  event := row.eventName.getD ""
  incidentNumber := row.notification.incidentNumber
  incidentSummary := notificationSummary row callerPersonID callerIsAdmin
  reportNumber := row.notification.reportNumber
  reportSummary := row.reportSummary.getD ""
  journalEntryID := row.notification.journalEntry
  actor := if row.actorName.getD "" = "" then row.actorHandle.getD "" else row.actorName.getD ""
  created := floatToTime row.notification.created
  read := row.notification.readAt.isSome

def notificationToProto (n : NotificationJSON) : NotificationMsg where
  id := n.id
  type := n.type
  event := n.event
  incidentNumber := n.incidentNumber
  incidentSummary := strPtrIfNonEmpty n.incidentSummary
  reportNumber := n.reportNumber
  reportSummary := strPtrIfNonEmpty n.reportSummary
  journalEntryId := n.journalEntryID
  actor := strPtrIfNonEmpty n.actor
  created := n.created
  read := n.read

def listNotifications (caller : Option IMSClaims) : Go ConnectError ListNotificationsResponse := do
  let claims ← authenticated caller
  let rows ← select .pool (.notificationsForPerson claims.personID)
    (internalError "failed to fetch notifications")
  let unread ← select .pool (.unreadNotificationCountForPerson claims.personID)
    (internalError "failed to count notifications")
  pure ⟨rows.map fun row =>
    notificationToProto (notificationToJSON row claims.personID claims.admin), unread⟩

end OcfIms
