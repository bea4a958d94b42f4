import OcfIms.IncidentVisibility
import OcfIms.Watch
import OcfIms.Contracts
import OcfIms.ReportVisibility
import OcfIms.ReportLink
import OcfIms.LinkRuns
import OcfIms.WriteAtomicity
import OcfIms.WatchDelivery
import OcfIms.CacheFreshness
import OcfIms.LibSched
import OcfIms.IncidentRuns
import OcfIms.IncidentClosing
import OcfIms.JournalOnly
import OcfIms.AdminRuns
import OcfIms.LoginThrottle
import OcfIms.LoginSecrecy
import OcfIms.LoginBudget
import OcfIms.SignOutRuns
import OcfIms.SessionEnds
import OcfIms.LoginIdentity
import OcfIms.AreaHierarchy
import OcfIms.LoginLimiterRuns
import OcfIms.LostUpdate
import OcfIms.WatchStream
import OcfIms.PatchedRow
import OcfIms.Pokes
import OcfIms.Privileges
import OcfIms.EventGroups
import OcfIms.TokenRoles
import OcfIms.PersistedCache
import OcfIms.BellVisibility
import OcfIms.HandleReuse
import OcfIms.ContactSecrecy
import OcfIms.PrivateSecrecy
import OcfIms.ListedReport
import OcfIms.AttachmentAccess
import OcfIms.AdminAtomicity
import OcfIms.TxRetry
import OcfIms.LiveHub
import OcfIms.PushLinks
import OcfIms.UpdateRepeated
import OcfIms.NumberAllotment
import OcfIms.AuthStatus
import OcfIms.DefaultPassword
import OcfIms.PersonEdits
import OcfIms.UniqueSlugs
import OcfIms.AttachmentUpload
import OcfIms.UploadAccess
import OcfIms.EventAccess
import OcfIms.VisitWrite
import OcfIms.VisitTimes
import OcfIms.LibLinear
import OcfIms.PushDevice
import OcfIms.PushLinear
import OcfIms.LibTxnStep
import OcfIms.AreaMerge
import OcfIms.AreaMergeOrder
import OcfIms.LibOptimistic
import OcfIms.EditIncident
import OcfIms.RosterWristband
import OcfIms.ReferenceStore
import OcfIms.ReferenceData
import OcfIms.UsableNames
import OcfIms.StoredText
import OcfIms.LibPointer
import OcfIms.LibPart
import OcfIms.ProfilePictures
import OcfIms.JSText
import OcfIms.LibCalendar
import OcfIms.StartedField
import OcfIms.Mentions
import OcfIms.TableParams
import OcfIms.TableViews
import OcfIms.LibComparison
import OcfIms.TableRows
import OcfIms.ExpoReceipts
import OcfIms.LibRecord
import OcfIms.SeenMarks
import OcfIms.LibCell
import OcfIms.Drafts
import OcfIms.MetricsSums
import OcfIms.LiveList
import OcfIms.LibBase64
import OcfIms.LibScan
import OcfIms.Argon2id
import OcfIms.LibTells
import OcfIms.Broadcasts
import OcfIms.Fanout
import OcfIms.Bells
import OcfIms.LibHistory
import OcfIms.LibQueue
import OcfIms.AuditTrail
import OcfIms.EditReport
import OcfIms.Landing
import OcfIms.RosterCeiling
import OcfIms.LibNumeral
import OcfIms.TokenFormat
import OcfIms.UploadOnce
