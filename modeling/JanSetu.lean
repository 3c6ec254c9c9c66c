import JanSetu.Library.Allocation
import JanSetu.Library.Column
import JanSetu.Library.Transition
import JanSetu.Library.Process
import JanSetu.Library.Component
import JanSetu.Library.Failover
import JanSetu.Library.History
import JanSetu.Library.Lease
import JanSetu.Library.Mentions
import JanSetu.Library.Nearest
import JanSetu.Library.Noninterference
import JanSetu.Library.Numerals
import JanSetu.Library.Query
import JanSetu.Library.SingleFlight
import JanSetu.Library.Spacing
import JanSetu.Library.Table
import JanSetu.Library.Tickets
import JanSetu.Library.WriteOnce
import JanSetu.Python.Unicode
import JanSetu.Python.Text
import JanSetu.Python.Json
import JanSetu.Python.Httpx
import JanSetu.Python.Integers
import JanSetu.Python.Lines
import JanSetu.Python.Pathlib
import JanSetu.Db.Session
import JanSetu.Db.Models
import JanSetu.Auth.Codes
import JanSetu.Auth.Store
import JanSetu.Auth.Challenge
import JanSetu.Auth.Program
import JanSetu.Auth.Writes
import JanSetu.Auth.Approval
import JanSetu.Auth.Openings
import JanSetu.Auth.HourlyCap
import JanSetu.Auth.Refresh
import JanSetu.Auth.Verification
import JanSetu.Auth.SingleUse
import JanSetu.Auth.TokenVariants
import JanSetu.Officials.Login
import JanSetu.Pipeline.Taxonomy
import JanSetu.Pipeline.Routing
import JanSetu.Pipeline.Core
import JanSetu.Pipeline.Store
import JanSetu.Officials.Access
import JanSetu.Pipeline.Artifacts
import JanSetu.Officials.Console
import JanSetu.Pipeline.Classify
import JanSetu.Pipeline.Evidence
import JanSetu.Pipeline.Lifecycle
import JanSetu.Pipeline.Steps
import JanSetu.Pipeline.Invariant
import JanSetu.Pipeline.Regression
import JanSetu.Pipeline.Checks
import JanSetu.Pipeline.Serial
import JanSetu.Pipeline.Dispatchers
import JanSetu.Officials.AuditTrail
import JanSetu.Officials.CodeSafety
import JanSetu.Officials.Enumeration
import JanSetu.Officials.GuessBudget
import JanSetu.Pipeline.Answers
import JanSetu.Pipeline.Policy
import JanSetu.Pipeline.Decision
import JanSetu.Pipeline.Audit
import JanSetu.Pipeline.Jobs
import JanSetu.Pipeline.Corrections
import JanSetu.Pipeline.Receipts
import JanSetu.Pipeline.CurrentReceipts
import JanSetu.Pipeline.Dedup
import JanSetu.Pipeline.Hearing
import JanSetu.Pipeline.Degrade
import JanSetu.Pipeline.FailClosed
import JanSetu.Pipeline.Departments
import JanSetu.Pipeline.Edits
import JanSetu.Pipeline.Failover
import JanSetu.Pipeline.Finalization
import JanSetu.Pipeline.FinishedJobs
import JanSetu.Pipeline.Throttle
import JanSetu.Pipeline.Geocoding
import JanSetu.Pipeline.GeocodeCalls
import JanSetu.Pipeline.IssuedReceipts
import JanSetu.Pipeline.JobAttempts
import JanSetu.Pipeline.OpenWindows
import JanSetu.Pipeline.Recovery
import JanSetu.Pipeline.Orphans
import JanSetu.Pipeline.Refinement
import JanSetu.Pipeline.ReportCounts
import JanSetu.Pipeline.Reporters
import JanSetu.Pipeline.RouteAgreement
import JanSetu.Pipeline.Seeding
import JanSetu.Pipeline.StuckJobs
import JanSetu.Pipeline.Submission
import JanSetu.Pipeline.Tamed
import JanSetu.Pipeline.TicketNumbers
import JanSetu.Pipeline.Transcripts
import JanSetu.Whatsapp.Client
import JanSetu.Whatsapp.Copy
import JanSetu.Whatsapp.Conversation
import JanSetu.Whatsapp.Turns
import JanSetu.Whatsapp.ActionProtocol
import JanSetu.Whatsapp.Store
import JanSetu.Whatsapp.Processing
import JanSetu.Whatsapp.Moves
import JanSetu.Whatsapp.Dispatch
import JanSetu.Whatsapp.SentRows
import JanSetu.Whatsapp.BoundedSending
import JanSetu.Whatsapp.DraftFidelity
import JanSetu.Whatsapp.StaleTaps
import JanSetu.Whatsapp.Sessions
import JanSetu.Whatsapp.Buttons
import JanSetu.Whatsapp.Drafts
import JanSetu.Whatsapp.Consumption
import JanSetu.Whatsapp.Descriptions
import JanSetu.Whatsapp.FellowReporters
import JanSetu.Whatsapp.Followups
import JanSetu.Whatsapp.Limits
import JanSetu.Whatsapp.LoginIds
import JanSetu.Whatsapp.LostTurns
import JanSetu.Whatsapp.Stranded
import JanSetu.Whatsapp.Outcomes
import JanSetu.Whatsapp.Parser
import JanSetu.Whatsapp.Rechecks
import JanSetu.Whatsapp.Windows
import JanSetu.Whatsapp.ServiceWindow
import JanSetu.Whatsapp.TicketNumbers
import JanSetu.Whatsapp.Untyped
import JanSetu.Whatsapp.Verdicts
import JanSetu.Whatsapp.WaysOut
import JanSetu.Whatsapp.Webhook
import JanSetu.Frontend.Client
import JanSetu.Frontend.Recorder
import JanSetu.Frontend.Microphone
import JanSetu.Frontend.Recordings
import JanSetu.Frontend.Clips
import JanSetu.Frontend.Refreshes
import JanSetu.Web.Drafting
import JanSetu.Web.Saving
import JanSetu.Web.Atomicity
import JanSetu.Frontend.Complaint
import JanSetu.Web.Downloads
import JanSetu.Web.Privacy
import JanSetu.Web.Playback
