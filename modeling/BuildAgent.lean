import BuildAgent.Agent.Capacity
import BuildAgent.Agent.Definition
import BuildAgent.Document.Datum
import BuildAgent.Document.Json.Printer
import BuildAgent.Document.Json.Reader
import BuildAgent.Document.Toml.Reader
import BuildAgent.Document.Toml.Scalar
import BuildAgent.Document.Toml.Table
import BuildAgent.Document.Toml.Text
import BuildAgent.Identifier
import BuildAgent.Journal.Event
import BuildAgent.Link.Endpoint
import BuildAgent.Link.Fault
import BuildAgent.Link.OfflineCause
import BuildAgent.Main
import BuildAgent.Node.Cache
import BuildAgent.Node.Connection
import BuildAgent.Node.Execution
import BuildAgent.Node.Executor
import BuildAgent.Node.Happening
import BuildAgent.Node.Rebooting
import BuildAgent.Node.Refusal
import BuildAgent.Node.Shutdown
import BuildAgent.Node.Stage
import BuildAgent.Node.Tagging
import BuildAgent.Node.Task
import BuildAgent.Node.World
import BuildAgent.Proofs.Agent.Binding
import BuildAgent.Proofs.Agent.IdleLimit
import BuildAgent.Proofs.Agent.RoundTrip
import BuildAgent.Proofs.Cache.Answers
import BuildAgent.Proofs.Cache.FetchDiscipline
import BuildAgent.Proofs.Cache.Fetches
import BuildAgent.Proofs.Cache.Freshness
import BuildAgent.Proofs.Cache.LastAnswer
import BuildAgent.Proofs.Document.Json
import BuildAgent.Proofs.Document.Parts
import BuildAgent.Proofs.Execution.Acting
import BuildAgent.Proofs.Execution.Alone
import BuildAgent.Proofs.Execution.Beside
import BuildAgent.Proofs.Execution.Deadlock
import BuildAgent.Proofs.Execution.Disconnections
import BuildAgent.Proofs.Execution.Guise
import BuildAgent.Proofs.Execution.History
import BuildAgent.Proofs.Execution.LeftAlone
import BuildAgent.Proofs.Execution.Outside
import BuildAgent.Proofs.Execution.Shutdowns
import BuildAgent.Proofs.Execution.Step
import BuildAgent.Proofs.Identifier.Faults
import BuildAgent.Proofs.Identifier.Grammar
import BuildAgent.Proofs.Monitor.Attempts
import BuildAgent.Proofs.Monitor.Bookings
import BuildAgent.Proofs.Monitor.Commands
import BuildAgent.Proofs.Monitor.Detached
import BuildAgent.Proofs.Monitor.Effect
import BuildAgent.Proofs.Monitor.Endings
import BuildAgent.Proofs.Monitor.Finality
import BuildAgent.Proofs.Monitor.InstanceGone
import BuildAgent.Proofs.Monitor.LaunchBudget
import BuildAgent.Proofs.Monitor.Looks
import BuildAgent.Proofs.Monitor.Newest
import BuildAgent.Proofs.Monitor.OfflineCause
import BuildAgent.Proofs.Monitor.OfflineMark
import BuildAgent.Proofs.Monitor.Openings
import BuildAgent.Proofs.Monitor.Outcomes
import BuildAgent.Proofs.Monitor.Pacing
import BuildAgent.Proofs.Monitor.Progress
import BuildAgent.Proofs.Monitor.RebootOutcome
import BuildAgent.Proofs.Monitor.Recovery
import BuildAgent.Proofs.Monitor.Refinement
import BuildAgent.Proofs.Monitor.Retirement
import BuildAgent.Proofs.Monitor.StaleLooks
import BuildAgent.Proofs.Monitor.Stopped
import BuildAgent.Proofs.Monitor.Ticks
import BuildAgent.Proofs.Monitor.Timeline
import BuildAgent.Proofs.Monitor.Undisturbed
import BuildAgent.Proofs.Monitor.Verdicts
import BuildAgent.Proofs.Provider.Reference
import BuildAgent.Proofs.Provider.Snapshot
import BuildAgent.Proofs.Provider.TagAlgebra
import BuildAgent.Proofs.Provider.Tags
import BuildAgent.Proofs.Reboot.Attempts
import BuildAgent.Proofs.Reboot.Machine
import BuildAgent.Proofs.Reboot.Policy
import BuildAgent.Proofs.Schedule.Agenda
import BuildAgent.Proofs.Schedule.Backlog
import BuildAgent.Proofs.Settings.Loading
import BuildAgent.Proofs.Tagging.AllOrNothing
import BuildAgent.Proofs.Tagging.CurrentTags
import BuildAgent.Proofs.Tagging.InTurn
import BuildAgent.Proofs.Tagging.NetEffect
import BuildAgent.Proofs.Tagging.PushAndClear
import BuildAgent.Proofs.Tagging.Reconfiguration
import BuildAgent.Proofs.Tagging.Redefinition
import BuildAgent.Proofs.Tagging.Serialization
import BuildAgent.Proofs.Tagging.Synchronization
import BuildAgent.Proofs.Task.Calls
import BuildAgent.Proofs.Task.Causes
import BuildAgent.Proofs.Task.Deeds
import BuildAgent.Proofs.Task.Guise
import BuildAgent.Proofs.Task.Launches
import BuildAgent.Proofs.Task.Leads
import BuildAgent.Proofs.Task.Locks
import BuildAgent.Proofs.Task.Outlook
import BuildAgent.Proofs.Task.Past
import BuildAgent.Proofs.Task.Requests
import BuildAgent.Proofs.Task.Uninterrupted
import BuildAgent.Proofs.Text.Decimal
import BuildAgent.Proofs.Text.Runs
import BuildAgent.Proofs.Time.Reading
import BuildAgent.Proofs.Watchdog.Activity
import BuildAgent.Proofs.Watchdog.IdlePeriods
import BuildAgent.Proofs.Watchdog.Phases
import BuildAgent.Proofs.Watchdog.Turns
import BuildAgent.Proofs.World.Course
import BuildAgent.Proofs.World.Deed
import BuildAgent.Proofs.World.Frames
import BuildAgent.Proofs.World.Guise
import BuildAgent.Proofs.World.Ledger
import BuildAgent.Proofs.World.Outline
import BuildAgent.Proofs.World.Past
import BuildAgent.Proofs.World.Sessions
import BuildAgent.Proofs.World.Transfers
import BuildAgent.Provider.Failure
import BuildAgent.Provider.Instance
import BuildAgent.Provider.Simulation
import BuildAgent.Provider.Tag
import BuildAgent.Reboot.Policy
import BuildAgent.Reboot.Session
import BuildAgent.Schedule.Agenda
import BuildAgent.Schedule.Backlog
import BuildAgent.Schedule.Timetable
import BuildAgent.Settings
import BuildAgent.Text.Blank
import BuildAgent.Text.Decimal
import BuildAgent.Text.Hidden
import BuildAgent.Text.Quoted
import BuildAgent.Time.Date
import BuildAgent.Time.Reader
import BuildAgent.Time.Timestamp
