import Telemetry.Agenda
import Telemetry.Cause
import Telemetry.Client.Basic
import Telemetry.Client.Config
import Telemetry.Delivery.Arrival
import Telemetry.Delivery.Chunks
import Telemetry.Delivery.Collector
import Telemetry.Delivery.Head
import Telemetry.Delivery.Sender
import Telemetry.Disk
import Telemetry.Disk.Access
import Telemetry.Duration
import Telemetry.Form
import Telemetry.Hit
import Telemetry.Hooks.Chain
import Telemetry.Hooks.Run
import Telemetry.Hooks.Session
import Telemetry.Identity
import Telemetry.Installation
import Telemetry.Instant
import Telemetry.Json.Basic
import Telemetry.Json.Decode
import Telemetry.Json.Fields
import Telemetry.Json.Printer
import Telemetry.Json.Reader
import Telemetry.Log
import Telemetry.Number.Reading
import Telemetry.Number.Seconds
import Telemetry.Number.Shortest
import Telemetry.Number.Word
import Telemetry.PanicHook
import Telemetry.Path
import Telemetry.Payload
import Telemetry.Preferences.Basic
import Telemetry.Preferences.Run
import Telemetry.Preferences.Session
import Telemetry.Preferences.Store
import Telemetry.Preferences.Values
import Telemetry.Queue.Basic
import Telemetry.Queue.Engine
import Telemetry.Queue.Loop
import Telemetry.Queue.Outbox
import Telemetry.Queue.Task
import Telemetry.Record
import Telemetry.Registry
import Telemetry.Retry.Policy
import Telemetry.Retry.Run
import Telemetry.Service.Basic
import Telemetry.Service.Lifecycle
import Telemetry.Service.Reports
import Telemetry.Service.Run
import Telemetry.ServiceError
import Telemetry.Settings.Basic
import Telemetry.Settings.Fault
import Telemetry.Settings.Layer
import Telemetry.Settings.Paths
import Telemetry.Settings.Source
import Telemetry.Settings.Supply
import Telemetry.Settings.Variables
import Telemetry.Text.Alphanumeric
import Telemetry.Text.Blank
import Telemetry.Text.CodeRange
import Telemetry.Text.Digits
import Telemetry.Text.Printable
import Telemetry.Text.Quoted
import Telemetry.Text.Utf8
import Telemetry.Toml.Basic
import Telemetry.Toml.Reader
import Telemetry.Toml.Scalar
import Telemetry.Toml.Table
import Telemetry.Toml.Text
import Telemetry.Toml.Writer
import Telemetry.TypeName
import Telemetry.Uncaught
import Telemetry.Url.Canonical
import Telemetry.Url.CombiningClass
import Telemetry.Url.Composites
import Telemetry.Url.Direction
import Telemetry.Url.Domain
import Telemetry.Url.Host
import Telemetry.Url.Joining
import Telemetry.Url.Marks
import Telemetry.Url.Parse
import Telemetry.Url.Punycode
import Telemetry.Url.Replacements
import Telemetry.Url.Replacements.Forms
import Telemetry.Url.Replacements.Letters
import Telemetry.Url.Replacements.Runs
import Telemetry.Url.Replacements.Supplement
import Telemetry.Url.Replacements.Symbols
import Telemetry.Proofs.Text.Utf8
import Telemetry.Proofs.Text.Split
import Telemetry.Proofs.Delivery.Form
import Telemetry.Proofs.Delivery.Payload
import Telemetry.Proofs.Delivery.Posting
import Telemetry.Proofs.Retry.Attempts
import Telemetry.Proofs.Retry.History
import Telemetry.Proofs.Delivery.Rounds
import Telemetry.Proofs.Delivery.Exchange
import Telemetry.Proofs.Queue.Event
import Telemetry.Proofs.Queue.Ledger
import Telemetry.Proofs.Queue.Balance
import Telemetry.Proofs.Queue.Change
import Telemetry.Proofs.Queue.Seal
import Telemetry.Proofs.Queue.Overflow
import Telemetry.Proofs.Queue.Turnover
import Telemetry.Proofs.Queue.FinalFlush
import Telemetry.Proofs.Queue.Wakeup
import Telemetry.Proofs.Service.Operation
import Telemetry.Proofs.Service.Traffic
import Telemetry.Proofs.Service.Start
import Telemetry.Proofs.Service.Conservation
import Telemetry.Proofs.Registry
import Telemetry.Proofs.Preferences.Conduct
import Telemetry.Proofs.Preferences.Guard
import Telemetry.Proofs.Preferences.Reserve
import Telemetry.Proofs.Preferences.Rearrangement
import Telemetry.Proofs.Service.Choice
import Telemetry.Proofs.Service.Mirror
import Telemetry.Proofs.Service.Gate
import Telemetry.Proofs.Service.FailedStart
import Telemetry.Proofs.Service.Enrollment
import Telemetry.Proofs.Settings.Fields
import Telemetry.Proofs.Settings.Precedence
import Telemetry.Proofs.Settings.Acceptance
import Telemetry.Proofs.Service.Moves
import Telemetry.Proofs.Service.Succession
import Telemetry.Proofs.Queue.Retirement
import Telemetry.Proofs.Service.Closing
import Telemetry.Proofs.Preferences.Reading
import Telemetry.Proofs.Service.Renewal
import Telemetry.Proofs.Service.Identity
import Telemetry.Proofs.Preferences.Omission
import Telemetry.Proofs.Text.Ends
import Telemetry.Proofs.Toml.Strings
import Telemetry.Proofs.Toml.Document
import Telemetry.Proofs.Preferences.Filing
import Telemetry.Proofs.Disk.Walk
import Telemetry.Proofs.Disk.Paving
import Telemetry.Proofs.Disk.Replacement
import Telemetry.Proofs.Preferences.Durability
import Telemetry.Proofs.Hooks.Returning
import Telemetry.Proofs.Panic.Bridges
import Telemetry.Proofs.Panic.Process
import Telemetry.Proofs.Service.Bridging
import Telemetry.Proofs.Panic.Services
import Telemetry.Proofs.Agenda
import Telemetry.Proofs.Hooks.Passing
import Telemetry.Proofs.Preferences.Notice
import Telemetry.Proofs.Service.Tenure
import Telemetry.Proofs.Service.Pretence
import Telemetry.Proofs.Service.CrashReport
import Telemetry.Proofs.Queue.Tally
import Telemetry.Proofs.Hooks.Interruption
import Telemetry.Proofs.Queue.Handover
import Telemetry.Proofs.Delivery.Breakdown
import Telemetry.Proofs.Delivery.Survival
import Telemetry.Proofs.Text.Numeral
import Telemetry.Proofs.Settings.Variables
import Telemetry.Proofs.TypeName.Path
import Telemetry.Proofs.TypeName.Term
import Telemetry.Proofs.TypeName.Marks
import Telemetry.Proofs.Cause
import Telemetry.Proofs.Settings.Directories
import Telemetry.Proofs.Settings.Merging
import Telemetry.Proofs.Json.Strings
import Telemetry.Proofs.Json.Tokens
import Telemetry.Proofs.Json.Members
import Telemetry.Proofs.Json.Document
import Telemetry.Proofs.Json.Records
import Telemetry.Proofs.Json.Forms
import Telemetry.Proofs.Delivery.Provenance
import Telemetry.Proofs.Client.Descriptions
import Telemetry.Proofs.TrackingId
