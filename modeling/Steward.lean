import Steward.Binary64.Basic
import Steward.Binary64.Decimal
import Steward.Cache.Basic
import Steward.Cache.Flight
import Steward.Decimal.Digits
import Steward.Deployment.Operation
import Steward.Deployment.Pipeline
import Steward.Deployment.Progress
import Steward.Deployment.Run
import Steward.Event.Basic
import Steward.Event.Context
import Steward.Event.Sink
import Steward.Fault
import Steward.Grouping
import Steward.Health
import Steward.Keyed
import Steward.Listing
import Steward.Mapping
import Steward.Markup.Cursor
import Steward.Markup.Datum
import Steward.Markup.Kind
import Steward.Markup.Node
import Steward.Markup.Scalar
import Steward.Markup.Tag
import Steward.Markup.Token
import Steward.Measure
import Steward.Moment
import Steward.Naming
import Steward.Number
import Steward.Platform.Call
import Steward.Platform.Inquiry
import Steward.Platform.Payload
import Steward.Program
import Steward.Proofs.Cache.Contents
import Steward.Proofs.Program.Runs
import Steward.Reading.Basic
import Steward.Reading.Moment
import Steward.Reading.Scalar
import Steward.Reading.Schema
import Steward.Rehearsal.Deployment
import Steward.Rehearsal.Loads
import Steward.Rehearsal.Platform
import Steward.Roster.Basic
import Steward.Roster.Lookup
import Steward.Roster.Refresh
import Steward.Roster.Session
import Steward.Settings.Basic
import Steward.Settings.Sources
import Steward.Settings.Variables
import Steward.Text.Blank
import Steward.Text.Case
import Steward.Text.CaseTable
import Steward.Text.Quoted
import Steward.Text.UnprintableTable
import Steward.Value
import Steward.Version
import Steward.Workload.Application
import Steward.Workload.Basic
import Steward.Workload.Provenance
import Steward.Workload.Schema
import Steward.Proofs.Roster.Facts
import Steward.Proofs.Roster.Workshop
import Steward.Proofs.Roster.Keeper
import Steward.Proofs.Roster.Cycle
import Steward.Proofs.Roster.Faithful
import Steward.Proofs.Roster.Reconcile
import Steward.Proofs.Roster.Abort
import Steward.Proofs.Cache.Traffic
import Steward.Proofs.Cache.Order
import Steward.Proofs.Cache.SingleFlight
import Steward.Proofs.Deployment.Operations
import Steward.Proofs.Deployment.Trail
import Steward.Proofs.Deployment.ExactlyOnce
import Steward.Proofs.Deployment.Course
import Steward.Proofs.Deployment.Gates
import Steward.Proofs.Cache.Lifetimes
import Steward.Proofs.Program.Contract
import Steward.Proofs.Workload.Soundness
import Steward.Proofs.Roster.Upkeep
import Steward.Proofs.Roster.Reachable
import Steward.Proofs.Cache.Precedence
import Steward.Proofs.Cache.Calm
import Steward.Proofs.Roster.Schedules
import Steward.Proofs.Roster.Work
import Steward.Proofs.Roster.Freshness
import Steward.Proofs.Program.Requests
import Steward.Proofs.Roster.Calls
import Steward.Proofs.Roster.Repose
import Steward.Proofs.Roster.Repetition
import Steward.Proofs.Program.Endings
import Steward.Proofs.Roster.Rounds
import Steward.Proofs.Roster.Pages
import Steward.Proofs.Roster.Escapes
import Steward.Proofs.Roster.Passage
import Steward.Proofs.Roster.Tending
import Steward.Proofs.Roster.Untouched
import Steward.Proofs.Grouping.Partition
import Steward.Proofs.Roster.Overview
import Steward.Proofs.Grouping.Filing
import Steward.Proofs.Grouping.Views
import Steward.Proofs.Workload.Documents
import Steward.Proofs.Workload.Overlay
import Steward.Proofs.Workload.Outcomes
import Steward.Proofs.Workload.Isolation
import Steward.Proofs.Decimal.Numerals
import Steward.Proofs.Naming.Grammar
import Steward.Proofs.Naming.Rendering
import Steward.Proofs.Deployment.Waiting
import Steward.Proofs.Deployment.Deadline
import Steward.Proofs.Roster.Arrival
import Steward.Proofs.Roster.NameLookup
import Steward.Proofs.Binary64.Rounding
import Steward.Proofs.Measure.Counters
import Steward.Proofs.Deployment.Methods
import Steward.Proofs.Deployment.Accounts
import Steward.Proofs.Deployment.Dealings
import Steward.Proofs.Settings.File
import Steward.Proofs.Moment.Millis
import Steward.Proofs.Moment.Calendar
import Steward.Proofs.Roster.Notice
import Steward.Proofs.Roster.Charges
import Steward.Proofs.Roster.Metering
import Steward.Proofs.Roster.Ledger
import Steward.Proofs.Listing.Walk
import Steward.Proofs.Workload.KeyOrder
import Steward.Proofs.Deployment.Address
