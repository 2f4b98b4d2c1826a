import BareMetal.Api.Reply
import BareMetal.Api.Request
import BareMetal.Api.Watch
import BareMetal.Api.Wire
import BareMetal.Binary64
import BareMetal.Binary64.Shortest
import BareMetal.CommandLine.Argument
import BareMetal.CommandLine.Help
import BareMetal.CommandLine.Invocation
import BareMetal.CommandLine.Mistake
import BareMetal.CommandLine.Similarity
import BareMetal.Decode
import BareMetal.Event
import BareMetal.Faults
import BareMetal.Feed
import BareMetal.Inventory
import BareMetal.Json
import BareMetal.Json.Document
import BareMetal.Json.Reader
import BareMetal.Logging.Filter
import BareMetal.Logging.Rule
import BareMetal.Logging.Startup
import BareMetal.Machine
import BareMetal.MachineClass
import BareMetal.Main
import BareMetal.Manifest.Definition
import BareMetal.Manifest.Schema
import BareMetal.Manifest.Yaml
import BareMetal.Metrics
import BareMetal.ObjectMeta
import BareMetal.Operator
import BareMetal.Operator.Server
import BareMetal.Reconcile
import BareMetal.Resource
import BareMetal.Session
import BareMetal.Settings
import BareMetal.Settings.Flag
import BareMetal.SocketAddress
import BareMetal.SortedMap
import BareMetal.Span
import BareMetal.Store
import BareMetal.StoreError
import BareMetal.Text.Alphanumeric
import BareMetal.Text.Blank
import BareMetal.Text.Hidden
import BareMetal.Text.Pattern
import BareMetal.Text.Quoted
import BareMetal.Text.Terminal
import BareMetal.Timestamp
import BareMetal.Proofs.Lookup
import BareMetal.Proofs.Decode
import BareMetal.Proofs.Json.Merge
import BareMetal.Proofs.Store.Call
import BareMetal.Proofs.Store.Version
import BareMetal.Proofs.Reconcile.Step
import BareMetal.Proofs.System
import BareMetal.Proofs.Race
import BareMetal.Proofs.Reference
import BareMetal.Proofs.Reconcile.Outcome
import BareMetal.Proofs.Notice
import BareMetal.Proofs.Reconcile.Course
import BareMetal.Proofs.Convergence
import BareMetal.Proofs.Store.History
import BareMetal.Proofs.Agreement
import BareMetal.Proofs.Api.Target
import BareMetal.Proofs.Api.Course
import BareMetal.Proofs.Api.Outcome
import BareMetal.Proofs.Api.Absence
import BareMetal.Proofs.Api.Patch
import BareMetal.Proofs.Reconcile.Count
import BareMetal.Proofs.Reconcile.Deadline
import BareMetal.Proofs.Service
import BareMetal.Proofs.Ledger
import BareMetal.Proofs.Channel
import BareMetal.Proofs.Changes
import BareMetal.Proofs.Session
import BareMetal.Proofs.Containment
import BareMetal.Proofs.Decode.Record
import BareMetal.Proofs.Json.Order
import BareMetal.Proofs.Decode.Order
import BareMetal.Proofs.Manifest.Schema
import BareMetal.Proofs.Manifest.Conformity
import BareMetal.Proofs.Json.Printed
import BareMetal.Proofs.RoundTrip
import BareMetal.Proofs.Controller
import BareMetal.Proofs.Staleness
import BareMetal.Proofs.Stages
import BareMetal.Proofs.Commit
import BareMetal.Proofs.Reconcile.Exits
import BareMetal.Proofs.Reconcile.Story
import BareMetal.Proofs.Reconcile.Log
import BareMetal.Proofs.FanOut
import BareMetal.Proofs.View
import BareMetal.Proofs.Triggers
import BareMetal.Proofs.Series
