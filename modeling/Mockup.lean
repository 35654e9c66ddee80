import Mockup.Action.Basic
import Mockup.Action.Overlay
import Mockup.Action.Reader
import Mockup.Action.Writer
import Mockup.Agenda
import Mockup.Alarms
import Mockup.AppDocument.Basic
import Mockup.AppDocument.Reader
import Mockup.AppDocument.Writer
import Mockup.Clockwork
import Mockup.Comparison
import Mockup.Computed.Calendar
import Mockup.Computed.Currency
import Mockup.Computed.DateReader
import Mockup.Computed.Dates
import Mockup.Computed.Defaults
import Mockup.Computed.Registry
import Mockup.Entries
import Mockup.Expression.Basic
import Mockup.Expression.Evaluation
import Mockup.Expression.Template
import Mockup.Failure
import Mockup.Json.Basic
import Mockup.Json.Reader
import Mockup.Json.Record
import Mockup.Json.Shape
import Mockup.Json.Writer
import Mockup.Network
import Mockup.Number.Decimal
import Mockup.Number.Double
import Mockup.Number.Notation
import Mockup.Number.Scaling
import Mockup.Number.Shortest
import Mockup.PageStack
import Mockup.Patch.Apply
import Mockup.Patch.Basic
import Mockup.Patch.Diff
import Mockup.Patch.Pointer
import Mockup.Path.Assign
import Mockup.Path.Basic
import Mockup.Proofs.Action.Codec
import Mockup.Proofs.Action.Nesting
import Mockup.Proofs.Action.Overlay
import Mockup.Proofs.Agenda
import Mockup.Proofs.AppDocument.Arranged
import Mockup.Proofs.AppDocument.Codec
import Mockup.Proofs.AppDocument.Shape
import Mockup.Proofs.Clockwork
import Mockup.Proofs.Comparison
import Mockup.Proofs.Computed.Calendar
import Mockup.Proofs.Computed.Currency
import Mockup.Proofs.Computed.DateReader
import Mockup.Proofs.Computed.DateTokens
import Mockup.Proofs.Computed.Dates
import Mockup.Proofs.Entries
import Mockup.Proofs.Entries.Sorted
import Mockup.Proofs.Expression.Arranged
import Mockup.Proofs.Expression.Mentions
import Mockup.Proofs.Expression.Template
import Mockup.Proofs.Json.Bounds
import Mockup.Proofs.Json.Codec
import Mockup.Proofs.Json.Exact
import Mockup.Proofs.Json.Fields
import Mockup.Proofs.Json.Lockstep
import Mockup.Proofs.Json.Narrowed
import Mockup.Proofs.Json.Numeral
import Mockup.Proofs.Json.Prefix
import Mockup.Proofs.Json.Reader
import Mockup.Proofs.Json.Repair
import Mockup.Proofs.Json.Rewritten
import Mockup.Proofs.Json.Shape
import Mockup.Proofs.Number.Fixed
import Mockup.Proofs.Number.Integers
import Mockup.Proofs.Number.Rounding
import Mockup.Proofs.Number.Scaling
import Mockup.Proofs.PageStack.BoundedList
import Mockup.Proofs.PageStack.Operations
import Mockup.Proofs.PageStack.Replay
import Mockup.Proofs.Patch.Equal
import Mockup.Proofs.Patch.Locality
import Mockup.Proofs.Patch.Pointer
import Mockup.Proofs.Patch.Refused
import Mockup.Proofs.Patch.RoundTrip
import Mockup.Proofs.Patch.Spelling
import Mockup.Proofs.Patch.Undo
import Mockup.Proofs.Path.Assign
import Mockup.Proofs.Path.Commute
import Mockup.Proofs.Path.Segments
import Mockup.Proofs.Session.Additions
import Mockup.Proofs.Session.AutoHide
import Mockup.Proofs.Session.Cascade.Bound
import Mockup.Proofs.Session.Cascade.Trail
import Mockup.Proofs.Session.Effects
import Mockup.Proofs.Session.Footprint
import Mockup.Proofs.Session.Involved
import Mockup.Proofs.Session.Life
import Mockup.Proofs.Session.Load
import Mockup.Proofs.Session.PassedOver
import Mockup.Proofs.Session.Rebuild
import Mockup.Proofs.Session.Receptions
import Mockup.Proofs.Session.Records
import Mockup.Proofs.Session.Recovered
import Mockup.Proofs.Session.Requests
import Mockup.Proofs.Session.Runs
import Mockup.Proofs.Session.Shutdown
import Mockup.Proofs.Session.Skipped
import Mockup.Proofs.Session.Stages
import Mockup.Proofs.Session.Standing
import Mockup.Proofs.Session.ToastTimer
import Mockup.Proofs.Session.Work
import Mockup.Proofs.Session.Writes
import Mockup.Proofs.Store
import Mockup.Proofs.Store.ReadBack
import Mockup.Proofs.Store.Refused
import Mockup.Proofs.Stream.Chunks
import Mockup.Proofs.Stream.Finality
import Mockup.Proofs.Stream.History
import Mockup.Proofs.Text.Ordinal
import Mockup.Proofs.Text.Pieces
import Mockup.Proofs.Text.Together
import Mockup.Proofs.TimerTable
import Mockup.Proofs.TimerTable.Dues
import Mockup.Proofs.TimerTable.Keyed
import Mockup.Proofs.Value.Agreement
import Mockup.Proofs.Value.Arranged
import Mockup.Proofs.Value.KeyOrder
import Mockup.Proofs.Value.Parts
import Mockup.Proofs.Value.Same
import Mockup.Proofs.Value.StrictEquality
import Mockup.Proofs.Watch.Agreement
import Mockup.Proofs.Watch.Alone
import Mockup.Proofs.Watch.Answers
import Mockup.Proofs.Watch.Debounce
import Mockup.Proofs.Watch.Isolation
import Mockup.Proofs.Watch.Lane
import Mockup.Proofs.Watch.Matching
import Mockup.Proofs.Watch.Once
import Mockup.Proofs.Watch.Operations
import Mockup.Proofs.Watch.Registered
import Mockup.Proofs.Watch.Running
import Mockup.Proofs.Watch.Throttle
import Mockup.Session.Basic
import Mockup.Session.Control
import Mockup.Session.Effects
import Mockup.Session.Perform
import Mockup.Session.Presenter
import Mockup.Session.Run
import Mockup.Settings.Basic
import Mockup.Settings.Reader
import Mockup.Store
import Mockup.Stream
import Mockup.Term.Dialect
import Mockup.Term.Layout
import Mockup.Term.Numeral
import Mockup.Term.Quoted
import Mockup.Term.Skip
import Mockup.Term.Word
import Mockup.Text.Blank
import Mockup.Text.Ordinal
import Mockup.Text.Pieces
import Mockup.Text.Upper
import Mockup.Text.Word
import Mockup.TimerTable
import Mockup.Value.Basic
import Mockup.Value.Display
import Mockup.Value.Equality
import Mockup.Value.Number
import Mockup.Visibility
import Mockup.Watch.Basic
import Mockup.Watch.Condition
import Mockup.Watch.Config
import Mockup.Watch.Desk
import Mockup.Watch.Notify
import Mockup.Watch.Timed
