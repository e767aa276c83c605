import ReleaseControl.Codec.Basic
import ReleaseControl.Codec.Once
import ReleaseControl.Codec.Record
import ReleaseControl.CommandLine.Arguments
import ReleaseControl.CommandLine.Report
import ReleaseControl.Condition.Basic
import ReleaseControl.Condition.Ready
import ReleaseControl.Digest
import ReleaseControl.Engine.Program
import ReleaseControl.Event.Basic
import ReleaseControl.Event.Publish
import ReleaseControl.History.Basic
import ReleaseControl.History.Observed
import ReleaseControl.History.Snapshot
import ReleaseControl.Http.Reply
import ReleaseControl.Http.Request
import ReleaseControl.Install.Reconcile
import ReleaseControl.Install.Run
import ReleaseControl.Instant.Basic
import ReleaseControl.Instant.Text
import ReleaseControl.Json.Basic
import ReleaseControl.Json.Reader
import ReleaseControl.Json.Text
import ReleaseControl.LogBuffer
import ReleaseControl.Main
import ReleaseControl.Metrics.Actions
import ReleaseControl.Metrics.Counter
import ReleaseControl.Number.Count
import ReleaseControl.Number.Decimal
import ReleaseControl.Number.Double
import ReleaseControl.Number.Whole
import ReleaseControl.Object.Basic
import ReleaseControl.Object.Change
import ReleaseControl.Object.Codec
import ReleaseControl.Object.Definition
import ReleaseControl.Object.Overview
import ReleaseControl.Object.Remote
import ReleaseControl.Release.Basic
import ReleaseControl.Settings
import ReleaseControl.Sha256
import ReleaseControl.Storage.Basic
import ReleaseControl.Storage.Records
import ReleaseControl.Storage.Witness
import ReleaseControl.Table
import ReleaseControl.Text.Blank
import ReleaseControl.Text.Cut
import ReleaseControl.Text.Visible
import ReleaseControl.Yaml.Glyph
import ReleaseControl.Yaml.Node
import ReleaseControl.Yaml.Plain
import ReleaseControl.Yaml.Scalar
import ReleaseControl.Yaml.Tag
import ReleaseControl.Yaml.Text
import ReleaseControl.Yaml.Token
import ReleaseControl.Yaml.Typed
import ReleaseControl.Proofs.Engine.Journal
import ReleaseControl.Proofs.History.LastWritten
import ReleaseControl.Proofs.Condition.Freshness
import ReleaseControl.Proofs.Install.Exit
import ReleaseControl.Proofs.Install.Outcome
import ReleaseControl.Proofs.Install.History
import ReleaseControl.Proofs.Install.Storage
import ReleaseControl.Proofs.Install.Readiness
import ReleaseControl.Proofs.Condition.Early
import ReleaseControl.Proofs.Install.Verdict
import ReleaseControl.Proofs.Install.FailedReadiness
import ReleaseControl.Proofs.Storage.Steady
import ReleaseControl.Proofs.Storage.Transparency
import ReleaseControl.Proofs.Object.Early
import ReleaseControl.Proofs.Object.Arrival
import ReleaseControl.Proofs.Install.Success
import ReleaseControl.Proofs.Install.Interruption
import ReleaseControl.Proofs.Install.Retry
import ReleaseControl.Proofs.Install.Accounting
import ReleaseControl.Proofs.Metrics.Count
import ReleaseControl.Proofs.Number.Digits
import ReleaseControl.Proofs.Number.Nearest
import ReleaseControl.Proofs.Number.Literal
import ReleaseControl.Proofs.Table.Sorting
import ReleaseControl.Proofs.Json.Keys
import ReleaseControl.Proofs.Json.Reading
import ReleaseControl.Proofs.Json.Canonical
import ReleaseControl.Proofs.Instant.RoundTrip
import ReleaseControl.Proofs.Codec.Survival
import ReleaseControl.Proofs.Codec.Record
import ReleaseControl.Proofs.Codec.Once
import ReleaseControl.Proofs.Codec.Decoded
import ReleaseControl.Proofs.Release.Record
import ReleaseControl.Proofs.Object.RoundTrip
import ReleaseControl.Proofs.Condition.Unique
import ReleaseControl.Proofs.History.Unique
import ReleaseControl.Proofs.Install.Run
import ReleaseControl.Proofs.Install.Persistence
import ReleaseControl.Proofs.Install.Uniqueness
import ReleaseControl.Proofs.History.Merging
import ReleaseControl.Proofs.History.Replacing
import ReleaseControl.Proofs.History.Batches
import ReleaseControl.Proofs.Text.ByteOrder
import ReleaseControl.Proofs.Storage.Map
import ReleaseControl.Proofs.Event.Note
import ReleaseControl.Proofs.History.Tested
import ReleaseControl.Proofs.Engine.Log
import ReleaseControl.Proofs.Install.FailureLog
import ReleaseControl.Proofs.Object.Transition
import ReleaseControl.Proofs.History.Recorded
import ReleaseControl.Proofs.Install.FailureCount
