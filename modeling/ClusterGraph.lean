import ClusterGraph.Client.Connect
import ClusterGraph.Client.Exchange
import ClusterGraph.Client.Record
import ClusterGraph.Client.Request
import ClusterGraph.CommandLine.Arguments
import ClusterGraph.CommandLine.Program
import ClusterGraph.Dict
import ClusterGraph.Dict.Order
import ClusterGraph.Graph.Basic
import ClusterGraph.Graph.Changes
import ClusterGraph.Graph.Identifier
import ClusterGraph.Graph.NodeRef
import ClusterGraph.Graph.Property
import ClusterGraph.Graph.Statement
import ClusterGraph.Instance.Commands
import ClusterGraph.Instance.Run
import ClusterGraph.Instance.Scenario
import ClusterGraph.Json.Basic
import ClusterGraph.Json.Parser
import ClusterGraph.Json.Printer
import ClusterGraph.Main
import ClusterGraph.Metrics.Basic
import ClusterGraph.Metrics.Exposition
import ClusterGraph.Metrics.Instrument
import ClusterGraph.Metrics.Samples
import ClusterGraph.Number.Binary64
import ClusterGraph.Number.Shortest
import ClusterGraph.Pipeline.Consumer
import ClusterGraph.Pipeline.Housekeeping
import ClusterGraph.Pipeline.Lane
import ClusterGraph.Pipeline.Run
import ClusterGraph.Pipeline.Scenario
import ClusterGraph.Pipeline.Start
import ClusterGraph.Pipeline.VirtualTime
import ClusterGraph.Projection.Links
import ClusterGraph.Projection.Owners
import ClusterGraph.Projection.Properties
import ClusterGraph.Projection.Selection
import ClusterGraph.Projection.Sync
import ClusterGraph.Resource.Decode
import ClusterGraph.Resource.Kind
import ClusterGraph.Resource.Meta
import ClusterGraph.Resource.Object
import ClusterGraph.Resource.RawObject
import ClusterGraph.Resource.Schema.Common
import ClusterGraph.Resource.Schema.Objects
import ClusterGraph.Resource.Schema.Pod
import ClusterGraph.Resource.Schema.Volume
import ClusterGraph.Resource.Shape
import ClusterGraph.Retention.Expiry
import ClusterGraph.Retention.Sweep
import ClusterGraph.Settings.Basic
import ClusterGraph.Settings.File
import ClusterGraph.Settings.Variables
import ClusterGraph.Store.Call
import ClusterGraph.Store.Memory
import ClusterGraph.Store.Plan
import ClusterGraph.Store.Trace
import ClusterGraph.Subscription.Registry
import ClusterGraph.Subscription.State
import ClusterGraph.Text.Base64
import ClusterGraph.Text.Blank
import ClusterGraph.Text.FormEncoded
import ClusterGraph.Text.Integer
import ClusterGraph.Text.Quoted
import ClusterGraph.Text.Unprintable
import ClusterGraph.Time.Agenda
import ClusterGraph.Time.Calendar
import ClusterGraph.Time.Instant
import ClusterGraph.Time.Rfc3339
import ClusterGraph.Time.Span
import ClusterGraph.Watch.Api
import ClusterGraph.Watch.Listed
import ClusterGraph.Watch.Notification
import ClusterGraph.Watch.Relist
import ClusterGraph.Watch.Session
import ClusterGraph.Yaml.Node
import ClusterGraph.Yaml.Place
import ClusterGraph.Yaml.Reading
import ClusterGraph.Yaml.Scalar
import ClusterGraph.Yaml.Token
import ClusterGraph.Proofs.Dict.Bindings
import ClusterGraph.Proofs.Json.TextMaps
import ClusterGraph.Proofs.Graph.Contents
import ClusterGraph.Proofs.Graph.Numbering
import ClusterGraph.Proofs.Graph.Scalars
import ClusterGraph.Proofs.Time.Calendar
import ClusterGraph.Proofs.Time.Timestamps
import ClusterGraph.Proofs.Time.Printing
import ClusterGraph.Proofs.Resource.Identity
import ClusterGraph.Proofs.Resource.Redaction
import ClusterGraph.Proofs.Resource.Normalizing
import ClusterGraph.Proofs.Store.NodeChange
import ClusterGraph.Proofs.Store.Ownership
import ClusterGraph.Proofs.Store.Unreliable
import ClusterGraph.Proofs.Store.Authorship
import ClusterGraph.Proofs.Store.Recording
import ClusterGraph.Proofs.Store.Integrity
import ClusterGraph.Proofs.Store.Upserting
import ClusterGraph.Proofs.Projection.Following
import ClusterGraph.Proofs.Projection.Anchoring
import ClusterGraph.Proofs.Projection.Registering
import ClusterGraph.Proofs.Projection.Forms
import ClusterGraph.Proofs.Graph.Sentences
import ClusterGraph.Proofs.Client.Wording
import ClusterGraph.Proofs.Client.Binding
import ClusterGraph.Proofs.Client.Retrying
import ClusterGraph.Proofs.Client.Refusing
import ClusterGraph.Proofs.Projection.Relating
import ClusterGraph.Proofs.Projection.Totalling
import ClusterGraph.Proofs.Projection.Repeating
import ClusterGraph.Proofs.Projection.Updating
import ClusterGraph.Proofs.Projection.Retracting
import ClusterGraph.Proofs.Projection.Rejecting
import ClusterGraph.Proofs.Projection.Enduring
import ClusterGraph.Proofs.Projection.Converging
import ClusterGraph.Proofs.Projection.Timing
import ClusterGraph.Proofs.Projection.Matching
import ClusterGraph.Proofs.Projection.Joining
import ClusterGraph.Proofs.Projection.Withholding
import ClusterGraph.Proofs.Projection.Selecting
import ClusterGraph.Proofs.Projection.Meeting
import ClusterGraph.Proofs.Projection.Sequence
import ClusterGraph.Proofs.Metrics.Nesting
import ClusterGraph.Proofs.Subscription.Showing
import ClusterGraph.Proofs.Pipeline.Consumer
import ClusterGraph.Proofs.Pipeline.Run
import ClusterGraph.Proofs.Pipeline.Accounting
import ClusterGraph.Proofs.Pipeline.Working
import ClusterGraph.Proofs.Pipeline.Draining
import ClusterGraph.Proofs.Pipeline.Reflecting
import ClusterGraph.Proofs.Pipeline.Refinement
import ClusterGraph.Proofs.Pipeline.Dispatching
import ClusterGraph.Proofs.Pipeline.Starting
import ClusterGraph.Proofs.Pipeline.Waiting
import ClusterGraph.Proofs.Pipeline.Stopping
import ClusterGraph.Proofs.Watch.Relisting
import ClusterGraph.Proofs.Watch.Mirroring
import ClusterGraph.Proofs.Watch.Ordering
import ClusterGraph.Proofs.Watch.Delivering
import ClusterGraph.Proofs.Settings.Hash
import ClusterGraph.Proofs.Instance.Calls
import ClusterGraph.Proofs.Instance.Separating
import ClusterGraph.Proofs.Instance.Run
import ClusterGraph.Proofs.Instance.Takeover
import ClusterGraph.Proofs.Instance.Duties
import ClusterGraph.Proofs.Instance.Tenancy
import ClusterGraph.Proofs.Retention.Sweeping
import ClusterGraph.Proofs.Retention.Counting
import ClusterGraph.Proofs.Retention.Events
import ClusterGraph.Proofs.Retention.Pruning
import ClusterGraph.Proofs.Pipeline.LifeCycle
