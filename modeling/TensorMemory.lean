import TensorMemory.Block
import TensorMemory.Bytes
import TensorMemory.Configuration.Basic
import TensorMemory.Configuration.Cell
import TensorMemory.Device.Basic
import TensorMemory.Device.Command
import TensorMemory.Device.Operations
import TensorMemory.Device.Properties
import TensorMemory.Device.Submission
import TensorMemory.Device.Violation
import TensorMemory.ElementType
import TensorMemory.Environment.Basic
import TensorMemory.Environment.Descriptor
import TensorMemory.Environment.Guard
import TensorMemory.Environment.Lock
import TensorMemory.Environment.NativeText
import TensorMemory.Environment.Variable
import TensorMemory.Files
import TensorMemory.Gateway.Basic
import TensorMemory.Gateway.Call
import TensorMemory.Gateway.Faults
import TensorMemory.Instant
import TensorMemory.Json.Number
import TensorMemory.Json.Quoted
import TensorMemory.Json.Reader
import TensorMemory.Json.Value
import TensorMemory.Mask
import TensorMemory.Metric.Event
import TensorMemory.Metric.Exporter
import TensorMemory.Metric.Record
import TensorMemory.Placement
import TensorMemory.Proofs.Bench.Basic
import TensorMemory.Proofs.Bench.Conservation
import TensorMemory.Proofs.Bench.CopySource
import TensorMemory.Proofs.Bench.Drift
import TensorMemory.Proofs.Bench.Evolution
import TensorMemory.Proofs.Bench.Exclusion
import TensorMemory.Proofs.Bench.Layout
import TensorMemory.Proofs.Bench.Ledger
import TensorMemory.Proofs.Bench.Legs
import TensorMemory.Proofs.Bench.LifecycleMetrics
import TensorMemory.Proofs.Bench.Machine
import TensorMemory.Proofs.Bench.Mirror
import TensorMemory.Proofs.Bench.Mirror.Basic
import TensorMemory.Proofs.Bench.Mirror.Lifecycle
import TensorMemory.Proofs.Bench.Mirror.Recordings
import TensorMemory.Proofs.Bench.Mirror.Writes
import TensorMemory.Proofs.Bench.Neat
import TensorMemory.Proofs.Bench.Possession
import TensorMemory.Proofs.Bench.Propriety
import TensorMemory.Proofs.Bench.Rebuilding
import TensorMemory.Proofs.Bench.Recording
import TensorMemory.Proofs.Bench.Refinement
import TensorMemory.Proofs.Bench.Shuttling
import TensorMemory.Proofs.Bench.Staleness
import TensorMemory.Proofs.Bench.Steps
import TensorMemory.Proofs.Bench.Teardown
import TensorMemory.Proofs.Bench.Transcript
import TensorMemory.Proofs.Bench.Transparency
import TensorMemory.Proofs.Bench.Turns
import TensorMemory.Proofs.Bench.Views
import TensorMemory.Proofs.Configuration.Agreement
import TensorMemory.Proofs.Configuration.Reading
import TensorMemory.Proofs.Device.Bytes
import TensorMemory.Proofs.Device.Copying
import TensorMemory.Proofs.Device.Creation
import TensorMemory.Proofs.Device.Delivery
import TensorMemory.Proofs.Device.Execution
import TensorMemory.Proofs.Device.Frame
import TensorMemory.Proofs.Device.Hazards
import TensorMemory.Proofs.Device.Issuance
import TensorMemory.Proofs.Device.Mapped
import TensorMemory.Proofs.Device.Missing
import TensorMemory.Proofs.Device.Numbering
import TensorMemory.Proofs.Device.Operation
import TensorMemory.Proofs.Device.Pair
import TensorMemory.Proofs.Device.Recording
import TensorMemory.Proofs.Device.Representation
import TensorMemory.Proofs.Device.Selection
import TensorMemory.Proofs.Device.Splitting
import TensorMemory.Proofs.Device.Stability
import TensorMemory.Proofs.Device.Submission
import TensorMemory.Proofs.Device.Suitability
import TensorMemory.Proofs.Environment.Locking
import TensorMemory.Proofs.Environment.Overrides
import TensorMemory.Proofs.Environment.Restoration
import TensorMemory.Proofs.Environment.RoundTrip
import TensorMemory.Proofs.Environment.Scene
import TensorMemory.Proofs.Environment.Storable
import TensorMemory.Proofs.Environment.Unwinding
import TensorMemory.Proofs.Files
import TensorMemory.Proofs.Gateway.Passage
import TensorMemory.Proofs.Json.Number
import TensorMemory.Proofs.Json.Printed
import TensorMemory.Proofs.Json.Quoted
import TensorMemory.Proofs.Json.Reader
import TensorMemory.Proofs.Metric.Event
import TensorMemory.Proofs.Metric.Framing
import TensorMemory.Proofs.Outcome
import TensorMemory.Proofs.Session.Accesses
import TensorMemory.Proofs.Session.Commands
import TensorMemory.Proofs.Session.Overlap
import TensorMemory.Proofs.Session.Settings
import TensorMemory.Proofs.Table
import TensorMemory.Proofs.Tensor.Alike
import TensorMemory.Proofs.Tensor.Announcements
import TensorMemory.Proofs.Tensor.Backing
import TensorMemory.Proofs.Tensor.CommandMetrics
import TensorMemory.Proofs.Tensor.Construction
import TensorMemory.Proofs.Tensor.ConstructionPaths
import TensorMemory.Proofs.Tensor.Contents
import TensorMemory.Proofs.Tensor.Exchange
import TensorMemory.Proofs.Tensor.Exclusive
import TensorMemory.Proofs.Tensor.Figures
import TensorMemory.Proofs.Tensor.HostWrites
import TensorMemory.Proofs.Tensor.InitialContents
import TensorMemory.Proofs.Tensor.Layout
import TensorMemory.Proofs.Tensor.Lifetime
import TensorMemory.Proofs.Tensor.Mapping
import TensorMemory.Proofs.Tensor.Overlap
import TensorMemory.Proofs.Tensor.Parts
import TensorMemory.Proofs.Tensor.Provision
import TensorMemory.Proofs.Tensor.Rebuilding
import TensorMemory.Proofs.Tensor.Recording
import TensorMemory.Proofs.Tensor.Relinquishing
import TensorMemory.Proofs.Tensor.Reporting
import TensorMemory.Proofs.Tensor.Requests
import TensorMemory.Proofs.Tensor.Soundness
import TensorMemory.Proofs.Tensor.Stages
import TensorMemory.Proofs.Tensor.Teardown
import TensorMemory.Proofs.Tensor.Transparency
import TensorMemory.Proofs.Tensor.Views
import TensorMemory.Proofs.Tensor.Waiting
import TensorMemory.Proofs.Text.Lines
import TensorMemory.Proofs.Text.Spelling
import TensorMemory.Proofs.Tracing.Channel
import TensorMemory.Proofs.Tracing.Level
import TensorMemory.Proofs.Tracing.Reception
import TensorMemory.Session.Answer
import TensorMemory.Session.Basic
import TensorMemory.Session.Devices
import TensorMemory.Session.Failure
import TensorMemory.Session.Observation
import TensorMemory.Session.Run
import TensorMemory.Session.Step
import TensorMemory.Session.Tensors
import TensorMemory.Session.Variables
import TensorMemory.Status
import TensorMemory.Table
import TensorMemory.Tensor.Backing
import TensorMemory.Tensor.Basic
import TensorMemory.Tensor.Error
import TensorMemory.Tensor.Lifecycle
import TensorMemory.Tensor.Ownership
import TensorMemory.Tensor.Parts
import TensorMemory.Tensor.Synchronization
import TensorMemory.Tensor.View
import TensorMemory.Text.Blank
import TensorMemory.Text.Case
import TensorMemory.Text.Numeral
import TensorMemory.Text.Printable
import TensorMemory.Text.Quoted
import TensorMemory.Text.Terminal
import TensorMemory.Tracing.Collector
import TensorMemory.Tracing.Event
import TensorMemory.Tracing.Level
