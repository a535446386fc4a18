import StepSync.Text.Hexadecimal
import StepSync.Text.Listing
import StepSync.Octets.Basic
import StepSync.Text.OctetText
import StepSync.Octets.CursorError
import StepSync.Octets.Reader
import StepSync.Octets.Writer
import StepSync.Numeric.Rounding
import StepSync.Numeric.Significant
import StepSync.Numeric.Binary32
import StepSync.Numeric.Binary64
import StepSync.Digest.Sha256
import StepSync.Digest.Seal
import StepSync.Journal.Basic
import StepSync.Datagram.AckMask
import StepSync.Datagram.Limits
import StepSync.Datagram.Sequence
import StepSync.Message.Command
import StepSync.Message.Version
import StepSync.Message.Handshake
import StepSync.Message.Join
import StepSync.Message.Download
import StepSync.Message.StepExchange
import StepSync.Download.Chunk
import StepSync.Download.Assembly
import StepSync.Download.Basic
import StepSync.Steps.Basic
import StepSync.Steps.Queue
import StepSync.Steps.Window
import StepSync.Steps.Redundancy
import StepSync.Steps.Lead
import StepSync.Steps.Outbound
import StepSync.Steps.Inbound
import StepSync.Measure.WindowAverage
import StepSync.Measure.Rate
import StepSync.Measure.Traffic
import StepSync.Measure.LagTrace
import StepSync.Measure.Metrics
import StepSync.Link.Health
import StepSync.Session.Stage
import StepSync.Session.Settings
import StepSync.Session.Refusal
import StepSync.Session.Notice
import StepSync.Session.Basic
import StepSync.Session.Action
import StepSync.Session.Latency
import StepSync.Session.Control
import StepSync.Session.Stepping
import StepSync.Session.Reception
import StepSync.Session.Transmission
import StepSync.Session.Tick
import StepSync.Conductor.Basic
import StepSync.Conductor.Autoplay
import StepSync.Proofs.Session.Run
import StepSync.Proofs.Session.Situation
import StepSync.Proofs.Session.Delivery
import StepSync.Proofs.Session.Transition
import StepSync.Proofs.Download.Assembly
import StepSync.Proofs.Session.Lifecycle
import StepSync.Proofs.Session.StepLimit
import StepSync.Proofs.Steps.Stream
import StepSync.Proofs.Session.Authoritative
import StepSync.Proofs.Message.StepRun
import StepSync.Proofs.Steps.Redundancy
import StepSync.Proofs.Steps.Exchange
import StepSync.Proofs.Session.Settings
import StepSync.Proofs.Session.Predicted
import StepSync.Proofs.Session.Counting
import StepSync.Proofs.Session.Noninterference
import StepSync.Proofs.Download.Gathering
import StepSync.Proofs.Session.SnapshotDownload
import StepSync.Proofs.Message.ClientMessage
import StepSync.Proofs.Steps.Queue
import StepSync.Proofs.Steps.Lookup
import StepSync.Proofs.Session.Clock
import StepSync.Proofs.Session.DueMessage
import StepSync.Proofs.Session.Composing
import StepSync.Proofs.Session.Outgoing
import StepSync.Proofs.Session.Phase
import StepSync.Proofs.Session.Beat
import StepSync.Proofs.Session.Pacing
import StepSync.Proofs.Steps.Holding
import StepSync.Proofs.Session.Acknowledgement
import StepSync.Proofs.Steps.Renumbering
import StepSync.Proofs.Steps.OutboundNumbering
import StepSync.Proofs.Steps.InboundNumbering
import StepSync.Proofs.Session.Refused
import StepSync.Proofs.Link.Health
import StepSync.Proofs.Session.Hearing
import StepSync.Proofs.Session.GivingUp
import StepSync.Proofs.Conductor.Run
import StepSync.Proofs.Conductor.Standing
import StepSync.Proofs.Steps.Promptness
import StepSync.Proofs.Session.Promptness
import StepSync.Proofs.Download.InOrder
import StepSync.Proofs.Message.ServerMessage
import StepSync.Proofs.Session.Reply
import StepSync.Proofs.Conductor.Host
import StepSync.Proofs.Session.Capacity
import StepSync.Proofs.Session.Turn
import StepSync.Proofs.Conductor.Turn
import StepSync.Proofs.Conductor.Joining
import StepSync.Proofs.Session.Adapting
import StepSync.Proofs.Session.Bond
import StepSync.Proofs.Session.PairedReceiving
import StepSync.Proofs.Session.PairedTicks
import StepSync.Proofs.Conductor.Renewal
import StepSync.Proofs.Octets.Canonical
import StepSync.Proofs.Message.Format
import StepSync.Proofs.Steps.Draining
import StepSync.Proofs.Session.Draining
import StepSync.Proofs.Conductor.Rest
import StepSync.Proofs.Session.Admission
import StepSync.Proofs.Message.RunFormat
import StepSync.Proofs.Link.Hysteresis
import StepSync.Proofs.Datagram.Sequence
import StepSync.Proofs.Session.Losses
import StepSync.Proofs.Steps.PredictionLog
import StepSync.Proofs.Session.PredictedQueue
import StepSync.Proofs.Download.Buffer
import StepSync.Proofs.Download.Acknowledgement
import StepSync.Proofs.Steps.Release
import StepSync.Proofs.Session.Elapsed
import StepSync.Proofs.Session.Gauge
import StepSync.Proofs.Session.Latency
import StepSync.Proofs.Numeric.Rounding
import StepSync.Proofs.Numeric.Significant
import StepSync.Proofs.Numeric.Binary64
import StepSync.Proofs.Measure.WindowAverage
import StepSync.Proofs.Measure.WindowHistory
import StepSync.Proofs.Steps.Lead
import StepSync.Proofs.Session.Lead
