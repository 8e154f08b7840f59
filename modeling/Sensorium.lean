import Sensorium.Session.Run
import Sensorium.Proofs.Numeric.Level
import Sensorium.Proofs.Record.SnapshotRoundTrip
import Sensorium.Proofs.Record.SnapshotRoom
import Sensorium.Proofs.Device.Rest
import Sensorium.Proofs.Device.Readings
import Sensorium.Proofs.Session.Steps
import Sensorium.Proofs.Session.History
import Sensorium.Proofs.Session.Measurements
import Sensorium.Proofs.Session.Mark
import Sensorium.Proofs.Session.Notices
import Sensorium.Proofs.Session.LoadOrder
import Sensorium.Proofs.Session.Playback
import Sensorium.Proofs.Motion.Placed
import Sensorium.Proofs.Session.Reachable
import Sensorium.Proofs.Session.SaveLoad
import Sensorium.Proofs.Session.Kinds
import Sensorium.Proofs.Record.SnapshotGrammar
import Sensorium.Proofs.Session.Bystanders
import Sensorium.Proofs.Session.Forgetting
import Sensorium.Proofs.Session.Outcome
import Sensorium.Proofs.Session.Accounting
import Sensorium.Proofs.Record.SnapshotCanonical
import Sensorium.Proofs.Session.Clock
import Sensorium.Proofs.Session.Handshake
import Sensorium.Proofs.Session.TargetOrder
import Sensorium.Proofs.Session.Loading
import Sensorium.Proofs.Session.Tracing
import Sensorium.Proofs.Session.Retargeting
import Sensorium.Proofs.Session.Callbacks
import Sensorium.Proofs.Numeric.Functions
import Sensorium.Proofs.Numeric.Extremes
import Sensorium.Proofs.Geometry.Turns
import Sensorium.Proofs.Motion.Arrived
import Sensorium.Proofs.Session.Staying
import Sensorium.Proofs.Motion.Converging
import Sensorium.Proofs.Geometry.Axes
import Sensorium.Proofs.Motion.Handover
import Sensorium.Proofs.Motion.Stepping
import Sensorium.Proofs.Session.Endless
import Sensorium.Proofs.Session.Untouched
