import ThalamicRelay.Actuator.FakeActuator
import ThalamicRelay.Actuator.Fleet
import ThalamicRelay.Actuator.GpuTarget
import ThalamicRelay.Actuator.Hardware
import ThalamicRelay.Actuator.HardwareBridge
import ThalamicRelay.Actuator.Ownership
import ThalamicRelay.Actuator.PowerLimit
import ThalamicRelay.Actuator.RestoreDefault
import ThalamicRelay.Process.FailedAcquisition
import ThalamicRelay.Process.Lifetime
import ThalamicRelay.Process.Lock
import ThalamicRelay.Process.PersistentBrake
import ThalamicRelay.Process.Restart
import ThalamicRelay.Process.SessionIds
import ThalamicRelay.Process.SingleInstance
import ThalamicRelay.Process.WireOrder
import ThalamicRelay.Publish.Batch
import ThalamicRelay.Publish.Conservation
import ThalamicRelay.Publish.Exposition
import ThalamicRelay.Publish.LiveMetrics
import ThalamicRelay.Publish.Publisher
import ThalamicRelay.Publish.Queue
import ThalamicRelay.Publish.QueueRuns
import ThalamicRelay.Publish.WireValues
import ThalamicRelay.Publish.WorkerExit
import ThalamicRelay.Safety.Classify
import ThalamicRelay.Safety.FailClosed
import ThalamicRelay.Safety.LibraryClient
import ThalamicRelay.Safety.Machine
import ThalamicRelay.Safety.MachineRuns
import ThalamicRelay.Safety.Monotone
import ThalamicRelay.Safety.Overlay
import ThalamicRelay.Safety.Policy
import ThalamicRelay.Safety.Retry
import ThalamicRelay.Safety.Tightening
import ThalamicRelay.Safety.Unverified
import ThalamicRelay.Shared.BinaryFloat
import ThalamicRelay.Shared.Decimal
import ThalamicRelay.Shared.Exclusive
import ThalamicRelay.Shared.Exposition
import ThalamicRelay.Shared.History
import ThalamicRelay.Shared.OrderedChannel
import ThalamicRelay.Shared.Progress
import ThalamicRelay.Shared.Registers
import ThalamicRelay.Shared.Saturating
import ThalamicRelay.Shared.TextLines
import ThalamicRelay.Shared.Transition
import ThalamicRelay.Shared.Utf8
import ThalamicRelay.Supervisor.Convergence
import ThalamicRelay.Supervisor.Core
import ThalamicRelay.Supervisor.Dispatch
import ThalamicRelay.Supervisor.ExportedState
import ThalamicRelay.Supervisor.Flapping
import ThalamicRelay.Supervisor.Freshness
import ThalamicRelay.Supervisor.GaugeExport
import ThalamicRelay.Supervisor.Gauges
import ThalamicRelay.Supervisor.HardwareSmoke
import ThalamicRelay.Supervisor.Invariants
import ThalamicRelay.Supervisor.Iteration
import ThalamicRelay.Supervisor.Launch
import ThalamicRelay.Supervisor.Loop
import ThalamicRelay.Supervisor.ManagedPlant
import ThalamicRelay.Supervisor.Metrics
import ThalamicRelay.Supervisor.NvmlGate
import ThalamicRelay.Supervisor.Pending
import ThalamicRelay.Supervisor.Plant
import ThalamicRelay.Supervisor.PowerUnavailable
import ThalamicRelay.Supervisor.Release
import ThalamicRelay.Supervisor.Response
import ThalamicRelay.Supervisor.Shutdown
import ThalamicRelay.Supervisor.ShutdownReport
import ThalamicRelay.Supervisor.SingleFlight
import ThalamicRelay.Supervisor.SoftwareOnly
import ThalamicRelay.Supervisor.Stamping
import ThalamicRelay.Supervisor.TransitionRate
import ThalamicRelay.Supervisor.VerdictAge
import ThalamicRelay.Supervisor.Verdicts
import ThalamicRelay.Telemetry.AtTime
import ThalamicRelay.Telemetry.Csv
import ThalamicRelay.Telemetry.CsvAccounting
import ThalamicRelay.Telemetry.Frame
import ThalamicRelay.Telemetry.Mapping
import ThalamicRelay.Telemetry.Time
import ThalamicRelay.Telemetry.TimeAnomalies
