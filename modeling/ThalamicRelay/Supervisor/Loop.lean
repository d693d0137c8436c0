import ThalamicRelay.Actuator.PowerLimit
import ThalamicRelay.Safety.MachineRuns
import ThalamicRelay.Supervisor.Metrics
import ThalamicRelay.Supervisor.NvmlGate

set_option autoImplicit false

namespace ThalamicRelay

structure Cli where
  forceSoftwareOnly : Bool
  stepIntervalMs : Nat
  ipcSessionId : String
  ipcDisabled : Bool := false
  ipcEndpoint : String := "127.0.0.1:9900"
  deriving DecidableEq, Repr

-- A handle; when the worker returns and with what is the environment's choice.
abbrev ActuationTask := PUnit

/-- One bounded read: what the gate returned and the clock at its two readings. -/
structure Acquisition where
  result : Except NvmlRunError RawTelemetry
  readAt : Nat
  assessedAt : Nat

/-- The environment's part of one iteration, in the order the loop asks for it. -/
structure Iteration where
  retryGateFree : Bool
  acquisition : Acquisition
  brakeFinished : Option TaskResult
  brakeReassessment : Acquisition
  releaseFinished : Option TaskResult
  releaseReassessment : Acquisition
  dispatchGateFree : Bool

/-- What the loop did, newest first; no step reads it. -/
inductive Event
  | seeded
  | recorded (outcome : ActuatorOutcome)
  | evaluated (kind : AssessmentKind) (snap : SafetySnapshot)
  | offered (frame : TelemetryFrame)
  | spawned (snap : SafetySnapshot)

structure Supervisor where
  stepCount : Nat
  machine : SafetyMachine
  sampleClock : SampleClock
  attempt : DispatchState ActuationTask
  metrics : RelayMetrics
  log : List Event

structure TickFlags where
  evaluatedThisIter : Bool
  actuationFailedThisTick : Bool
  dispatchDue : Bool
  deriving DecidableEq, Repr

def TickFlags.clear : TickFlags where
  evaluatedThisIter := false
  actuationFailedThisTick := false
  dispatchDue := false

def shouldEvaluateTick (stepCount : Nat) (source : TelemetrySource) : Bool :=
  stepCount = 1 ∨ stepCount % 10 = 0 ∨ source = .nvmlUnavailable

def shouldDispatchIntent (stepCount : Nat) (prior current : BrakeIntent)
    (actuationFailedThisTick : Bool) : Bool :=
  if current = .none then false
  else if current ≠ prior then true
  else ¬ actuationFailedThisTick ∧ (stepCount = 1 ∨ stepCount % 10 = 0)

namespace Acquisition

def acquireRawWithTimeout (cli : Cli) (acquisition : Acquisition) : RawTelemetry :=
  if cli.forceSoftwareOnly then .softwareFallback acquisition.readAt
  else match acquisition.result with
  | .ok raw => raw
  | .error _ => .nvmlUnavailable acquisition.readAt

def assess (cli : Cli) (acquisition : Acquisition) (clock : SampleClock) :
    TelemetryFrame × SampleClock :=
  assessWithClock (acquisition.acquireRawWithTimeout cli) acquisition.assessedAt
    cli.stepIntervalMs clock

end Acquisition

namespace Supervisor

def note (s : Supervisor) (event : Event) : Supervisor :=
  { s with log := event :: s.log }

def storeSafety (s : Supervisor) (snap : SafetySnapshot) : Supervisor :=
  { s with metrics := s.metrics.recordSafetySnapshot snap }

def recordActuator (s : Supervisor) (outcome : ActuatorOutcome) : Supervisor :=
  let (snap, machine) := s.machine.recordActuator outcome
  ({ s with machine := machine }.note (.recorded outcome)).storeSafety snap

def evaluateThenTryPublish (s : Supervisor) (frame : TelemetryFrame) :
    SafetySnapshot × Supervisor :=
  let (snap, machine) := s.machine.evaluate frame
  (snap,
    ({ s with machine := machine }.note (.evaluated (s.machine.kindOf frame) snap)).note
      (.offered frame))

def acquire (cli : Cli) (s : Supervisor) (acquisition : Acquisition) :
    TelemetryFrame × Supervisor :=
  let (frame, clock) := acquisition.assess cli s.sampleClock
  (frame, { s with sampleClock := clock })

def reassessAfterActuation (cli : Cli) (s : Supervisor) (outcome : ActuatorOutcome)
    (acquisition : Acquisition) : Supervisor :=
  let s := s.recordActuator outcome
  let (frame, s) := s.acquire cli acquisition
  let (snap, s) := s.evaluateThenTryPublish frame
  s.storeSafety snap

def emptied (s : Supervisor) (slot : Slot) : Supervisor :=
  { s with attempt := { s.attempt with slots := s.attempt.slots.take slot } }

/-- The two completion blocks of the loop differ in the slot and in the outcomes they record. -/
def completeActuation (cli : Cli) (slot : Slot) (succeeded : ActuatorOutcome)
    (failed : String → ActuatorOutcome) (s : Supervisor) (flags : TickFlags)
    (finished : Option TaskResult) (reassessment : Acquisition) : Supervisor × TickFlags :=
  match s.attempt.slots.get slot, finished with
  | some _, some result =>
    let s := s.emptied slot
    match result with
    | .ok =>
      (s.reassessAfterActuation cli succeeded reassessment,
        { flags with dispatchDue := true, evaluatedThisIter := true })
    | .err error =>
      (s.recordActuator (failed error.toString), { flags with actuationFailedThisTick := true })
    | .panicked message =>
      (s.recordActuator (failed message), { flags with actuationFailedThisTick := true })
  | _, _ => (s, flags)

def completeBrake (cli : Cli) (s : Supervisor) (flags : TickFlags) (input : Iteration) :
    Supervisor × TickFlags :=
  completeActuation cli .brake .applied .applyFailed s flags input.brakeFinished
    input.brakeReassessment

def completeRelease (cli : Cli) (s : Supervisor) (flags : TickFlags) (input : Iteration) :
    Supervisor × TickFlags :=
  completeActuation cli .release .released .releaseFailed s flags input.releaseFinished
    input.releaseReassessment

def completeFinished (cli : Cli) (s : Supervisor) (input : Iteration) : Supervisor × TickFlags :=
  let (s, flags) := s.completeBrake cli .clear input
  s.completeRelease cli flags input

def evaluateTick (s : Supervisor) (flags : TickFlags) (telemetry : TelemetryFrame) :
    Supervisor × TickFlags :=
  if flags.evaluatedThisIter then (s, flags)
  else if shouldEvaluateTick s.stepCount telemetry.source then
    let priorIntent := s.machine.snapshot.intent
    let (snap, s) := s.evaluateThenTryPublish telemetry
    (s.storeSafety snap,
      { flags with
        dispatchDue :=
          shouldDispatchIntent s.stepCount priorIntent snap.intent flags.actuationFailedThisTick })
  else (s.note (.offered telemetry), flags)

def tryEnter (gateFree : Bool) : Option ActuationTask :=
  if gateFree then some ⟨⟩ else none

-- Dispatch reads the machine again: the intent is snapshot's, not the evaluation's.
def dispatch (s : Supervisor) (gateFree due : Bool) : Supervisor :=
  let snap := s.machine.snapshot
  let (result, attempt) := dispatchDueOrPending snap (tryEnter gateFree) due s.attempt
  let s := { s with attempt := attempt }
  if result = some .spawned then s.note (.spawned snap) else s

-- A blocked emergency brake gets the gate before the next read can take it.
def retryPending (s : Supervisor) (gateFree : Bool) : Supervisor :=
  if s.attempt.pending = some .apply then s.dispatch gateFree false else s

def recordAcquired (s : Supervisor) (telemetry : TelemetryFrame) : Supervisor :=
  { s with metrics := { s.metrics with telemetryAcquiredAt := some telemetry.acquiredAt } }

def begin (s : Supervisor) (gateFree : Bool) : Supervisor :=
  { s with stepCount := s.stepCount + 1 }.retryPending gateFree

def iterate (cli : Cli) (s : Supervisor) (input : Iteration) : Supervisor :=
  let s := s.begin input.retryGateFree
  let (telemetry, s) := s.acquire cli input.acquisition
  let (s, flags) := s.completeFinished cli input
  let (s, flags) := s.evaluateTick flags telemetry
  let s := s.dispatch input.dispatchGateFree flags.dispatchDue
  s.recordAcquired telemetry

def seedStartupBrake (s : Supervisor) (currentW defaultW : Option UInt32) : Supervisor :=
  match classifyPowerLimit currentW defaultW brakeFraction with
  | .relayOwnedBrake _ =>
    let machine := s.machine.seedBrakeApplied
    ({ s with machine := machine }.note .seeded).storeSafety machine.snapshot
  | .unreadable | .atOrAboveDefault _ _ | .foreignSubDefaultCap _ _ _ => s

def fresh (cli : Cli) (policy : SafetyPolicy) (generatedSessionId : String) : Supervisor where
  stepCount := 0
  machine := .withPolicy policy
  sampleClock :=
    .withSessionId (if cli.ipcSessionId = "" then generatedSessionId else cli.ipcSessionId)
  attempt := { slots := .empty, pending := none }
  metrics := .default
  log := []

end Supervisor

/-- Everything fixed before the first iteration: the options, the resolved policy and the power
limits that the startup query read. -/
structure Startup where
  cli : Cli
  policy : SafetyPolicy
  generatedSessionId : String
  currentW : Option UInt32
  defaultW : Option UInt32

namespace Startup

def initial (startup : Startup) : Supervisor :=
  (Supervisor.fresh startup.cli startup.policy startup.generatedSessionId).seedStartupBrake
    startup.currentW startup.defaultW

def seeded (startup : Startup) : Bool :=
  match classifyPowerLimit startup.currentW startup.defaultW brakeFraction with
  | .relayOwnedBrake _ => true
  | .unreadable | .atOrAboveDefault _ _ | .foreignSubDefaultCap _ _ _ => false

def system (startup : Startup) : Transition.System Supervisor Iteration :=
  .ofFunction (fun s => s = startup.initial) (Supervisor.iterate startup.cli)

def run (startup : Startup) (inputs : List Iteration) : Supervisor :=
  inputs.foldl (Supervisor.iterate startup.cli) startup.initial

theorem run_reachable (startup : Startup) (inputs : List Iteration) :
    startup.system.Reachable (startup.run inputs) :=
  Transition.System.Reachable.run (.start rfl) (Transition.System.run_ofFunction _ inputs)

end Startup

-- One reading of a working device, at the instant of the source's fixtures.
def Acquisition.nvml (temp power : F32) : Acquisition where
  result := .ok (.nvmlTempPower 1700000000000 temp power)
  readAt := 1700000000000
  assessedAt := 1700000000000

-- A read refused because another worker holds the gate.
def Acquisition.busy : Acquisition where
  result := .error .busy
  readAt := 1700000000000
  assessedAt := 1700000000000

-- The same reading wherever the iteration asks, a free gate and no worker returning.
def Iteration.reading (acquisition : Acquisition) : Iteration where
  retryGateFree := true
  acquisition := acquisition
  brakeFinished := none
  brakeReassessment := acquisition
  releaseFinished := none
  releaseReassessment := acquisition
  dispatchGateFree := true

def Iteration.cool : Iteration := .reading (.nvml (.finite 65) (.finite 200))

def Iteration.blocked : Iteration := { Iteration.cool with acquisition := .busy }

-- A restart that finds the relay's own 200 W brake on a 400 W device.
def Startup.leftover (policy : SafetyPolicy) : Startup where
  cli := { forceSoftwareOnly := false, stepIntervalMs := 100, ipcSessionId := "test" }
  policy := policy
  generatedSessionId := ""
  currentW := some 200
  defaultW := some 400

end ThalamicRelay
