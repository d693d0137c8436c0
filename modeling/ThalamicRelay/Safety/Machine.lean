import ThalamicRelay.Safety.Classify

set_option autoImplicit false

namespace ThalamicRelay

open Saturating

inductive SafetyState
  | healthyReal
  | warning
  | criticalBraked
  | recovering
  | telemetryMissing
  | telemetryStale
  | telemetryInvalid
  | simulatedSoftwareOnly
  | actuatorFailure
  deriving DecidableEq, Repr

inductive BrakeIntent
  | none
  | apply
  | release
  deriving DecidableEq, Repr

inductive ActuatorOutcome
  | applied
  | applyFailed (error : String)
  | released
  | releaseFailed (error : String)
  deriving DecidableEq, Repr

structure SafetySnapshot where
  state : SafetyState
  policyState : SafetyState
  brakeEngaged : Bool
  desiredBrake : Bool
  intent : BrakeIntent
  hysteresisOkCount : Nat
  lastReason : String
  lastActuatorError : Option String
  transition : Option (SafetyState × SafetyState)
  actuatorFailed : Bool
  deriving DecidableEq, Repr

def SafetySnapshot.intentFrom : Bool → Bool → BrakeIntent
  | true, false => .apply
  | false, true => .release
  | _, _ => .none

theorem intentFrom_apply (desired engaged : Bool) :
    SafetySnapshot.intentFrom desired engaged = .apply ↔ desired = true ∧ engaged = false := by
  cases desired <;> cases engaged <;> decide

theorem intentFrom_release (desired engaged : Bool) :
    SafetySnapshot.intentFrom desired engaged = .release ↔ desired = false ∧ engaged = true := by
  cases desired <;> cases engaged <;> decide

theorem intentFrom_none (desired engaged : Bool) :
    SafetySnapshot.intentFrom desired engaged = .none ↔ desired = engaged := by
  cases desired <;> cases engaged <;> decide

structure SafetyMachine where
  policy : SafetyPolicy
  brakeEngaged : Bool
  okCount : Nat
  justReleased : Bool
  lastActuatorError : Option String
  lastPolicyState : SafetyState
  state : SafetyState
  lastReason : String
  transitionsTotal : Nat
  actuatorFailuresTotal : Nat

namespace SafetyMachine

def withPolicy (policy : SafetyPolicy) : SafetyMachine where
  policy := policy
  brakeEngaged := false
  okCount := 0
  justReleased := false
  lastActuatorError := none
  lastPolicyState := .telemetryMissing
  state := .telemetryMissing
  lastReason := "no telemetry evaluated yet"
  transitionsTotal := 0
  actuatorFailuresTotal := 0

def seedBrakeApplied (m : SafetyMachine) : SafetyMachine :=
  { m with
    brakeEngaged := true
    okCount := 0
    justReleased := false
    lastPolicyState := .recovering
    state := .recovering
    lastReason := "leftover emergency brake detected at startup" }

def failClosed (m : SafetyMachine) (state : SafetyState) : (SafetyState × Bool) × SafetyMachine :=
  ((state, true), { m with okCount := 0 })

def policyFor (m : SafetyMachine) (assessment : FrameAssessment) (justReleased : Bool) :
    (SafetyState × Bool) × SafetyMachine :=
  match assessment.kind with
  | .simulated => ((.simulatedSoftwareOnly, m.brakeEngaged), { m with okCount := 0 })
  | .missing => m.failClosed .telemetryMissing
  | .invalid => m.failClosed .telemetryInvalid
  | .stale => m.failClosed .telemetryStale
  | .critical => m.failClosed .criticalBraked
  | .warn => ((.warning, m.brakeEngaged || justReleased), { m with okCount := 0 })
  | .ok =>
    if m.brakeEngaged then
      let okCount := increment u32Max m.okCount
      ((.recovering, decide (okCount < m.policy.config.releaseOkStreak)),
        { m with okCount := okCount })
    else ((.healthyReal, false), { m with okCount := 0 })

def desiredFromLastPolicy (m : SafetyMachine) : Bool :=
  match m.lastPolicyState with
  | .healthyReal => false
  | .simulatedSoftwareOnly => m.brakeEngaged
  | .warning => m.brakeEngaged || m.justReleased
  | .recovering => decide (m.okCount < m.policy.config.releaseOkStreak)
  | .criticalBraked | .telemetryMissing | .telemetryStale | .telemetryInvalid
  | .actuatorFailure => true

def composeAndStore (m : SafetyMachine) (desiredBrake actuatorFailed : Bool) :
    SafetySnapshot × SafetyMachine :=
  let prev := m.state
  let reported := if m.lastActuatorError.isSome then .actuatorFailure else m.lastPolicyState
  let changed : Bool := decide (prev ≠ reported)
  ({ state := reported
     policyState := m.lastPolicyState
     brakeEngaged := m.brakeEngaged
     desiredBrake := desiredBrake
     intent := SafetySnapshot.intentFrom desiredBrake m.brakeEngaged
     hysteresisOkCount := m.okCount
     lastReason := m.lastReason
     lastActuatorError := m.lastActuatorError
     transition := if changed then some (prev, reported) else none
     actuatorFailed := actuatorFailed },
   { m with
     state := reported
     transitionsTotal :=
       if changed then increment u64Max m.transitionsTotal else m.transitionsTotal })

def composeSnapshot (m : SafetyMachine) (actuatorFailed : Bool)
    (transition : Option (SafetyState × SafetyState)) : SafetySnapshot :=
  let desired := m.desiredFromLastPolicy
  { state := m.state
    policyState := m.lastPolicyState
    brakeEngaged := m.brakeEngaged
    desiredBrake := desired
    intent := SafetySnapshot.intentFrom desired m.brakeEngaged
    hysteresisOkCount := m.okCount
    lastReason := m.lastReason
    lastActuatorError := m.lastActuatorError
    transition := transition
    actuatorFailed := actuatorFailed }

def snapshot (m : SafetyMachine) : SafetySnapshot :=
  m.composeSnapshot false none

def evaluate (m : SafetyMachine) (frame : TelemetryFrame) : SafetySnapshot × SafetyMachine :=
  let assessment := classifyFrameWithPolicy frame m.policy
  let justReleased := m.justReleased
  let m := { m with justReleased := false }
  let ((policyState, desiredBrake), m) := m.policyFor assessment justReleased
  let m :=
    { m with
      -- A healthy verdict must not keep a stale actuator failure overlay.
      lastActuatorError :=
        if policyState = SafetyState.healthyReal ∧ desiredBrake = false then none
        else m.lastActuatorError
      lastPolicyState := policyState
      lastReason := assessment.reason }
  m.composeAndStore desiredBrake false

def recordActuator (m : SafetyMachine) (outcome : ActuatorOutcome) :
    SafetySnapshot × SafetyMachine :=
  let (m, actuatorFailed) : SafetyMachine × Bool :=
    match outcome with
    | .applied =>
      ({ m with brakeEngaged := true, lastActuatorError := none, justReleased := false }, false)
    | .applyFailed error =>
      ({ m with
          brakeEngaged := false
          lastActuatorError := some error
          actuatorFailuresTotal := increment u64Max m.actuatorFailuresTotal }, true)
    | .released =>
      -- Optimistic until the supervisor has evaluated telemetry from after the release.
      ({ m with
          brakeEngaged := false
          okCount := 0
          justReleased := true
          lastActuatorError := none
          lastPolicyState := .healthyReal
          lastReason := "brake released" }, false)
    | .releaseFailed error =>
      ({ m with
          lastActuatorError := some error
          actuatorFailuresTotal := increment u64Max m.actuatorFailuresTotal }, true)
  m.composeAndStore m.desiredFromLastPolicy actuatorFailed

def kindOf (m : SafetyMachine) (frame : TelemetryFrame) : AssessmentKind :=
  (classifyFrameWithPolicy frame m.policy).kind

end SafetyMachine

def AssessmentKind.policyState (kind : AssessmentKind) (engaged : Bool) : SafetyState :=
  match kind with
  | .simulated => .simulatedSoftwareOnly
  | .missing => .telemetryMissing
  | .invalid => .telemetryInvalid
  | .stale => .telemetryStale
  | .critical => .criticalBraked
  | .warn => .warning
  | .ok => if engaged then .recovering else .healthyReal

namespace SafetyMachine

@[simp] theorem composeAndStore_brakeEngaged (m : SafetyMachine) (desired failed : Bool) :
    (m.composeAndStore desired failed).2.brakeEngaged = m.brakeEngaged := rfl

@[simp] theorem composeAndStore_justReleased (m : SafetyMachine) (desired failed : Bool) :
    (m.composeAndStore desired failed).2.justReleased = m.justReleased := rfl

@[simp] theorem composeAndStore_lastPolicyState (m : SafetyMachine) (desired failed : Bool) :
    (m.composeAndStore desired failed).2.lastPolicyState = m.lastPolicyState := rfl

@[simp] theorem composeAndStore_policy (m : SafetyMachine) (desired failed : Bool) :
    (m.composeAndStore desired failed).2.policy = m.policy := rfl

def nextOkCount (m : SafetyMachine) (kind : AssessmentKind) : Nat :=
  if kind = .ok ∧ m.brakeEngaged = true then increment u32Max m.okCount else 0

def demand (m : SafetyMachine) (kind : AssessmentKind) (justReleased : Bool) : Bool :=
  match kind with
  | .simulated => m.brakeEngaged
  | .missing | .invalid | .stale | .critical => true
  | .warn => m.brakeEngaged || justReleased
  | .ok => m.brakeEngaged && decide (m.nextOkCount .ok < m.policy.config.releaseOkStreak)

theorem policyFor_eq (m : SafetyMachine) (assessment : FrameAssessment) (justReleased : Bool) :
    m.policyFor assessment justReleased =
      ((assessment.kind.policyState m.brakeEngaged, m.demand assessment.kind justReleased),
        { m with okCount := m.nextOkCount assessment.kind }) := by
  simp only [policyFor]
  cases kind : assessment.kind with
  | ok =>
    by_cases engaged : m.brakeEngaged = true <;>
      simp [AssessmentKind.policyState, demand, nextOkCount, engaged]
  | _ => simp [failClosed, AssessmentKind.policyState, demand, nextOkCount]

@[simp] theorem evaluate_policy (m : SafetyMachine) (frame : TelemetryFrame) :
    (m.evaluate frame).2.policy = m.policy := by
  simp [evaluate, policyFor_eq]

@[simp] theorem evaluate_brakeEngaged (m : SafetyMachine) (frame : TelemetryFrame) :
    (m.evaluate frame).2.brakeEngaged = m.brakeEngaged := by
  simp [evaluate, policyFor_eq]

@[simp] theorem evaluate_justReleased (m : SafetyMachine) (frame : TelemetryFrame) :
    (m.evaluate frame).2.justReleased = false := by
  simp [evaluate, policyFor_eq]

@[simp] theorem evaluate_okCount (m : SafetyMachine) (frame : TelemetryFrame) :
    (m.evaluate frame).2.okCount = m.nextOkCount (m.kindOf frame) := by
  simp only [evaluate, policyFor_eq, kindOf]
  rfl

@[simp] theorem evaluate_lastPolicyState (m : SafetyMachine) (frame : TelemetryFrame) :
    (m.evaluate frame).2.lastPolicyState = (m.kindOf frame).policyState m.brakeEngaged := by
  simp [evaluate, policyFor_eq, kindOf]

@[simp] theorem evaluate_desiredBrake (m : SafetyMachine) (frame : TelemetryFrame) :
    (m.evaluate frame).1.desiredBrake = m.demand (m.kindOf frame) m.justReleased := by
  simp only [evaluate, policyFor_eq, kindOf]
  rfl

theorem evaluate_snapshot_brakeEngaged (m : SafetyMachine) (frame : TelemetryFrame) :
    (m.evaluate frame).1.brakeEngaged = m.brakeEngaged := by
  simp only [evaluate, policyFor_eq]
  rfl

theorem evaluate_intent (m : SafetyMachine) (frame : TelemetryFrame) :
    (m.evaluate frame).1.intent =
      SafetySnapshot.intentFrom (m.demand (m.kindOf frame) m.justReleased) m.brakeEngaged := by
  simp only [evaluate, policyFor_eq, kindOf]
  rfl

theorem evaluate_hysteresisOkCount (m : SafetyMachine) (frame : TelemetryFrame) :
    (m.evaluate frame).1.hysteresisOkCount = m.nextOkCount (m.kindOf frame) := by
  simp only [evaluate, policyFor_eq, kindOf]
  rfl

@[simp] theorem recordActuator_policy (m : SafetyMachine) (outcome : ActuatorOutcome) :
    (m.recordActuator outcome).2.policy = m.policy := by
  cases outcome <;> rfl

@[simp] theorem recordActuator_brakeEngaged (m : SafetyMachine) (outcome : ActuatorOutcome) :
    (m.recordActuator outcome).2.brakeEngaged =
      match outcome with
      | .applied => true
      | .applyFailed _ | .released => false
      | .releaseFailed _ => m.brakeEngaged := by
  cases outcome <;> rfl

@[simp] theorem recordActuator_okCount (m : SafetyMachine) (outcome : ActuatorOutcome) :
    (m.recordActuator outcome).2.okCount =
      match outcome with
      | .released => 0
      | .applied | .applyFailed _ | .releaseFailed _ => m.okCount := by
  cases outcome <;> rfl

@[simp] theorem recordActuator_justReleased (m : SafetyMachine) (outcome : ActuatorOutcome) :
    (m.recordActuator outcome).2.justReleased =
      match outcome with
      | .applied => false
      | .released => true
      | .applyFailed _ | .releaseFailed _ => m.justReleased := by
  cases outcome <;> rfl

@[simp] theorem recordActuator_lastPolicyState (m : SafetyMachine) (outcome : ActuatorOutcome) :
    (m.recordActuator outcome).2.lastPolicyState =
      match outcome with
      | .released => .healthyReal
      | .applied | .applyFailed _ | .releaseFailed _ => m.lastPolicyState := by
  cases outcome <;> rfl

-- What an evaluation stores is its demand without the one-shot flag.
@[simp] theorem evaluate_desiredFromLastPolicy (m : SafetyMachine) (frame : TelemetryFrame) :
    (m.evaluate frame).2.desiredFromLastPolicy = m.demand (m.kindOf frame) false := by
  simp only [desiredFromLastPolicy]
  rw [evaluate_lastPolicyState, evaluate_brakeEngaged, evaluate_justReleased, evaluate_okCount,
    evaluate_policy]
  cases m.kindOf frame with
  | ok => cases engaged : m.brakeEngaged <;> simp [AssessmentKind.policyState, demand, engaged]
  | _ => simp [AssessmentKind.policyState, demand]

theorem snapshot_intent (m : SafetyMachine) :
    m.snapshot.intent = SafetySnapshot.intentFrom m.desiredFromLastPolicy m.brakeEngaged := rfl

@[simp] theorem snapshot_brakeEngaged (m : SafetyMachine) :
    m.snapshot.brakeEngaged = m.brakeEngaged := rfl

@[simp] theorem snapshot_hysteresisOkCount (m : SafetyMachine) :
    m.snapshot.hysteresisOkCount = m.okCount := rfl

end SafetyMachine

end ThalamicRelay
