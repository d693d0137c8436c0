import ThalamicRelay.Safety.Machine

set_option autoImplicit false

namespace ThalamicRelay

/-- The totals and the last gauge are process-global metrics that the recorders update. -/
structure RelayMetrics where
  telemetryAcquiredAt : Option Nat
  telemetryReceivedInstant : Option Nat
  safetyState : SafetyState
  policyState : SafetyState
  brakeEngaged : Bool
  hysteresisOkCount : Nat
  shutdownReason : Option String
  shutdownUnresolvedBrake : Bool
  shutdownUnresolvedActuator : Bool
  safetyTransitionsTotal : Nat
  safetyActuatorFailuresTotal : Nat
  shutdownTotal : Nat
  shutdownBrakeLeftEngaged : Bool
  deriving DecidableEq, Repr

namespace RelayMetrics

def default : RelayMetrics where
  telemetryAcquiredAt := none
  telemetryReceivedInstant := none
  safetyState := .telemetryMissing
  policyState := .telemetryMissing
  brakeEngaged := false
  hysteresisOkCount := 0
  shutdownReason := none
  shutdownUnresolvedBrake := false
  shutdownUnresolvedActuator := false
  safetyTransitionsTotal := 0
  safetyActuatorFailuresTotal := 0
  shutdownTotal := 0
  shutdownBrakeLeftEngaged := false

def recordSafetySnapshot (metrics : RelayMetrics) (snap : SafetySnapshot) : RelayMetrics :=
  { metrics with
    safetyState := snap.state
    policyState := snap.policyState
    brakeEngaged := snap.brakeEngaged
    hysteresisOkCount := snap.hysteresisOkCount
    safetyTransitionsTotal :=
      metrics.safetyTransitionsTotal + if snap.transition.isSome then 1 else 0
    safetyActuatorFailuresTotal :=
      metrics.safetyActuatorFailuresTotal + if snap.actuatorFailed then 1 else 0 }

end RelayMetrics

end ThalamicRelay
