import ThalamicRelay.Supervisor.Iteration

set_option autoImplicit false

namespace ThalamicRelay

open History

inductive ShutdownReason
  | sigint
  | sigterm
  deriving DecidableEq, Repr

def ShutdownReason.asStr : ShutdownReason → String
  | .sigint => "sigint"
  | .sigterm => "sigterm"

inductive InFlightActuation
  | none
  | apply
  | release
  deriving DecidableEq, Repr

def InFlightActuation.fromTasks : Bool → Bool → InFlightActuation
  | true, _ => .apply
  | false, true => .release
  | false, false => .none

inductive ShutdownActuation
  | idle
  | awaitApply
  | awaitAuthorizedRelease
  deriving DecidableEq, Repr

structure ShutdownPlan where
  reason : ShutdownReason
  actuation : ShutdownActuation
  leaveBrakeEngaged : Bool
  unresolvedBrake : Bool
  unresolvedActuator : Bool
  summary : String
  deriving DecidableEq, Repr

def shutdownSummary (snap : SafetySnapshot) (inFlight : InFlightActuation) : String :=
  if inFlight = .apply then "await in-flight apply; do not restore default power limit"
  else if inFlight = .release then
    "await already-authorized in-flight release; no new actuation"
  else if snap.lastActuatorError.isSome ∨ snap.actuatorFailed then
    "actuator failed; do not retry on the way out; leave unresolved for restart"
  else match snap.state, snap.brakeEngaged with
  | .healthyReal, false => "healthy; leave hardware unchanged; release process lock"
  | .warning, false => "warned, brake not engaged; do not apply or restore on exit"
  | .warning, true => "warned with brake held; leave brake engaged"
  | .criticalBraked, true => "critical, brake active; leave brake engaged"
  | .criticalBraked, false =>
    "critical, brake requested but not yet applied; do not restore; next start will apply"
  | .recovering, _ =>
    "recovering; abandon undispatched release; leave brake engaged for hysteresis on restart"
  | .telemetryMissing, _ | .telemetryStale, _ | .telemetryInvalid, _ =>
    "telemetry unverified; leave hardware unchanged (fail closed)"
  | .simulatedSoftwareOnly, true =>
    "simulated telemetry cannot authorize release of a real brake; leave engaged"
  | .simulatedSoftwareOnly, false => "software-only; leave hardware unchanged"
  | .actuatorFailure, _ =>
    "actuator failed; do not retry on the way out; leave unresolved for restart"
  | .healthyReal, true => "brake still claimed; leave engaged; no restore on exit"

def planShutdown (reason : ShutdownReason) (snap : SafetySnapshot) (inFlight : InFlightActuation) :
    ShutdownPlan where
  reason := reason
  actuation :=
    match inFlight with
    | .apply => .awaitApply
    | .release => .awaitAuthorizedRelease
    | .none => .idle
  leaveBrakeEngaged := snap.brakeEngaged || decide (inFlight = .apply)
  unresolvedBrake := snap.brakeEngaged || snap.desiredBrake || decide (inFlight = .apply)
  unresolvedActuator := snap.lastActuatorError.isSome || snap.actuatorFailed
  summary := shutdownSummary snap inFlight

inductive InFlightJoin
  | succeeded
  | failed (error : String)
  | panicked (error : String)
  | timedOut
  deriving DecidableEq, Repr

def InFlightJoin.outcome (slot : Slot) : InFlightJoin → Option ActuatorOutcome
  | .succeeded => some slot.succeeded
  | .failed error | .panicked error => some (slot.failed error)
  | .timedOut => none

def RelayMetrics.recordShutdown (metrics : RelayMetrics) (plan : ShutdownPlan) : RelayMetrics :=
  { metrics with
    shutdownReason := some plan.reason.asStr
    shutdownUnresolvedBrake := plan.unresolvedBrake
    shutdownUnresolvedActuator := plan.unresolvedActuator
    shutdownTotal := metrics.shutdownTotal + 1
    shutdownBrakeLeftEngaged := plan.leaveBrakeEngaged }

namespace Supervisor

-- A join that times out records nothing; the worker is left to itself.
def joinInFlight (s : Supervisor) (slot : Slot) (join : InFlightJoin) : Supervisor :=
  if (s.attempt.slots.get slot).isSome then
    match join.outcome slot with
    | some outcome => (s.emptied slot).recordActuator outcome
    | none => s.emptied slot
  else s

def performOrderlyShutdown (s : Supervisor) (reason : ShutdownReason) (join : InFlightJoin) :
    ShutdownPlan × Supervisor :=
  let snap := s.machine.snapshot
  let inFlight := InFlightActuation.fromTasks s.attempt.slots.brakeTask.isSome
    s.attempt.slots.releaseTask.isSome
  let plan := planShutdown reason snap inFlight
  let s := { s with metrics := s.metrics.recordShutdown plan }
  (plan,
    match plan.actuation with
    | .idle => (s.emptied .brake).emptied .release
    | .awaitApply => (s.joinInFlight .brake join).emptied .release
    | .awaitAuthorizedRelease => (s.joinInFlight .release join).emptied .brake)

theorem shutdown_idle {s : Supervisor} (empty : s.attempt.slots.isEmpty = true)
    (reason : ShutdownReason) (join : InFlightJoin) :
    (s.performOrderlyShutdown reason join).2.core = ((s.emptied .brake).emptied .release).core := by
  obtain ⟨unapplied, unreleased⟩ := Slots.isEmpty_iff.mp empty
  simp only [performOrderlyShutdown, unapplied, unreleased]
  rfl

theorem shutdown_release {s : Supervisor} (unapplied : s.attempt.slots.brakeTask = none)
    (released : s.attempt.slots.releaseTask.isSome = true) (reason : ShutdownReason)
    (join : InFlightJoin) :
    (s.performOrderlyShutdown reason join).2.core =
      match join.outcome .release with
      | some outcome => ((s.core.take .release).recordActuator outcome).take .brake
      | none => (s.core.take .release).take .brake := by
  have occupied : (s.attempt.slots.get .release).isSome = true := released
  simp only [performOrderlyShutdown, unapplied, released, Option.isSome_none]
  dsimp only [InFlightActuation.fromTasks, planShutdown, joinInFlight]
  rw [if_pos occupied]
  cases join.outcome .release <;> rfl

-- With the brake claimed no apply is in flight, so only a release can be awaited.
theorem shutdown_claim {s : Supervisor} (unapplied : s.attempt.slots.brakeTask = none)
    (claimed : s.machine.brakeEngaged = true) (reason : ShutdownReason) (join : InFlightJoin) :
    let after := (s.performOrderlyShutdown reason join).2
    (after.machine.brakeEngaged = false ↔
      s.attempt.slots.releaseTask.isSome = true ∧ join = .succeeded) ∧
    (after.log = .recorded .released :: s.log ↔
      s.attempt.slots.releaseTask.isSome = true ∧ join = .succeeded) := by
  intro after
  have machine : after.machine = after.core.machine := rfl
  have log : after.log = after.core.log := rfl
  cases released : s.attempt.slots.releaseTask.isSome with
  | false =>
    have empty : s.attempt.slots.isEmpty = true :=
      Slots.isEmpty_iff.mpr ⟨unapplied, by simpa using released⟩
    rw [machine, log, show after.core = _ from shutdown_idle empty reason join]
    simp [core, emptied, claimed]
  | true =>
    rw [machine, log, show after.core = _ from shutdown_release unapplied released reason join]
    cases join with
    | succeeded => simp [InFlightJoin.outcome, RelayCore.recordActuator, RelayCore.take, core,
        Slot.succeeded]
    | failed error | panicked error =>
      simp [InFlightJoin.outcome, RelayCore.recordActuator, RelayCore.take, core, Slot.failed,
        claimed]
    | timedOut => simp [InFlightJoin.outcome, RelayCore.take, core, claimed]

end Supervisor

namespace Startup

theorem shutdown_keeps_claim_iff (startup : Startup) (inputs : List Iteration)
    (reason : ShutdownReason) (join : InFlightJoin)
    (claimed : (startup.run inputs).machine.brakeEngaged = true) :
    let s := startup.run inputs
    let after := (s.performOrderlyShutdown reason join).2
    s.attempt.slots.brakeTask = none ∧
    (after.machine.brakeEngaged = true ↔
      ¬ (s.attempt.slots.releaseTask.isSome = true ∧ join = .succeeded)) ∧
    (after.log = .recorded .released :: s.log ↔
      s.attempt.slots.releaseTask.isSome = true ∧ join = .succeeded) ∧
    (s.attempt.slots.releaseTask.isSome = true →
      ∃ newer snap older, s.log = newer ++ .spawned snap :: older ∧ snap.intent = .release ∧
        snap.brakeEngaged = true ∧
        Unbroken Event.mark startup.policy.config.releaseOkStreak older) := by
  intro s after
  have inv := startup.inv inputs
  have unapplied : s.attempt.slots.brakeTask = none := by
    by_contra applying
    have free := inv.applying (Option.isSome_iff_ne_none.mpr applying)
    exact absurd (claimed.symm.trans free) (by decide)
  obtain ⟨claim, released⟩ := Supervisor.shutdown_claim unapplied claimed reason join
  refine ⟨unapplied, ?_, released, ?_⟩
  · rw [← claim, Bool.not_eq_false]
  · intro inFlight
    obtain ⟨snap, member, release⟩ := inv.dispatched inFlight
    obtain ⟨newer, older, split⟩ := List.append_of_mem member
    exact ⟨newer, snap, older, split, release, inv.authorized newer _ older split snap rfl release⟩

-- The gate was held by the release, so the last frame is unavailable; the release then completes.
theorem shutdown_releases_unverified :
    let s := (leftover .eagerPolicy).run [.cool, .blocked]
    let after := (s.performOrderlyShutdown .sigterm .succeeded).2
    s.machine.brakeEngaged = true ∧ lastKind s.log = some .missing ∧
      after.machine.brakeEngaged = false := by
  decide +kernel

-- The same exit keeps the claim when the release times out or fails.
theorem shutdown_keeps_leftover :
    let s := (leftover .eagerPolicy).run [.cool, .blocked]
    let error := (ActuatorError.commandFailed "sudo denied").toString
    lastKind s.log = some .missing ∧ s.attempt.slots.releaseTask.isSome = true ∧
      (s.performOrderlyShutdown .sigterm .timedOut).2.machine.brakeEngaged = true ∧
      (s.performOrderlyShutdown .sigterm (.failed error)).2.machine.brakeEngaged = true := by
  intro s error
  have claimed : s.machine.brakeEngaged = true := by decide +kernel
  have keeps (join : InFlightJoin) (unsuccessful : join ≠ .succeeded) :
      (s.performOrderlyShutdown .sigterm join).2.machine.brakeEngaged = true :=
    (shutdown_keeps_claim_iff (leftover .eagerPolicy) [.cool, .blocked] .sigterm join
      claimed).2.1.mpr fun released => unsuccessful released.2
  exact ⟨by decide +kernel, by decide +kernel, keeps .timedOut (by decide),
    keeps (.failed error) (by simp)⟩

end Startup

end ThalamicRelay
