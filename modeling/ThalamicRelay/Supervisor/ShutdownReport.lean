import ThalamicRelay.Supervisor.Shutdown

set_option autoImplicit false

namespace ThalamicRelay

structure RelayMetrics.Exports (metrics : RelayMetrics) (plan : ShutdownPlan) : Prop where
  reason : metrics.shutdownReason = some plan.reason.asStr
  leaveBrakeEngaged : metrics.shutdownBrakeLeftEngaged = plan.leaveBrakeEngaged
  unresolvedBrake : metrics.shutdownUnresolvedBrake = plan.unresolvedBrake
  unresolvedActuator : metrics.shutdownUnresolvedActuator = plan.unresolvedActuator

structure ShutdownPlan.TrueOf (plan : ShutdownPlan) (snap : SafetySnapshot) : Prop where
  leaveBrakeEngaged : plan.leaveBrakeEngaged = snap.brakeEngaged
  unresolvedBrake : plan.unresolvedBrake = (snap.brakeEngaged || snap.desiredBrake)
  unresolvedActuator : plan.unresolvedActuator = true ↔ snap.lastActuatorError.isSome = true

def ShutdownForeseen (snap : SafetySnapshot) (inFlight : InFlightActuation)
    (join : InFlightJoin) : Prop :=
  match inFlight, join with
  | .none, _ => True
  | .apply, .succeeded => snap.lastActuatorError = none
  | .apply, _ => False
  | .release, .succeeded =>
    snap.brakeEngaged = false ∧ snap.desiredBrake = false ∧ snap.lastActuatorError = none
  | .release, _ => snap.lastActuatorError.isSome = true

section Plans

variable (m : SafetyMachine) (reason : ShutdownReason)

theorem plan_true_idle : (planShutdown reason m.snapshot .none).TrueOf m.snapshot where
  leaveBrakeEngaged := by simp [planShutdown]
  unresolvedBrake := by simp [planShutdown]
  unresolvedActuator := by
    have fresh : m.snapshot.actuatorFailed = false := rfl
    simp [planShutdown, fresh]

theorem plan_true_applied :
    (planShutdown reason m.snapshot .apply).TrueOf (m.recordActuator .applied).2.snapshot ↔
      m.snapshot.lastActuatorError = none := by
  have fresh : m.snapshot.actuatorFailed = false := rfl
  have cleared : (m.recordActuator .applied).2.snapshot.lastActuatorError = none := rfl
  constructor
  next =>
    intro stands
    simpa [planShutdown, fresh, cleared] using stands.unresolvedActuator
  next =>
    intro clean
    constructor <;> simp [planShutdown, fresh, cleared, clean]

-- The plan says that the brake is left engaged, and the failure says that it is not.
theorem plan_false_applyFailed (error : String) :
    ¬ (planShutdown reason m.snapshot .apply).TrueOf
      (m.recordActuator (.applyFailed error)).2.snapshot := by
  intro stands
  simpa [planShutdown] using stands.leaveBrakeEngaged

theorem plan_true_released :
    (planShutdown reason m.snapshot .release).TrueOf (m.recordActuator .released).2.snapshot ↔
      m.snapshot.brakeEngaged = false ∧ m.snapshot.desiredBrake = false ∧
        m.snapshot.lastActuatorError = none := by
  have fresh : m.snapshot.actuatorFailed = false := rfl
  have cleared : (m.recordActuator .released).2.snapshot.lastActuatorError = none := rfl
  have calm : (m.recordActuator .released).2.snapshot.desiredBrake = false := rfl
  constructor
  next =>
    rintro ⟨leave, brake, actuator⟩
    simp_all [planShutdown]
  next =>
    intro free
    constructor <;> simp_all [planShutdown]

-- A failed release leaves the claim and the wish alone, and there is an error now.
theorem plan_true_releaseFailed (error : String) :
    (planShutdown reason m.snapshot .release).TrueOf
      (m.recordActuator (.releaseFailed error)).2.snapshot ↔
      m.snapshot.lastActuatorError.isSome = true := by
  have fresh : m.snapshot.actuatorFailed = false := rfl
  have failed : (m.recordActuator (.releaseFailed error)).2.snapshot.lastActuatorError =
      some error := rfl
  have desired : (m.recordActuator (.releaseFailed error)).2.snapshot.desiredBrake =
      m.snapshot.desiredBrake := rfl
  constructor
  next =>
    intro stands
    simpa [planShutdown, fresh, failed] using stands.unresolvedActuator
  next =>
    intro faulty
    constructor <;> simp [planShutdown, fresh, failed, desired, faulty]

end Plans

namespace Supervisor

def inFlight (s : Supervisor) : InFlightActuation :=
  .fromTasks s.attempt.slots.brakeTask.isSome s.attempt.slots.releaseTask.isSome

def joined (s : Supervisor) (slot : Slot) (join : InFlightJoin) : SafetyMachine :=
  match join.outcome slot with
  | some outcome => (s.machine.recordActuator outcome).2
  | none => s.machine

section Shutdown

variable (s : Supervisor) (reason : ShutdownReason) (join : InFlightJoin)

theorem joinInFlight_machine {slot : Slot}
    (occupied : (s.attempt.slots.get slot).isSome = true) :
    (s.joinInFlight slot join).machine = s.joined slot join := by
  simp only [joinInFlight, if_pos occupied, joined]
  cases join.outcome slot <;> rfl

theorem shutdown_machine :
    (s.performOrderlyShutdown reason join).2.machine =
      match s.inFlight with
      | .none => s.machine
      | .apply => s.joined .brake join
      | .release => s.joined .release join := by
  cases applying : s.attempt.slots.brakeTask.isSome with
  | true =>
    simp only [performOrderlyShutdown, inFlight, applying]
    exact joinInFlight_machine _ join applying
  | false =>
    cases releasing : s.attempt.slots.releaseTask.isSome with
    | true =>
      simp only [performOrderlyShutdown, inFlight, applying, releasing]
      exact joinInFlight_machine _ join releasing
    | false =>
      simp only [performOrderlyShutdown, inFlight, applying, releasing]
      rfl

theorem shutdown_exports :
    (s.performOrderlyShutdown reason join).2.metrics.Exports
      (s.performOrderlyShutdown reason join).1 := by
  have kept (s : Supervisor) (slot : Slot) (plan : ShutdownPlan)
      (exported : s.metrics.Exports plan) : (s.joinInFlight slot join).metrics.Exports plan := by
    simp only [joinInFlight]
    split_ifs
    next => cases join.outcome slot <;> exact ⟨exported.1, exported.2, exported.3, exported.4⟩
    next => exact exported
  have recorded (plan : ShutdownPlan) : (s.metrics.recordShutdown plan).Exports plan :=
    ⟨rfl, rfl, rfl, rfl⟩
  simp only [performOrderlyShutdown]
  split
  next => exact recorded _
  next => exact kept _ .brake _ (recorded _)
  next => exact kept _ .release _ (recorded _)

end Shutdown

theorem shutdown_report_true_iff (s : Supervisor) (reason : ShutdownReason) (join : InFlightJoin)
    (settled : join ≠ .timedOut) :
    let reply := s.performOrderlyShutdown reason join
    (reply.2.metrics.Exports reply.1 ∧ reply.1.TrueOf reply.2.machine.snapshot) ↔
      ShutdownForeseen s.machine.snapshot s.inFlight join := by
  intro reply
  have exported : reply.2.metrics.Exports reply.1 := s.shutdown_exports reason join
  have planned : reply.1 = planShutdown reason s.machine.snapshot s.inFlight := rfl
  have final : reply.2.machine = _ := s.shutdown_machine reason join
  rw [and_iff_right exported, planned, final]
  cases s.inFlight with
  | none => simpa [ShutdownForeseen] using plan_true_idle s.machine reason
  | apply =>
    cases join with
    | succeeded => exact plan_true_applied s.machine reason
    | failed error | panicked error =>
      exact iff_of_false (plan_false_applyFailed s.machine reason error) id
    | timedOut => contradiction
  | release =>
    cases join with
    | succeeded => exact plan_true_released s.machine reason
    | failed error | panicked error => exact plan_true_releaseFailed s.machine reason error
    | timedOut => contradiction

end Supervisor

namespace Startup

-- A device at its own limit, so nothing is adopted at the start.
def unthrottled : Startup :=
  { leftover .testPolicy with currentW := some 400 }

def overheating : Iteration := .reading (.nvml (.finite 90) (.finite 200))

-- The task records the error as it is displayed.
def deniedError : String :=
  (ActuatorError.commandFailed "sudo denied").toString

theorem failed_apply_reported_engaged :
    let s := unthrottled.run [overheating]
    let reply := s.performOrderlyShutdown .sigterm (.failed deniedError)
    s.inFlight = .apply ∧ reply.2.metrics.shutdownBrakeLeftEngaged = true ∧
      reply.2.metrics.shutdownUnresolvedActuator = false ∧
      reply.2.machine.snapshot.brakeEngaged = false ∧
      reply.2.machine.snapshot.lastActuatorError = some deniedError ∧
      ¬ (reply.2.metrics.Exports reply.1 ∧ reply.1.TrueOf reply.2.machine.snapshot) := by
  intro s reply
  have applying : s.inFlight = .apply := by decide +kernel
  have gauge : reply.2.metrics.shutdownBrakeLeftEngaged = true := by decide +kernel
  have planned : reply.1.leaveBrakeEngaged = true := by decide +kernel
  have unresolved : reply.2.metrics.shutdownUnresolvedActuator = false := by decide +kernel
  have free : reply.2.machine.snapshot.brakeEngaged = false := by decide +kernel
  have error : reply.2.machine.snapshot.lastActuatorError = some deniedError := by
    decide +kernel
  refine ⟨applying, gauge, unresolved, free, error, ?_⟩
  intro report
  have leave := report.2.leaveBrakeEngaged
  rw [planned, free] at leave
  exact absurd leave (by decide)

theorem shutdown_report_applied :
    let s := unthrottled.run [overheating]
    let reply := s.performOrderlyShutdown .sigterm .succeeded
    reply.2.metrics.Exports reply.1 ∧ reply.1.TrueOf reply.2.machine.snapshot := by
  intro s reply
  have foreseen : ShutdownForeseen s.machine.snapshot s.inFlight .succeeded := by
    have applying : s.inFlight = .apply := by decide +kernel
    have clean : s.machine.snapshot.lastActuatorError = none := by decide +kernel
    rw [applying]
    exact clean
  exact (s.shutdown_report_true_iff .sigterm .succeeded (by decide)).mpr foreseen

end Startup

end ThalamicRelay
