import ThalamicRelay.Safety.MachineRuns

set_option autoImplicit false

namespace ThalamicRelay

open Saturating Transition

def ActuatorOutcome.failed : ActuatorOutcome → Bool
  | .applyFailed _ | .releaseFailed _ => true
  | .applied | .released => false

def MachineCall.failed : MachineCall → Bool
  | .evaluate _ => false
  | .recordActuator outcome => outcome.failed

namespace SafetyMachine

-- What is shown: an actuator error lies over the state the policy decided.
def reported (m : SafetyMachine) : SafetyState :=
  if m.lastActuatorError.isSome then .actuatorFailure else m.lastPolicyState

def Clears (m : SafetyMachine) : MachineCall → Prop
  | .evaluate frame => (m.evaluate frame).1.policyState = .healthyReal
  | .recordActuator outcome => outcome = .applied ∨ outcome = .released

def step (m : SafetyMachine) (next : MachineCall) : SafetyMachine :=
  (m.call next).2

structure Overlay (m : SafetyMachine) : Prop where
  base : m.lastPolicyState ≠ .actuatorFailure
  state : m.state = m.reported

-- Whatever a call does first, it ends in compose_and_store on the state it was called in.
theorem call_composed (m : SafetyMachine) (next : MachineCall) :
    ∃ (middle : SafetyMachine) (desired failed : Bool),
      m.call next = middle.composeAndStore desired failed ∧ middle.state = m.state ∧
        middle.transitionsTotal = m.transitionsTotal ∧
        middle.actuatorFailuresTotal =
          if next.failed then increment u64Max m.actuatorFailuresTotal
          else m.actuatorFailuresTotal := by
  cases next with
  | evaluate frame =>
    simp only [call, evaluate, policyFor_eq]
    exact ⟨_, _, _, rfl, rfl, rfl, rfl⟩
  | recordActuator outcome => cases outcome <;> exact ⟨_, _, _, rfl, rfl, rfl, rfl⟩

theorem call_state (m : SafetyMachine) (next : MachineCall) :
    (m.step next).state = (m.step next).reported ∧ (m.call next).1.state = (m.step next).state := by
  obtain ⟨middle, desired, failed, composed, _⟩ := call_composed m next
  rw [step, composed]
  exact ⟨rfl, rfl⟩

theorem call_transition (m : SafetyMachine) (next : MachineCall) :
    (m.call next).1.transition =
      if (m.call next).1.state ≠ m.state then some (m.state, (m.call next).1.state) else none := by
  obtain ⟨middle, desired, failed, composed, prev, _⟩ := call_composed m next
  rw [composed, ← prev]
  simp only [composeAndStore, decide_eq_true_eq, ne_comm]

theorem call_transitionsTotal (m : SafetyMachine) (next : MachineCall) :
    (m.step next).transitionsTotal =
      if (m.call next).1.transition.isSome then increment u64Max m.transitionsTotal
      else m.transitionsTotal := by
  obtain ⟨middle, desired, failed, composed, _, total, _⟩ := call_composed m next
  rw [step, composed, ← total]
  simp only [composeAndStore]
  split <;> simp_all

theorem call_actuatorFailuresTotal (m : SafetyMachine) (next : MachineCall) :
    (m.step next).actuatorFailuresTotal =
      if next.failed then increment u64Max m.actuatorFailuresTotal
      else m.actuatorFailuresTotal := by
  obtain ⟨middle, desired, failed, composed, _, _, total⟩ := call_composed m next
  rw [step, composed, ← total]
  rfl

theorem policyState_healthy {kind : AssessmentKind} {engaged : Bool} :
    kind.policyState engaged = .healthyReal ↔ kind = .ok ∧ engaged = false := by
  cases kind <;> cases engaged <;> decide

-- A healthy verdict never demands a brake, so the code's second test decides nothing.
theorem evaluate_lastActuatorError (m : SafetyMachine) (frame : TelemetryFrame) :
    (m.evaluate frame).2.lastActuatorError =
      if (m.evaluate frame).1.policyState = .healthyReal then none else m.lastActuatorError := by
  have stored : (m.evaluate frame).2.lastActuatorError =
      if (m.kindOf frame).policyState m.brakeEngaged = .healthyReal ∧
        m.demand (m.kindOf frame) m.justReleased = false then none
      else m.lastActuatorError := by
    simp only [evaluate, policyFor_eq, kindOf]
    rfl
  have shown : (m.evaluate frame).1.policyState =
      (m.kindOf frame).policyState m.brakeEngaged := by
    simp only [evaluate, policyFor_eq, kindOf]
    rfl
  have undemanded (healthy : (m.kindOf frame).policyState m.brakeEngaged = .healthyReal) :
      m.demand (m.kindOf frame) m.justReleased = false := by
    obtain ⟨ok, idle⟩ := policyState_healthy.mp healthy
    simp [demand, ok, idle]
  rw [stored, shown]
  by_cases healthy : (m.kindOf frame).policyState m.brakeEngaged = .healthyReal
  next => simp [healthy, undemanded healthy]
  next => simp [healthy]

theorem step_lastActuatorError {m : SafetyMachine} (present : m.lastActuatorError.isSome = true)
    (next : MachineCall) :
    (m.step next).lastActuatorError.isSome = true ↔ ¬ m.Clears next := by
  cases next with
  | evaluate frame =>
    rw [step, call, evaluate_lastActuatorError, Clears]
    split
    next healthy => simp [healthy]
    next other => simp [other, present]
  | recordActuator outcome =>
    cases outcome <;> simp [step, call, recordActuator, composeAndStore, Clears]

theorem overlay_start (policy : SafetyPolicy) (seeded : Bool) : Overlay (start policy seeded) := by
  cases seeded <;> constructor <;> simp [start, withPolicy, seedBrakeApplied, reported]

theorem overlay_step {m : SafetyMachine} (overlay : Overlay m) (next : MachineCall) :
    Overlay (m.step next) where
  base := by
    cases next with
    | evaluate frame =>
      rw [step, call, evaluate_lastPolicyState]
      cases m.kindOf frame <;> cases m.brakeEngaged <;> simp [AssessmentKind.policyState]
    | recordActuator outcome =>
      rw [step, call, recordActuator_lastPolicyState]
      cases outcome <;> simp [overlay.base]
  state := (call_state m next).1

theorem overlay_reachable {policy : SafetyPolicy} {m : SafetyMachine}
    (reachable : (system policy).Reachable m) : Overlay m := by
  refine reachable.invariant Overlay ?_ ?_
  next =>
    rintro m ⟨seeded, rfl⟩
    exact overlay_start policy seeded
  next =>
    rintro m next last _ overlay rfl
    exact overlay_step overlay next

theorem overlay_accounting (policy : SafetyPolicy) (seeded : Bool) (calls : List MachineCall) :
    let m := after policy seeded calls
    m.lastPolicyState ≠ .actuatorFailure ∧
    (m.state = .actuatorFailure ↔ m.lastActuatorError.isSome = true) ∧
    (m.lastActuatorError = none → m.state = m.lastPolicyState) ∧
    (∀ next,
      let reply := m.call next
      reply.1.state = reply.2.state ∧
      (reply.1.transition.isSome = true ↔ reply.1.state ≠ m.state) ∧
      ∀ pair, reply.1.transition = some pair → pair = (m.state, reply.1.state)) ∧
    m.transitionsTotal =
      min (System.tally step (fun m next => (m.call next).1.transition.isSome)
        (start policy seeded) calls) u64Max ∧
    m.actuatorFailuresTotal = min (calls.countP MachineCall.failed) u64Max ∧
    (m.lastActuatorError.isSome = true → ∀ later,
      System.Throughout step (fun m => m.lastActuatorError.isSome = true) m later ↔
        System.EveryStep step (fun m next => ¬ m.Clears next) m later) := by
  intro m
  have run : m = calls.foldl step (start policy seeded) := rfl
  have overlay : Overlay m := overlay_reachable (after_reachable policy seeded calls)
  refine ⟨overlay.base, ?_, ?_, ?_, ?_, ?_, ?_⟩
  next =>
    rw [overlay.state, reported]
    split
    next present => simp [present]
    next absent => simp [absent, overlay.base]
  next =>
    intro absent
    simp [overlay.state, reported, absent]
  next =>
    intro next reply
    refine ⟨(call_state m next).2, ?_, ?_⟩
    next => simp [reply, call_transition m next]
    next =>
      intro pair carried
      rw [call_transition m next] at carried
      split at carried
      next => exact (Option.some.inj carried).symm
      next => contradiction
  next =>
    have initially : (start policy seeded).transitionsTotal = min 0 u64Max := by
      cases seeded <;> rfl
    simpa [run] using counter_tally call_transitionsTotal initially calls
  next =>
    have initially : (start policy seeded).actuatorFailuresTotal = min 0 u64Max := by
      cases seeded <;> rfl
    have counted := counter_tally call_actuatorFailuresTotal initially calls
    simpa [run, System.tally_labels] using counted
  next =>
    intro present later
    have exact (m : SafetyMachine) (next : MachineCall)
        (present : m.lastActuatorError.isSome = true) :
        (m.step next).lastActuatorError.isSome = true ↔ ¬ m.Clears next :=
      step_lastActuatorError present next
    exact System.throughout_iff_everyStep exact present later

end SafetyMachine

end ThalamicRelay
