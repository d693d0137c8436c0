import ThalamicRelay.Safety.Overlay
import ThalamicRelay.Supervisor.Flapping
import ThalamicRelay.Supervisor.Gauges
import ThalamicRelay.Supervisor.Stamping
import ThalamicRelay.Supervisor.Verdicts

set_option autoImplicit false

namespace ThalamicRelay

open Saturating Transition

namespace SafetyMachine

variable {m : SafetyMachine}

def shifts (before after : SafetyMachine) : Nat :=
  if before.reported = after.reported then 0 else 1

theorem shifts_le (before after : SafetyMachine) : shifts before after ≤ 1 := by
  unfold shifts
  split <;> omega

theorem call_shifts (overlay : Overlay m) (next : MachineCall) :
    (if (m.call next).1.transition.isSome then 1 else 0) = shifts m (m.step next) := by
  obtain ⟨state, reply⟩ := call_state m next
  rw [call_transition m next, reply, state, overlay.state, shifts]
  by_cases same : m.reported = (m.step next).reported
  next => simp [same]
  next => simp [same, Ne.symm same]

@[simp] theorem recordActuator_lastActuatorError (m : SafetyMachine) (outcome : ActuatorOutcome) :
    (m.recordActuator outcome).2.lastActuatorError =
      match outcome with
      | .applied | .released => none
      | .applyFailed error | .releaseFailed error => some error := by
  cases outcome <;> rfl

theorem shifts_applied (m : SafetyMachine) :
    shifts m (m.recordActuator .applied).2 ≤ m.lastActuatorError.isSome.toNat := by
  cases failed : m.lastActuatorError with
  | some error => exact shifts_le _ _
  | none => simp [shifts, reported, failed]

theorem evaluate_missing {frame : TelemetryFrame} (missing : m.kindOf frame = .missing) :
    (m.evaluate frame).2.lastActuatorError = m.lastActuatorError ∧
      (m.evaluate frame).2.lastPolicyState = .telemetryMissing ∧
      ((m.evaluate frame).2.snapshot.intent = .apply ↔ m.brakeEngaged = false) ∧
      (m.evaluate frame).2.snapshot.intent ≠ .release ∧
      (m.evaluate frame).1.intent = (m.evaluate frame).2.snapshot.intent := by
  have shown : (m.evaluate frame).1.policyState ≠ .healthyReal := by
    rw [evaluate_policyState, missing]
    simp [AssessmentKind.policyState]
  refine ⟨?_, ?_, ?_, ?_, ?_⟩
  next => rw [evaluate_lastActuatorError, if_neg shown]
  next => rw [evaluate_lastPolicyState, missing]; rfl
  all_goals simp [snapshot_intent, evaluate_intent, missing, demand]
  all_goals cases m.brakeEngaged <;> decide

theorem shifts_missing {frame : TelemetryFrame} (missing : m.kindOf frame = .missing) :
    shifts m (m.evaluate frame).2 ≤
      if m.lastActuatorError.isSome = true ∨ m.lastPolicyState = .telemetryMissing then 0
      else 1 := by
  obtain ⟨error, state, _⟩ := evaluate_missing missing
  split
  next unseen =>
    rcases unseen with failed | same
    next => simp [shifts, reported, error, failed]
    next => simp only [shifts, reported, error, state, same, if_true, Nat.le_refl]
  next => exact shifts_le _ _

-- Only a healthy verdict is seen through an error, and it leaves nothing to do.
theorem shifts_through {frame : TelemetryFrame} (failed : m.lastActuatorError.isSome = true)
    (seen : shifts m (m.evaluate frame).2 ≠ 0) :
    (m.evaluate frame).2.lastActuatorError = none ∧ m.brakeEngaged = false ∧
      (m.evaluate frame).2.snapshot.intent = .none ∧ (m.evaluate frame).1.intent = .none := by
  by_cases healthy : (m.evaluate frame).1.policyState = .healthyReal
  next =>
    have error := evaluate_lastActuatorError m frame
    rw [if_pos healthy] at error
    rw [evaluate_policyState] at healthy
    obtain ⟨ok, idle⟩ := policyState_healthy.mp healthy
    refine ⟨error, idle, ?_, ?_⟩
    next => simp [snapshot_intent, ok, idle, demand, SafetySnapshot.intentFrom]
    next => simp [evaluate_intent, ok, idle, demand, SafetySnapshot.intentFrom]
  next =>
    have error := evaluate_lastActuatorError m frame
    rw [if_neg healthy] at error
    simp [shifts, reported, error, failed] at seen

end SafetyMachine

namespace DispatchState

variable {Task : Type}

def owes (attempt : DispatchState Task) (slot : Slot) : Bool :=
  (attempt.slots.get slot).isSome || decide (attempt.pending = some slot.intent)

end DispatchState

theorem Slot.intent_ne_none (slot : Slot) : slot.intent ≠ .none := by
  cases slot <;> decide

namespace RelayCore

theorem overlay_step {c : RelayCore} (overlay : c.machine.Overlay) (label : CoreStep) :
    (c.step label).machine.Overlay := by
  have called (m : SafetyMachine) (kept : m.Overlay) (next : MachineCall) :
      (m.call next).2.Overlay := SafetyMachine.overlay_step kept next
  cases label with
  | offered frame => exact overlay
  | evaluated frame => exact called _ overlay (.evaluate frame)
  | succeeded slot frame =>
    simp only [step]
    split
    next => exact called _ (called _ overlay (.recordActuator slot.succeeded)) (.evaluate frame)
    next => exact overlay
  | failed slot error =>
    simp only [step]
    split
    next => exact called _ overlay (.recordActuator (slot.failed error))
    next => exact overlay
  | dispatched gateFree due => exact overlay

theorem overlay_steps {policy : SafetyPolicy} {before after : RelayCore}
    (steps : Steps policy before after) (overlay : before.machine.Overlay) :
    after.machine.Overlay := by
  obtain ⟨labels, run⟩ := steps
  refine run.invariant (fun c => c.machine.Overlay) ?_ overlay
  rintro c label after overlay rfl
  exact overlay_step overlay label

end RelayCore

namespace Supervisor

variable {cli : Cli} {policy : SafetyPolicy} {s : Supervisor}

theorem dispatch_owes (s : Supervisor) (gateFree due : Bool) (slot : Slot) :
    (s.dispatch gateFree due).attempt.owes slot = true ↔
      (s.attempt.slots.get slot).isSome = true ∨
        (s.attempt.slots.isEmpty = true ∧ s.machine.snapshot.intent = slot.intent ∧
          (due = true ∨ s.attempt.pending = some slot.intent)) := by
  rw [dispatch_attempt]
  by_cases asked : due = true ∨ s.attempt.pending = some s.machine.snapshot.intent
  next =>
    rw [dispatch_attempted _ _ asked]
    rcases spawnIntent_cases s.machine.snapshot (tryEnter gateFree) s.attempt.slots with
      ⟨same, occupied⟩ | ⟨empty, ⟨same, none⟩ | ⟨same, _⟩ | ⟨task, _, ⟨intent, same⟩ |
        ⟨intent, same⟩⟩⟩
    next => simp [same, DispatchState.owes, occupied]
    next =>
      have unwanted : BrakeIntent.none ≠ slot.intent := Ne.symm slot.intent_ne_none
      simp [same, DispatchState.owes, none, unwanted]
    next =>
      have clear := Slots.isEmpty_iff_get.mp empty slot
      have asks (wanted : s.machine.snapshot.intent = slot.intent) :
          due = true ∨ s.attempt.pending = some slot.intent := wanted ▸ asked
      simpa [same, DispatchState.owes, empty, clear] using asks
    next =>
      have clear := Slots.isEmpty_iff_get.mp empty
      rw [intent] at asked
      cases slot with
      | brake => simp [same, DispatchState.owes, empty, intent, Slots.get, Slot.intent, asked]
      | release => simp [same, DispatchState.owes, intent, Slots.get, Slot.intent]
    next =>
      rw [intent] at asked
      cases slot with
      | brake => simp [same, DispatchState.owes, intent, Slots.get, Slot.intent]
      | release => simp [same, DispatchState.owes, empty, intent, Slots.get, Slot.intent, asked]
  next =>
    have unasked (wanted : s.machine.snapshot.intent = slot.intent) :
        ¬ (due = true ∨ s.attempt.pending = some slot.intent) := wanted ▸ asked
    rw [not_or, Bool.not_eq_true] at asked
    rw [dispatch_idle _ _ asked]
    simp only [DispatchState.owes, reduceCtorEq, decide_false, Bool.or_false]
    tauto

theorem dispatch_waiting_intent {gateFree due : Bool} {intent : BrakeIntent}
    (waits : (s.dispatch gateFree due).attempt.pending = some intent) :
    (s.dispatch gateFree due).attempt.slots.isEmpty = true ∧
      s.machine.snapshot.intent = intent := by
  rw [dispatch_attempt] at waits ⊢
  by_cases asked : due = true ∨ s.attempt.pending = some s.machine.snapshot.intent
  next =>
    rw [dispatch_attempted _ _ asked] at waits ⊢
    rcases spawnIntent_cases s.machine.snapshot (tryEnter gateFree) s.attempt.slots with
      ⟨same, _⟩ | ⟨empty, ⟨same, _⟩ | ⟨same, _⟩ | ⟨_, _, ⟨_, same⟩ | ⟨_, same⟩⟩⟩ <;>
      simp_all
  next =>
    rw [not_or, Bool.not_eq_true] at asked
    rw [dispatch_idle _ _ asked] at waits
    contradiction

/-- What every iteration finds: a refused intent waits only while it is wanted and nothing is in
flight. -/
structure Poised (policy : SafetyPolicy) (s : Supervisor) : Prop where
  core : RelayCore.Inv policy s.core
  overlay : s.machine.Overlay
  waiting : ∀ intent, s.attempt.pending = some intent →
    s.attempt.slots.isEmpty = true ∧ s.machine.snapshot.intent = intent

theorem Poised.claim (poised : Poised policy s) {slot : Slot}
    (owed : s.attempt.owes slot = true) : s.machine.brakeEngaged = !slot.claims := by
  simp only [DispatchState.owes, Bool.or_eq_true, decide_eq_true_eq] at owed
  rcases owed with occupied | waits
  next => exact inflight_claim poised.core occupied
  next => exact SafetyMachine.intent_claim (poised.waiting _ waits).2

theorem Poised.idle (poised : Poised policy s) {slot : Slot}
    (occupied : (s.attempt.slots.get slot).isSome = true) : s.attempt.pending = none := by
  by_contra waits
  obtain ⟨intent, waits⟩ := Option.ne_none_iff_exists'.mp waits
  have empty := (poised.waiting intent waits).1
  rw [Slots.get_isEmpty occupied] at empty
  contradiction

/-- What bounds the transitions that may still come before an iteration without any. -/
def pressure (s : Supervisor) : Nat :=
  (if s.machine.lastPolicyState = .telemetryMissing then 0 else 1) +
    if s.attempt.owes .release = true then 4
    else if s.attempt.owes .brake = true then
      if s.machine.lastActuatorError.isSome = true ∨ s.machine.snapshot.intent ≠ .apply then 6
      else 2
    else if s.machine.lastActuatorError.isSome = true then 1
    else 2

theorem pressure_bounds (s : Supervisor) : 1 ≤ s.pressure ∧ s.pressure ≤ 7 := by
  unfold pressure
  split_ifs <;> omega

theorem pressure_congr {after : Supervisor} (machine : after.machine = s.machine)
    (owes : ∀ slot, after.attempt.owes slot = s.attempt.owes slot) :
    after.pressure = s.pressure := by
  simp only [pressure, machine, owes]

theorem Poised.pressure_brake (poised : Poised policy s)
    (owed : s.attempt.owes .brake = true) :
    s.pressure = (if s.machine.lastPolicyState = .telemetryMissing then 0 else 1) +
      if s.machine.lastActuatorError.isSome = true ∨ s.machine.snapshot.intent ≠ .apply then 6
      else 2 := by
  have alone : ¬ s.attempt.owes .release = true := by
    intro other
    have claims := (poised.claim owed).symm.trans (poised.claim other)
    contradiction
  rw [pressure, if_neg alone, if_pos owed]

theorem pressure_release (owed : s.attempt.owes .release = true) :
    s.pressure = (if s.machine.lastPolicyState = .telemetryMissing then 0 else 1) + 4 := by
  rw [pressure, if_pos owed]

theorem pressure_idle (idle : ∀ slot, s.attempt.owes slot = false) :
    s.pressure = (if s.machine.lastPolicyState = .telemetryMissing then 0 else 1) +
      if s.machine.lastActuatorError.isSome = true then 1 else 2 := by
  simp [pressure, idle]

theorem dispatch_undue (gateFree : Bool)
    (waiting : ∀ intent, s.attempt.pending = some intent →
      s.attempt.slots.isEmpty = true ∧ s.machine.snapshot.intent = intent) (slot : Slot) :
    (s.dispatch gateFree false).attempt.owes slot = s.attempt.owes slot := by
  have waits := waiting slot.intent
  rw [Bool.eq_iff_iff, dispatch_owes]
  simp only [DispatchState.owes, Bool.or_eq_true, decide_eq_true_eq, Bool.false_eq_true, false_or]
  tauto

theorem begin_owes (poised : Poised policy s) (gateFree : Bool) (slot : Slot) :
    (s.begin gateFree).attempt.owes slot = s.attempt.owes slot := by
  simp only [begin, retryPending]
  split
  next =>
    exact dispatch_undue (s := { s with stepCount := s.stepCount + 1 }) gateFree poised.waiting slot
  next => rfl

theorem begin_poised (poised : Poised policy s) (gateFree : Bool) :
    Poised policy (s.begin gateFree) where
  core := RelayCore.inv_steps poised.core (begin_steps s gateFree)
  overlay := by
    rw [begin_machine]
    exact poised.overlay
  waiting := by
    intro intent waits
    rw [begin_machine]
    simp only [begin, retryPending] at waits ⊢
    split_ifs at waits ⊢
    next => exact dispatch_waiting_intent waits
    next => exact poised.waiting intent waits

theorem ready_poised (poised : Poised policy s) (cli : Cli) (input : Iteration) :
    Poised policy (s.ready cli input) := by
  have begun := begin_poised poised input.retryGateFree
  exact ⟨ready_inv poised.core cli input, begun.overlay, begun.waiting⟩

theorem ready_pressure (poised : Poised policy s) (cli : Cli) (input : Iteration) :
    (s.ready cli input).pressure = s.pressure :=
  pressure_congr (ready_machine cli s input) (begin_owes poised input.retryGateFree)

theorem recordActuator_transitions (overlay : s.machine.Overlay) (outcome : ActuatorOutcome) :
    (s.recordActuator outcome).metrics.safetyTransitionsTotal =
      s.metrics.safetyTransitionsTotal +
        s.machine.shifts (s.machine.recordActuator outcome).2 := by
  have shown := SafetyMachine.call_shifts overlay (.recordActuator outcome)
  simp only [SafetyMachine.call, SafetyMachine.step] at shown
  rw [← shown]
  rfl

def judge (s : Supervisor) (frame : TelemetryFrame) : Supervisor :=
  (s.evaluateThenTryPublish frame).2.storeSafety (s.evaluateThenTryPublish frame).1

theorem judge_transitions (overlay : s.machine.Overlay) (frame : TelemetryFrame) :
    (s.judge frame).metrics.safetyTransitionsTotal =
      s.metrics.safetyTransitionsTotal + s.machine.shifts (s.machine.evaluate frame).2 := by
  have shown := SafetyMachine.call_shifts overlay (.evaluate frame)
  simp only [SafetyMachine.call, SafetyMachine.step] at shown
  rw [← shown]
  rfl

-- With both slots free a dispatch that is due owes what is wanted and nothing else.
theorem dispatch_owed {done : Supervisor} (empty : done.attempt.slots = .empty) (gateFree : Bool)
    {slot : Slot} (owed : (done.dispatch gateFree true).attempt.owes slot = true) :
    done.machine.snapshot.intent = slot.intent := by
  rcases (dispatch_owes done gateFree true slot).mp owed with occupied | ⟨_, wanted, _⟩
  next =>
    rw [empty] at occupied
    cases slot <;> contradiction
  next => exact wanted

-- A success has a stamp of its own, which pays for its second transition.
theorem succeeded_paid (cli : Cli) (poised : Poised policy s) {slot : Slot}
    (occupied : (s.attempt.slots.get slot).isSome = true) (reassessment : Acquisition)
    (gateFree : Bool) :
    let after := ((s.emptied slot).reassessAfterActuation cli slot.succeeded
      reassessment).dispatch gateFree true
    5 * after.metrics.safetyTransitionsTotal + after.pressure + 1 ≤
      5 * s.metrics.safetyTransitionsTotal + s.pressure + 10 := by
  let recorded := (s.emptied slot).recordActuator slot.succeeded
  let frame := (reassessment.assess cli s.sampleClock).1
  let done := (s.emptied slot).reassessAfterActuation cli slot.succeeded reassessment
  intro after
  have first : recorded.metrics.safetyTransitionsTotal =
      s.metrics.safetyTransitionsTotal + s.machine.shifts recorded.machine :=
    recordActuator_transitions (s := s.emptied slot) poised.overlay slot.succeeded
  have overlay : recorded.machine.Overlay :=
    SafetyMachine.overlay_step poised.overlay (.recordActuator slot.succeeded)
  have second : done.metrics.safetyTransitionsTotal =
      recorded.metrics.safetyTransitionsTotal + recorded.machine.shifts done.machine :=
    judge_transitions overlay frame
  have total : after.metrics.safetyTransitionsTotal = done.metrics.safetyTransitionsTotal := by
    rw [dispatch_metrics]
  have machine : after.machine = done.machine := dispatch_machine _ _ _
  have reassessed := SafetyMachine.shifts_le recorded.machine done.machine
  have owed : s.attempt.owes slot = true := by simp [DispatchState.owes, occupied]
  have empty : done.attempt.slots = .empty := poised.core.exclusive.take_empty occupied
  have claim : done.machine.brakeEngaged = slot.claims := by
    have kept := SafetyMachine.evaluate_brakeEngaged recorded.machine frame
    cases slot <;> exact kept
  have settled : after.attempt.owes slot = false := by
    by_contra owed
    rw [Bool.not_eq_false] at owed
    have unclaimed := SafetyMachine.intent_claim (dispatch_owed empty gateFree owed)
    simp [claim] at unclaimed
  cases slot with
  | brake =>
    have shown : s.machine.shifts recorded.machine ≤ _ := SafetyMachine.shifts_applied s.machine
    have pressed : after.pressure ≤ 5 := by
      simp only [pressure, settled]
      split_ifs <;> simp_all
    have pressing : 2 + 4 * s.machine.lastActuatorError.isSome.toNat ≤ s.pressure := by
      rw [poised.pressure_brake owed]
      cases s.machine.lastActuatorError.isSome <;> simp only [Bool.toNat] <;> split_ifs <;> simp_all
    have bit := Bool.toNat_le s.machine.lastActuatorError.isSome
    omega
  | release =>
    have shown := SafetyMachine.shifts_le s.machine recorded.machine
    have error : after.machine.lastActuatorError = none := by
      have kept := SafetyMachine.evaluate_lastActuatorError recorded.machine frame
      have clear : recorded.machine.lastActuatorError = none := rfl
      rw [clear, ite_self] at kept
      rw [machine]
      exact kept
    have wanted (applying : after.attempt.owes .brake = true) :
        after.machine.snapshot.intent = .apply := by
      rw [machine]
      exact dispatch_owed empty gateFree applying
    have pressed : after.pressure ≤ 3 := by
      simp only [pressure, settled, error]
      split_ifs <;> simp_all
    rw [pressure_release owed]
    omega

theorem pressure_least (s : Supervisor) :
    (if s.machine.lastPolicyState = .telemetryMissing then 0 else 1) +
      (if s.machine.lastActuatorError.isSome = true then 1 else 2) ≤ s.pressure := by
  unfold pressure
  split_ifs <;> simp_all

theorem quiet_paid (poised : Poised policy s) (frame : TelemetryFrame) (gateFree : Bool) :
    let after := (s.note (.offered frame)).dispatch gateFree false
    after.metrics.safetyTransitionsTotal = s.metrics.safetyTransitionsTotal ∧
      after.pressure = s.pressure := by
  intro after
  refine ⟨by rw [dispatch_metrics]; rfl, pressure_congr (dispatch_machine _ _ _) fun slot => ?_⟩
  exact dispatch_undue (s := s.note (.offered frame)) gateFree poised.waiting slot

theorem dispatch_irregular {stepCount : Nat} (irregular : cadence stepCount = 0)
    {prior current : BrakeIntent} {failed : Bool} :
    shouldDispatchIntent stepCount prior current failed = true ↔
      current ≠ .none ∧ current ≠ prior := by
  unfold cadence at irregular
  split at irregular
  next => contradiction
  next between =>
    simp only [shouldDispatchIntent, between, decide_false, and_false]
    split_ifs <;> simp_all

theorem missing_intent {m : SafetyMachine} (missing : m.lastPolicyState = .telemetryMissing)
    (free : m.brakeEngaged = false) : m.snapshot.intent = .apply := by
  simp [SafetyMachine.snapshot_intent, SafetyMachine.desiredFromLastPolicy, missing, free,
    SafetySnapshot.intentFrom]

section Missing

variable {frame : TelemetryFrame} {gateFree due : Bool}

theorem missing_released (missing : s.machine.kindOf frame = .missing)
    (owed : ((s.judge frame).dispatch gateFree due).attempt.owes .release = true) :
    s.attempt.owes .release = true := by
  obtain ⟨_, _, _, unwanted, _⟩ := SafetyMachine.evaluate_missing missing
  rcases (dispatch_owes (s.judge frame) gateFree due .release).mp owed with
    occupied | ⟨_, wanted, _⟩
  next => exact Bool.or_eq_true_iff.mpr (.inl occupied)
  next => exact absurd wanted unwanted

theorem missing_applied (missing : s.machine.kindOf frame = .missing)
    (changed : due = true → s.machine.snapshot.intent ≠ .apply)
    (owed : ((s.judge frame).dispatch gateFree due).attempt.owes .brake = true) :
    s.attempt.owes .brake = true ∨
      (s.machine.brakeEngaged = false ∧ s.machine.snapshot.intent ≠ .apply) := by
  obtain ⟨_, _, apply, _, _⟩ := SafetyMachine.evaluate_missing missing
  rcases (dispatch_owes (s.judge frame) gateFree due .brake).mp owed with
    occupied | ⟨_, wanted, asked | waits⟩
  next => exact .inl (Bool.or_eq_true_iff.mpr (.inl occupied))
  next => exact .inr ⟨apply.mp wanted, changed asked⟩
  next => exact .inl (Bool.or_eq_true_iff.mpr (.inr (decide_eq_true waits)))

-- The last summand is what the verdict's own transition costs.
theorem missing_pressed (poised : Poised policy s) (missing : s.machine.kindOf frame = .missing)
    (changed : due = true → s.machine.snapshot.intent ≠ .apply) :
    ((s.judge frame).dispatch gateFree due).pressure +
        (if s.machine.lastActuatorError.isSome = true ∨
            s.machine.lastPolicyState = .telemetryMissing then 0 else 5) ≤
      s.pressure + 4 := by
  let after := (s.judge frame).dispatch gateFree due
  have machine : after.machine = (s.machine.evaluate frame).2 := dispatch_machine _ _ _
  obtain ⟨error, state, apply, _, _⟩ := SafetyMachine.evaluate_missing missing
  rw [← machine] at error state apply
  have least := s.pressure_least
  show after.pressure + _ ≤ _
  by_cases releasing : after.attempt.owes .release = true
  next =>
    rw [pressure_release releasing, pressure_release (missing_released missing releasing), state]
    split_ifs <;> simp_all
  next =>
    by_cases applying : after.attempt.owes .brake = true
    next =>
      have applied := missing_applied missing changed applying
      have free : s.machine.brakeEngaged = false := by
        rcases applied with owed | ⟨free, _⟩
        next => exact poised.claim owed
        next => exact free
      have demanded : after.pressure =
          if s.machine.lastActuatorError.isSome = true then 6 else 2 := by
        simp [pressure, releasing, applying, state, error, apply.mpr free]
      rw [demanded]
      rcases applied with owed | ⟨_, unwanted⟩
      next =>
        rw [poised.pressure_brake owed]
        split_ifs <;> simp_all
      next =>
        have known : s.machine.lastPolicyState ≠ .telemetryMissing :=
          fun missing => unwanted (missing_intent missing free)
        simp only [known, if_false, or_false] at least ⊢
        split_ifs at least ⊢ <;> omega
    next =>
      have demanded : after.pressure =
          if s.machine.lastActuatorError.isSome = true then 1 else 2 := by
        simp [pressure, releasing, applying, state, error]
      rw [demanded]
      split_ifs at least ⊢ <;> simp_all

theorem missing_paid (poised : Poised policy s) (missing : s.machine.kindOf frame = .missing)
    (changed : due = true → s.machine.snapshot.intent ≠ .apply) :
    let after := (s.judge frame).dispatch gateFree due
    5 * after.metrics.safetyTransitionsTotal + after.pressure + 1 ≤
      5 * s.metrics.safetyTransitionsTotal + s.pressure + 5 := by
  intro after
  have pressed : after.pressure + _ ≤ _ := missing_pressed poised missing changed
  have seen := SafetyMachine.shifts_missing missing
  have total : after.metrics.safetyTransitionsTotal =
      s.metrics.safetyTransitionsTotal + s.machine.shifts (s.machine.evaluate frame).2 := by
    rw [dispatch_metrics, judge_transitions poised.overlay]
  split at pressed
  next unseen =>
    rw [if_pos unseen] at seen
    omega
  next shown =>
    rw [if_neg shown] at seen
    omega

end Missing

theorem Poised.pressure_owed (poised : Poised policy s) {slot : Slot}
    (owed : s.attempt.owes slot = true) :
    (if s.machine.lastPolicyState = .telemetryMissing then 0 else 1) + 2 ≤ s.pressure := by
  cases slot with
  | brake =>
    rw [poised.pressure_brake owed]
    split_ifs <;> omega
  | release =>
    rw [pressure_release owed]
    omega

section Failure

variable {slot : Slot}

def defeated (s : Supervisor) (slot : Slot) (error : String) : Supervisor :=
  (s.emptied slot).recordActuator (slot.failed error)

theorem defeated_attempt (poised : Poised policy s)
    (occupied : (s.attempt.slots.get slot).isSome = true) (error : String) :
    (s.defeated slot error).attempt = { slots := .empty, pending := none } := by
  have slots : s.attempt.slots.take slot = .empty := poised.core.exclusive.take_empty occupied
  have pending := poised.idle occupied
  simp only [defeated, recordActuator, emptied, note, storeSafety, slots, pending]

theorem defeated_poised (poised : Poised policy s)
    (occupied : (s.attempt.slots.get slot).isSome = true) (error : String) :
    Poised policy (s.defeated slot error) where
  core := RelayCore.inv_failed poised.core error occupied
  overlay := SafetyMachine.overlay_step poised.overlay (.recordActuator (slot.failed error))
  waiting := by
    intro intent waits
    rw [defeated_attempt poised occupied] at waits
    contradiction

theorem defeated_machine (poised : Poised policy s)
    (occupied : (s.attempt.slots.get slot).isSome = true) (error : String) :
    (s.defeated slot error).machine.lastActuatorError.isSome = true ∧
      (s.defeated slot error).machine.lastPolicyState = s.machine.lastPolicyState ∧
      (s.defeated slot error).machine.brakeEngaged = s.machine.brakeEngaged ∧
      (s.defeated slot error).machine.snapshot.intent = s.machine.snapshot.intent := by
  have claim := inflight_claim poised.core occupied
  cases slot with
  | release => exact ⟨rfl, rfl, rfl, rfl⟩
  | brake =>
    have free : s.machine.brakeEngaged = false := claim
    have machine : (s.defeated .brake error).machine =
        (s.machine.recordActuator (.applyFailed error)).2 := rfl
    have desired : (s.defeated .brake error).machine.desiredFromLastPolicy =
        s.machine.desiredFromLastPolicy := by
      simp [machine, SafetyMachine.desiredFromLastPolicy, free]
    have claimed : (s.defeated .brake error).machine.brakeEngaged = s.machine.brakeEngaged := by
      simp [machine, free]
    refine ⟨rfl, rfl, claimed, ?_⟩
    rw [SafetyMachine.snapshot_intent, SafetyMachine.snapshot_intent, desired, claimed]

theorem defeated_transitions (poised : Poised policy s) (slot : Slot) (error : String) :
    (s.defeated slot error).metrics.safetyTransitionsTotal ≤
      s.metrics.safetyTransitionsTotal + 1 := by
  have total := recordActuator_transitions (s := s.emptied slot) poised.overlay (slot.failed error)
  have once := SafetyMachine.shifts_le s.machine (s.machine.recordActuator (slot.failed error)).2
  exact total.trans_le (Nat.add_le_add_left once _)

theorem defeated_quiet (poised : Poised policy s)
    (occupied : (s.attempt.slots.get slot).isSome = true) (error : String)
    (frame : TelemetryFrame) (gateFree : Bool) :
    let after := ((s.defeated slot error).note (.offered frame)).dispatch gateFree false
    5 * after.metrics.safetyTransitionsTotal + after.pressure + 1 ≤
      5 * s.metrics.safetyTransitionsTotal + s.pressure + 5 := by
  intro after
  obtain ⟨total, pressed⟩ := quiet_paid (defeated_poised poised occupied error) frame gateFree
  obtain ⟨failed, state, _⟩ := defeated_machine poised occupied error
  have once := defeated_transitions poised slot error
  have owed : s.attempt.owes slot = true := by simp [DispatchState.owes, occupied]
  have pressing := poised.pressure_owed owed
  have idle : (s.defeated slot error).pressure = _ := pressure_idle fun other => by
    rw [defeated_attempt poised occupied]
    cases other <;> rfl
  rw [if_pos failed, state] at idle
  simp only [after]
  omega

theorem defeated_owed (poised : Poised policy s)
    (occupied : (s.attempt.slots.get slot).isSome = true) (error : String)
    (frame : TelemetryFrame) (gateFree due : Bool) {other : Slot}
    (owed : (((s.defeated slot error).judge frame).dispatch gateFree due).attempt.owes other =
      true) :
    due = true ∧
      ((s.defeated slot error).machine.evaluate frame).2.snapshot.intent = other.intent := by
  have attempt : ((s.defeated slot error).judge frame).attempt = _ :=
    defeated_attempt poised occupied error
  have found := (dispatch_owes _ gateFree due other).mp owed
  rw [attempt] at found
  rcases found with stray | ⟨_, wanted, asked | waits⟩
  next => cases other <;> contradiction
  next => exact ⟨asked, wanted⟩
  next => contradiction

theorem defeated_missing (poised : Poised policy s)
    (occupied : (s.attempt.slots.get slot).isSome = true) (error : String)
    {frame : TelemetryFrame}
    (missing : (s.defeated slot error).machine.kindOf frame = .missing) (gateFree : Bool)
    {due : Bool} (changed : due = true → (s.defeated slot error).machine.snapshot.intent ≠ .apply) :
    let after := ((s.defeated slot error).judge frame).dispatch gateFree due
    5 * after.metrics.safetyTransitionsTotal + after.pressure + 1 ≤
      5 * s.metrics.safetyTransitionsTotal + s.pressure + 5 := by
  intro after
  obtain ⟨failed, known, claimed, intended⟩ := defeated_machine poised occupied error
  obtain ⟨kept, state, apply, release, _⟩ := SafetyMachine.evaluate_missing missing
  have seen := SafetyMachine.shifts_missing missing
  have once := defeated_transitions poised slot error
  have owed : s.attempt.owes slot = true := by simp [DispatchState.owes, occupied]
  have pressing := poised.pressure_owed owed
  have total : after.metrics.safetyTransitionsTotal =
      (s.defeated slot error).metrics.safetyTransitionsTotal +
        (s.defeated slot error).machine.shifts
          ((s.defeated slot error).machine.evaluate frame).2 := by
    rw [dispatch_metrics, judge_transitions (defeated_poised poised occupied error).overlay]
  have machine : after.machine = ((s.defeated slot error).machine.evaluate frame).2 :=
    dispatch_machine _ _ _
  have owes (other : Slot) (owing : after.attempt.owes other = true) :=
    defeated_owed poised occupied error frame gateFree due owing
  rw [if_pos (.inl failed)] at seen
  rw [← machine] at kept state apply release owes
  have settled : ¬ after.attempt.owes .release = true := fun owing => release (owes _ owing).2
  by_cases applying : after.attempt.owes .brake = true
  next =>
    obtain ⟨asked, wanted⟩ := owes _ applying
    have free : s.machine.brakeEngaged = false := claimed ▸ apply.mp wanted
    have unwanted : s.machine.snapshot.intent ≠ .apply := intended ▸ changed asked
    have unknown : s.machine.lastPolicyState ≠ .telemetryMissing :=
      fun missing => unwanted (missing_intent missing free)
    have braking : slot = .brake := by
      cases slot with
      | brake => rfl
      | release => exact absurd (free.symm.trans (poised.claim owed)) (by decide)
    have pressed : after.pressure = 6 := by
      simp [pressure, settled, applying, state, kept, failed]
    rw [poised.pressure_brake (braking ▸ owed), if_neg unknown, if_pos (.inr unwanted)]
    omega
  next =>
    have pressed : after.pressure = 1 := by
      simp [pressure, settled, applying, state, kept, failed]
    omega

theorem defeated_judged (poised : Poised policy s)
    (occupied : (s.attempt.slots.get slot).isSome = true) (error : String)
    (frame : TelemetryFrame) (gateFree due : Bool) :
    let after := ((s.defeated slot error).judge frame).dispatch gateFree due
    5 * after.metrics.safetyTransitionsTotal + after.pressure + 1 ≤
      5 * s.metrics.safetyTransitionsTotal + s.pressure + 13 := by
  intro after
  obtain ⟨failed, _⟩ := defeated_machine poised occupied error
  have once := defeated_transitions poised slot error
  have least := s.pressure_bounds
  have most := after.pressure_bounds
  have total : after.metrics.safetyTransitionsTotal =
      (s.defeated slot error).metrics.safetyTransitionsTotal +
        (s.defeated slot error).machine.shifts
          ((s.defeated slot error).machine.evaluate frame).2 := by
    rw [dispatch_metrics, judge_transitions (defeated_poised poised occupied error).overlay]
  have again := SafetyMachine.shifts_le (s.defeated slot error).machine
    ((s.defeated slot error).machine.evaluate frame).2
  by_cases seen : (s.defeated slot error).machine.shifts
      ((s.defeated slot error).machine.evaluate frame).2 = 0
  next => omega
  next =>
    obtain ⟨_, _, nothing, _⟩ := SafetyMachine.shifts_through failed seen
    have idle (other : Slot) : after.attempt.owes other = false := by
      by_contra owing
      rw [Bool.not_eq_false] at owing
      have wanted := (defeated_owed poised occupied error frame gateFree due owing).2
      exact other.intent_ne_none (wanted.symm.trans nothing)
    have pressed := after.pressure_idle idle
    split_ifs at pressed <;> omega

end Failure

theorem judged_paid (poised : Poised policy s) (frame : TelemetryFrame) (gateFree due : Bool) :
    let after := (s.judge frame).dispatch gateFree due
    5 * after.metrics.safetyTransitionsTotal + after.pressure + 1 ≤
      5 * s.metrics.safetyTransitionsTotal + s.pressure + 13 := by
  intro after
  have least := s.pressure_bounds
  have most := after.pressure_bounds
  have total : after.metrics.safetyTransitionsTotal =
      s.metrics.safetyTransitionsTotal + s.machine.shifts (s.machine.evaluate frame).2 := by
    rw [dispatch_metrics, judge_transitions poised.overlay]
  have once := SafetyMachine.shifts_le s.machine (s.machine.evaluate frame).2
  omega

/-- What the second half of an iteration that joined no success does: it judges its frame, between
the regular evaluations only as missing, or offers it unjudged. -/
inductive Ticked (count : Nat) (done : Supervisor) (frame : TelemetryFrame) (gateFree : Bool) :
    Supervisor → Prop
  | regular (due : Bool) (cadenced : cadence count = 1) :
      Ticked count done frame gateFree ((done.judge frame).dispatch gateFree due)
  | lost (due : Bool) (missing : done.machine.kindOf frame = .missing)
      (changed : due = true → done.machine.snapshot.intent ≠ .apply) :
      Ticked count done frame gateFree ((done.judge frame).dispatch gateFree due)
  | quiet : Ticked count done frame gateFree
      ((done.note (.offered frame)).dispatch gateFree false)

theorem evaluateTick_ticked (cli : Cli) (done : Supervisor) {acquisition : Acquisition}
    (genuine : acquisition.FromBridge) (clock : SampleClock) (flags : TickFlags)
    (fresh : flags.evaluatedThisIter = false) (undue : flags.dispatchDue = false)
    (gateFree : Bool) :
    let frame := (acquisition.assess cli clock).1
    let tick := done.evaluateTick flags frame
    Ticked done.stepCount done frame gateFree (tick.1.dispatch gateFree tick.2.dispatchDue) := by
  intro frame tick
  by_cases evaluates : shouldEvaluateTick done.stepCount frame.source = true
  next =>
    let due := shouldDispatchIntent done.stepCount done.machine.snapshot.intent
      (done.machine.evaluate frame).1.intent flags.actuationFailedThisTick
    have judged : tick = (done.judge frame, { flags with dispatchDue := due }) := by
      simp only [tick, evaluateTick, fresh, Bool.false_eq_true, if_false, if_pos evaluates]
      rfl
    rw [judged]
    by_cases regular : cadence done.stepCount = 1
    next => exact .regular _ regular
    next =>
      have irregular : cadence done.stepCount = 0 := by
        unfold cadence at regular ⊢
        split_ifs at regular ⊢ <;> simp_all
      have source : frame.source = .nvmlUnavailable := by
        simp only [shouldEvaluateTick, decide_eq_true_eq] at evaluates
        unfold cadence at irregular
        split_ifs at irregular
        tauto
      have missing := acquisition.unavailable_kind cli genuine done.machine clock source
      refine .lost _ missing ?_
      intro due prior
      obtain ⟨wanted, changed⟩ := (dispatch_irregular irregular).mp due
      obtain ⟨_, _, _, release, same⟩ := SafetyMachine.evaluate_missing missing
      rw [same] at wanted changed
      have applies (intent : BrakeIntent) (some : intent ≠ .none) (kept : intent ≠ .release) :
          intent = .apply := by
        cases intent <;> simp_all
      exact changed ((applies _ wanted release).trans prior.symm)
  next =>
    have unjudged : tick = (done.note (.offered frame), flags) := by
      simp only [tick, evaluateTick, fresh, Bool.false_eq_true, if_false, if_neg evaluates]
    rw [unjudged, undue]
    exact .quiet

theorem Poised.ticked_paid {count : Nat} {frame : TelemetryFrame} {gateFree : Bool}
    {after : Supervisor} (poised : Poised policy s) (ticked : Ticked count s frame gateFree after) :
    5 * after.metrics.safetyTransitionsTotal + after.pressure + 1 ≤
      5 * s.metrics.safetyTransitionsTotal + s.pressure + 5 + 8 * cadence count := by
  cases ticked with
  | regular due cadenced =>
    have paid := judged_paid poised frame gateFree due
    rw [cadenced]
    exact paid
  | lost due missing changed =>
    exact (missing_paid poised missing changed).trans (Nat.le_add_right _ _)
  | quiet =>
    obtain ⟨total, pressed⟩ := quiet_paid poised frame gateFree
    rw [total, pressed]
    omega

theorem Poised.defeated_paid {slot : Slot} {error : String} {count : Nat} {frame : TelemetryFrame}
    {gateFree : Bool} {after : Supervisor} (poised : Poised policy s)
    (occupied : (s.attempt.slots.get slot).isSome = true)
    (ticked : Ticked count (s.defeated slot error) frame gateFree after) :
    5 * after.metrics.safetyTransitionsTotal + after.pressure + 1 ≤
      5 * s.metrics.safetyTransitionsTotal + s.pressure + 5 + 8 * cadence count := by
  cases ticked with
  | regular due cadenced =>
    have paid := defeated_judged poised occupied error frame gateFree due
    rw [cadenced]
    exact paid
  | lost due missing changed =>
    have paid := defeated_missing poised occupied error missing gateFree changed
    exact paid.trans (Nat.le_add_right _ _)
  | quiet =>
    have paid := defeated_quiet poised occupied error frame gateFree
    exact paid.trans (Nat.le_add_right _ _)

theorem ready_batch (cli : Cli) (s : Supervisor) (input : Iteration) :
    (s.ready cli input).sampleClock.nextBatchId = s.sampleClock.nextBatchId + 1 :=
  congrArg (·.nextBatchId + 1) (begin_sampleClock s input.retryGateFree)

-- The frame of a success was stamped too, and the other frame of its iteration is dropped.
theorem joined_paid (poised : Poised policy s) {input : Iteration}
    (genuine : input.acquisition.FromBridge) {done : Supervisor × TickFlags}
    (joined : Joined cli s input done) :
    let tick := done.1.evaluateTick done.2 (s.telemetry cli input)
    let after := tick.1.dispatch input.dispatchGateFree tick.2.dispatchDue
    5 * after.metrics.safetyTransitionsTotal + after.pressure + 5 * s.sampleClock.nextBatchId + 1 ≤
      5 * (s.ready cli input).metrics.safetyTransitionsTotal + (s.ready cli input).pressure +
        5 * done.1.sampleClock.nextBatchId + 8 * cadence (s.stepCount + 1) := by
  have ready := ready_poised poised cli input
  have stamped := ready_batch cli s input
  have count := ready_stepCount cli s input
  cases joined with
  | nothing idle =>
    have ticked := evaluateTick_ticked cli (s.ready cli input) genuine
      (s.begin input.retryGateFree).sampleClock .clear rfl rfl input.dispatchGateFree
    have paid := ready.ticked_paid ticked
    rw [count] at paid
    simp only [telemetry, acquire]
    omega
  | succeeded slot occupied finished =>
    have paid := succeeded_paid cli ready occupied (input.reassessment slot) input.dispatchGateFree
    let reassessed := ((s.ready cli input).emptied slot).reassessAfterActuation cli slot.succeeded
      (input.reassessment slot)
    have unjudged : reassessed.evaluateTick
        { TickFlags.clear with dispatchDue := true, evaluatedThisIter := true }
          (s.telemetry cli input) =
        (reassessed, { TickFlags.clear with dispatchDue := true, evaluatedThisIter := true }) := rfl
    have again : reassessed.sampleClock.nextBatchId =
        (s.ready cli input).sampleClock.nextBatchId + 1 := rfl
    simp only [reassessed] at unjudged again
    rw [unjudged, again, stamped]
    simp only at paid ⊢
    omega
  | failed slot result error occupied finished failure =>
    have ticked := evaluateTick_ticked cli ((s.ready cli input).defeated slot error) genuine
      (s.begin input.retryGateFree).sampleClock
      { TickFlags.clear with actuationFailedThisTick := true } rfl rfl input.dispatchGateFree
    have counted : ((s.ready cli input).defeated slot error).stepCount = s.stepCount + 1 := count
    rw [counted] at ticked
    have paid := ready.defeated_paid occupied ticked
    have unstamped : (((s.ready cli input).emptied slot).recordActuator
        (slot.failed error)).sampleClock.nextBatchId = s.sampleClock.nextBatchId + 1 := stamped
    rw [unstamped]
    simp only [telemetry, acquire]
    simp only [defeated] at paid
    omega

theorem iterate_paid (cli : Cli) (poised : Poised policy s) {input : Iteration}
    (genuine : input.acquisition.FromBridge) :
    let after := s.iterate cli input
    5 * after.metrics.safetyTransitionsTotal + after.pressure + 5 * s.sampleClock.nextBatchId + 1 ≤
      5 * s.metrics.safetyTransitionsTotal + s.pressure + 5 * after.sampleClock.nextBatchId +
        8 * cadence (s.stepCount + 1) := by
  intro after
  have paid := joined_paid poised genuine (completeFinished_joined poised.core cli input)
  have clock : after.sampleClock =
      ((s.ready cli input).completeFinished cli input).1.sampleClock := by
    simp only [after, iterate_eq, recordAcquired, dispatch_sampleClock, evaluateTick_sampleClock]
  have begun : (s.ready cli input).metrics = s.metrics := begin_metrics s input.retryGateFree
  rw [begun, ready_pressure poised cli input, ← clock] at paid
  exact paid

theorem iterate_poised (poised : Poised policy s) (cli : Cli) (input : Iteration) :
    Poised policy (s.iterate cli input) where
  core := RelayCore.inv_steps poised.core (iterate_steps s input)
  overlay :=
    have steps : RelayCore.Steps policy s.core (s.iterate cli input).core := iterate_steps s input
    RelayCore.overlay_steps steps poised.overlay
  waiting := by
    intro intent waits
    rw [iterate_eq] at waits ⊢
    simp only [recordAcquired, dispatch_machine] at waits ⊢
    exact dispatch_waiting_intent waits

end Supervisor

end ThalamicRelay
