import ThalamicRelay.Supervisor.Invariants

set_option autoImplicit false

namespace ThalamicRelay

def Iteration.finished (input : Iteration) : Slot → Option TaskResult
  | .brake => input.brakeFinished
  | .release => input.releaseFinished

def Iteration.reassessment (input : Iteration) : Slot → Acquisition
  | .brake => input.brakeReassessment
  | .release => input.releaseReassessment

namespace Supervisor

variable {cli : Cli}

@[simp] theorem dispatch_machine (s : Supervisor) (gateFree due : Bool) :
    (s.dispatch gateFree due).machine = s.machine := by
  simp only [dispatch]
  split <;> rfl

@[simp] theorem dispatch_attempt (s : Supervisor) (gateFree due : Bool) :
    (s.dispatch gateFree due).attempt =
      (dispatchDueOrPending s.machine.snapshot (tryEnter gateFree) due s.attempt).2 := by
  simp only [dispatch]
  split <;> rfl

@[simp] theorem dispatch_lastKind (s : Supervisor) (gateFree due : Bool) :
    lastKind (s.dispatch gateFree due).log = lastKind s.log := by
  simp only [dispatch]
  split <;> rfl

@[simp] theorem begin_machine (s : Supervisor) (gateFree : Bool) :
    (s.begin gateFree).machine = s.machine := by
  simp only [begin, retryPending]
  split
  · exact dispatch_machine _ _ _
  · rfl

theorem dispatch_nothing {s : Supervisor} (gateFree : Bool) (pending : s.attempt.pending = none) :
    s.dispatch gateFree false = s := by
  have idle : dispatchDueOrPending s.machine.snapshot (tryEnter gateFree) false s.attempt =
      (none, s.attempt) := by
    rw [dispatch_idle s.machine.snapshot (tryEnter gateFree) ⟨rfl, by simp [pending]⟩, ← pending]
  simp only [dispatch, idle]
  rfl

theorem begin_nothing {s : Supervisor} (gateFree : Bool) (pending : s.attempt.pending = none) :
    s.begin gateFree = { s with stepCount := s.stepCount + 1 } := by
  simp only [begin, retryPending]
  rw [if_neg]
  simp [pending]

theorem dispatch_slots_occupied {s : Supervisor} (gateFree due : Bool)
    (occupied : s.attempt.slots.isEmpty = false) :
    (s.dispatch gateFree due).attempt.slots = s.attempt.slots := by
  rw [dispatch_attempt]
  rcases dispatch_slots s.machine.snapshot (tryEnter gateFree) due s.attempt with
    ⟨_, same⟩ | ⟨_, empty, _⟩
  · exact same
  · rw [occupied] at empty
    exact absurd empty (by decide)

theorem begin_slots_occupied {s : Supervisor} (gateFree : Bool)
    (occupied : s.attempt.slots.isEmpty = false) :
    (s.begin gateFree).attempt.slots = s.attempt.slots := by
  simp only [begin, retryPending]
  split
  · exact dispatch_slots_occupied _ _ occupied
  · rfl

theorem completeActuation_none {slot : Slot} (succeeded : ActuatorOutcome)
    (failed : String → ActuatorOutcome) {s : Supervisor} (flags : TickFlags)
    {finished : Option TaskResult} (reassessment : Acquisition)
    (none : s.attempt.slots.get slot = none ∨ finished = none) :
    completeActuation cli slot succeeded failed s flags finished reassessment = (s, flags) := by
  simp only [completeActuation]
  rcases none with idle | running
  · rw [idle]
  · rw [running]
    cases s.attempt.slots.get slot <;> rfl

@[simp] theorem evaluateTick_attempt (s : Supervisor) (flags : TickFlags)
    (telemetry : TelemetryFrame) : (s.evaluateTick flags telemetry).1.attempt = s.attempt := by
  simp only [evaluateTick]
  split
  · rfl
  · split <;> rfl

@[simp] theorem evaluateTick_brakeEngaged (s : Supervisor) (flags : TickFlags)
    (telemetry : TelemetryFrame) :
    (s.evaluateTick flags telemetry).1.machine.brakeEngaged = s.machine.brakeEngaged := by
  simp only [evaluateTick]
  split
  · rfl
  · split
    · exact SafetyMachine.evaluate_brakeEngaged _ _
    · rfl

theorem completeActuation_ok {slot : Slot} (succeeded : ActuatorOutcome)
    (failed : String → ActuatorOutcome) {s : Supervisor} (flags : TickFlags)
    (reassessment : Acquisition) (occupied : (s.attempt.slots.get slot).isSome = true) :
    completeActuation cli slot succeeded failed s flags (some .ok) reassessment =
      ((s.emptied slot).reassessAfterActuation cli succeeded reassessment,
        { flags with dispatchDue := true, evaluatedThisIter := true }) := by
  obtain ⟨task, occupied⟩ := Option.isSome_iff_exists.mp occupied
  simp only [completeActuation, occupied]

theorem completeActuation_failure {slot : Slot} (succeeded : ActuatorOutcome)
    (failed : String → ActuatorOutcome) {s : Supervisor} (flags : TickFlags)
    (reassessment : Acquisition) (occupied : (s.attempt.slots.get slot).isSome = true)
    {result : TaskResult} {error : String} (failure : result.failure = some error) :
    completeActuation cli slot succeeded failed s flags (some result) reassessment =
      ((s.emptied slot).recordActuator (failed error),
        { flags with actuationFailedThisTick := true }) := by
  obtain ⟨task, occupied⟩ := Option.isSome_iff_exists.mp occupied
  cases result with
  | ok => simp [TaskResult.failure] at failure
  | err _ | panicked _ =>
    obtain rfl := Option.some.inj failure
    simp only [completeActuation, occupied]

theorem completeBrake_releaseTask (cli : Cli) (s : Supervisor) (flags : TickFlags)
    (input : Iteration) :
    (s.completeBrake cli flags input).1.attempt.slots.releaseTask =
      s.attempt.slots.releaseTask := by
  simp only [completeBrake, completeActuation]
  split
  next result _ _ => cases result <;> rfl
  next => rfl

theorem completeFinished_idle (cli : Cli) {s : Supervisor} (input : Iteration)
    (idle : ∀ slot, s.attempt.slots.get slot = none ∨ input.finished slot = none) :
    s.completeFinished cli input = (s, .clear) := by
  have brake : s.completeBrake cli .clear input = (s, .clear) :=
    completeActuation_none _ _ _ _ (idle .brake)
  have release : s.completeRelease cli .clear input = (s, .clear) :=
    completeActuation_none _ _ _ _ (idle .release)
  simp only [completeFinished, brake, release]

-- At most one slot is occupied, so at most one completion block does anything.
theorem completeFinished_slot {s : Supervisor} (input : Iteration) {slot : Slot}
    (exclusive : s.attempt.slots.Exclusive)
    (occupied : (s.attempt.slots.get slot).isSome = true) :
    s.completeFinished cli input =
      completeActuation cli slot slot.succeeded slot.failed s .clear (input.finished slot)
        (input.reassessment slot) := by
  cases slot with
  | brake =>
    have idle := exclusive.releaseTask occupied
    have release := completeBrake_releaseTask cli s .clear input
    rw [idle] at release
    exact completeActuation_none _ _ _ _ (.inl release)
  | release =>
    have idle := exclusive.brakeTask occupied
    have brake : s.completeBrake cli .clear input = (s, .clear) :=
      completeActuation_none _ _ _ _ (.inl idle)
    simp only [completeFinished, brake]
    rfl

/-- The state in which an iteration looks for finished workers. -/
def ready (cli : Cli) (s : Supervisor) (input : Iteration) : Supervisor :=
  ((s.begin input.retryGateFree).acquire cli input.acquisition).2

def telemetry (cli : Cli) (s : Supervisor) (input : Iteration) : TelemetryFrame :=
  ((s.begin input.retryGateFree).acquire cli input.acquisition).1

theorem iterate_eq (s : Supervisor) (input : Iteration) :
    s.iterate cli input =
      let done := (s.ready cli input).completeFinished cli input
      let judged := done.1.evaluateTick done.2 (s.telemetry cli input)
      (judged.1.dispatch input.dispatchGateFree judged.2.dispatchDue).recordAcquired
        (s.telemetry cli input) := rfl

@[simp] theorem ready_machine (cli : Cli) (s : Supervisor) (input : Iteration) :
    (s.ready cli input).machine = s.machine :=
  begin_machine s input.retryGateFree

theorem ready_slots_occupied (cli : Cli) {s : Supervisor} (input : Iteration)
    (occupied : s.attempt.slots.isEmpty = false) :
    (s.ready cli input).attempt.slots = s.attempt.slots :=
  begin_slots_occupied input.retryGateFree occupied

theorem iterate_succeeded {s : Supervisor} {input : Iteration} {slot : Slot}
    (exclusive : s.attempt.slots.Exclusive)
    (occupied : (s.attempt.slots.get slot).isSome = true)
    (finished : input.finished slot = some .ok) :
    s.iterate cli input =
      let done := ((s.ready cli input).emptied slot).reassessAfterActuation cli slot.succeeded
        (input.reassessment slot)
      (done.dispatch input.dispatchGateFree true).recordAcquired (s.telemetry cli input) := by
  have slots := ready_slots_occupied cli input (Slots.get_isEmpty occupied)
  rw [← slots] at exclusive occupied
  rw [iterate_eq, completeFinished_slot input exclusive occupied, finished,
    completeActuation_ok _ _ _ _ occupied]
  rfl

def claimAfter (slot : Slot) (result : TaskResult) (claimed : Bool) : Bool :=
  match slot, result with
  | .brake, .ok => true
  | .brake, _ | .release, .ok => false
  | .release, _ => claimed

theorem completeActuation_brakeEngaged (cli : Cli) {slot : Slot} {s : Supervisor}
    (flags : TickFlags)
    (result : TaskResult) (reassessment : Acquisition)
    (occupied : (s.attempt.slots.get slot).isSome = true) :
    (completeActuation cli slot slot.succeeded slot.failed s flags (some result)
      reassessment).1.machine.brakeEngaged = claimAfter slot result s.machine.brakeEngaged := by
  cases failure : result.failure with
  | none =>
    obtain rfl : result = .ok := by
      cases result with
      | ok => rfl
      | err | panicked => simp [TaskResult.failure] at failure
    rw [completeActuation_ok _ _ _ _ occupied]
    have recorded := SafetyMachine.recordActuator_brakeEngaged s.machine slot.succeeded
    have evaluated := SafetyMachine.evaluate_brakeEngaged
      (s.machine.recordActuator slot.succeeded).2 (reassessment.assess cli s.sampleClock).1
    cases slot <;> exact evaluated.trans recorded
  | some error =>
    rw [completeActuation_failure _ _ _ _ occupied failure]
    have claim := SafetyMachine.recordActuator_brakeEngaged s.machine (slot.failed error)
    cases result with
    | ok => simp [TaskResult.failure] at failure
    | err | panicked => cases slot <;> exact claim

theorem iterate_brakeEngaged (s : Supervisor) (input : Iteration) :
    (s.iterate cli input).machine.brakeEngaged =
      ((s.ready cli input).completeFinished cli input).1.machine.brakeEngaged := by
  rw [iterate_eq]
  dsimp only [recordAcquired]
  rw [dispatch_machine, evaluateTick_brakeEngaged]

theorem iterate_finished {s : Supervisor} {input : Iteration} {slot : Slot} {result : TaskResult}
    (exclusive : (s.ready cli input).attempt.slots.Exclusive)
    (occupied : ((s.ready cli input).attempt.slots.get slot).isSome = true)
    (finished : input.finished slot = some result) :
    (s.iterate cli input).machine.brakeEngaged = claimAfter slot result s.machine.brakeEngaged := by
  rw [iterate_brakeEngaged, completeFinished_slot input exclusive occupied, finished,
    completeActuation_brakeEngaged cli _ _ _ occupied, ready_machine]

theorem iterate_idle {s : Supervisor} {input : Iteration}
    (idle : ∀ slot,
      (s.ready cli input).attempt.slots.get slot = none ∨ input.finished slot = none) :
    (s.iterate cli input).machine.brakeEngaged = s.machine.brakeEngaged ∧
    ((s.iterate cli input).attempt.slots = (s.ready cli input).attempt.slots ∨
      (s.ready cli input).attempt.slots.isEmpty = true) := by
  have completed := completeFinished_idle cli input idle
  constructor
  · rw [iterate_brakeEngaged, completed]
    exact congrArg SafetyMachine.brakeEngaged (ready_machine cli s input)
  · cases empty : (s.ready cli input).attempt.slots.isEmpty with
    | true => exact .inr rfl
    | false =>
      refine .inl ?_
      have occupied : ((s.ready cli input).evaluateTick .clear
          (s.telemetry cli input)).1.attempt.slots.isEmpty = false := by
        rw [evaluateTick_attempt]
        exact empty
      rw [iterate_eq, completed]
      dsimp only [recordAcquired]
      rw [dispatch_slots_occupied _ _ occupied, evaluateTick_attempt]

theorem ready_inv {policy : SafetyPolicy} {s : Supervisor} (inv : RelayCore.Inv policy s.core)
    (cli : Cli) (input : Iteration) : RelayCore.Inv policy (s.ready cli input).core :=
  RelayCore.inv_steps inv (begin_steps s input.retryGateFree)

end Supervisor

end ThalamicRelay
