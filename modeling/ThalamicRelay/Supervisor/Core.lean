import ThalamicRelay.Supervisor.Loop

set_option autoImplicit false

namespace ThalamicRelay

open Transition

structure RelayCore where
  machine : SafetyMachine
  attempt : DispatchState ActuationTask
  log : List Event

inductive CoreStep
  | offered (frame : TelemetryFrame)
  | evaluated (frame : TelemetryFrame)
  | succeeded (slot : Slot) (frame : TelemetryFrame)
  | failed (slot : Slot) (error : String)
  | dispatched (gateFree due : Bool)

def Slot.succeeded : Slot → ActuatorOutcome
  | .brake => .applied
  | .release => .released

def Slot.failed : Slot → String → ActuatorOutcome
  | .brake => .applyFailed
  | .release => .releaseFailed

def lastKind : List Event → Option AssessmentKind
  | [] => none
  | .evaluated kind _ :: _ => some kind
  | _ :: older => lastKind older

namespace RelayCore

def evaluate (c : RelayCore) (frame : TelemetryFrame) : RelayCore :=
  { c with
    machine := (c.machine.evaluate frame).2
    log := .offered frame :: .evaluated (c.machine.kindOf frame) (c.machine.evaluate frame).1 ::
      c.log }

def recordActuator (c : RelayCore) (outcome : ActuatorOutcome) : RelayCore :=
  { c with
    machine := (c.machine.recordActuator outcome).2
    log := .recorded outcome :: c.log }

def take (c : RelayCore) (slot : Slot) : RelayCore :=
  { c with attempt := { c.attempt with slots := c.attempt.slots.take slot } }

def dispatch (c : RelayCore) (gateFree due : Bool) : RelayCore :=
  let snap := c.machine.snapshot
  let (result, attempt) := dispatchDueOrPending snap (Supervisor.tryEnter gateFree) due c.attempt
  { c with
    attempt := attempt
    log := if result = some .spawned then .spawned snap :: c.log else c.log }

def step (c : RelayCore) : CoreStep → RelayCore
  | .offered frame => { c with log := .offered frame :: c.log }
  | .evaluated frame => c.evaluate frame
  | .succeeded slot frame =>
    if (c.attempt.slots.get slot).isSome then
      ((c.take slot).recordActuator slot.succeeded).evaluate frame
    else c
  | .failed slot error =>
    if (c.attempt.slots.get slot).isSome then (c.take slot).recordActuator (slot.failed error)
    else c
  | .dispatched gateFree due => c.dispatch gateFree due

def start (policy : SafetyPolicy) (seeded : Bool) : RelayCore where
  machine := .start policy seeded
  attempt := { slots := .empty, pending := none }
  log := if seeded then [.seeded] else []

def system (policy : SafetyPolicy) : System RelayCore CoreStep :=
  .ofFunction (fun c => ∃ seeded, c = start policy seeded) step

def Steps (policy : SafetyPolicy) (before after : RelayCore) : Prop :=
  ∃ steps, (system policy).Run before steps after

theorem Steps.refl {policy : SafetyPolicy} (c : RelayCore) : Steps policy c c :=
  ⟨[], .nil c⟩

theorem Steps.one (policy : SafetyPolicy) (c : RelayCore) (label : CoreStep) :
    Steps policy c (c.step label) :=
  ⟨[label], .single rfl⟩

theorem Steps.trans {policy : SafetyPolicy} {first second third : RelayCore}
    (before : Steps policy first second) (after : Steps policy second third) :
    Steps policy first third := by
  obtain ⟨earlier, before⟩ := before
  obtain ⟨later, after⟩ := after
  exact ⟨earlier ++ later, before.append after⟩

end RelayCore

namespace Supervisor

def core (s : Supervisor) : RelayCore where
  machine := s.machine
  attempt := s.attempt
  log := s.log

@[simp] theorem storeSafety_core (s : Supervisor) (snap : SafetySnapshot) :
    (s.storeSafety snap).core = s.core := rfl

@[simp] theorem acquire_core (cli : Cli) (s : Supervisor) (acquisition : Acquisition) :
    (s.acquire cli acquisition).2.core = s.core := rfl

@[simp] theorem recordAcquired_core (s : Supervisor) (telemetry : TelemetryFrame) :
    (s.recordAcquired telemetry).core = s.core := rfl

theorem evaluateThenTryPublish_core (s : Supervisor) (frame : TelemetryFrame) :
    (s.evaluateThenTryPublish frame).2.core = s.core.evaluate frame := rfl

theorem recordActuator_core (s : Supervisor) (outcome : ActuatorOutcome) :
    (s.recordActuator outcome).core = s.core.recordActuator outcome := rfl

theorem reassessAfterActuation_core (cli : Cli) (s : Supervisor) (outcome : ActuatorOutcome)
    (acquisition : Acquisition) :
    (s.reassessAfterActuation cli outcome acquisition).core =
      (s.core.recordActuator outcome).evaluate (acquisition.assess cli s.sampleClock).1 := rfl

theorem dispatch_core (s : Supervisor) (gateFree due : Bool) :
    (s.dispatch gateFree due).core = s.core.dispatch gateFree due := by
  simp only [dispatch, RelayCore.dispatch]
  by_cases spawned :
    (dispatchDueOrPending s.machine.snapshot (tryEnter gateFree) due s.attempt).1 = some .spawned
  · rw [if_pos spawned]
    exact congrArg (RelayCore.mk s.machine _) (if_pos spawned).symm
  · rw [if_neg spawned]
    exact congrArg (RelayCore.mk s.machine _) (if_neg spawned).symm

section Steps

variable {policy : SafetyPolicy} {cli : Cli}

theorem begin_steps (s : Supervisor) (gateFree : Bool) :
    RelayCore.Steps policy s.core (s.begin gateFree).core := by
  simp only [begin, retryPending]
  split
  · rw [dispatch_core]
    exact .one policy _ (.dispatched gateFree false)
  · exact .refl _

inductive Completion (cli : Cli) (slot : Slot) (s : Supervisor) (flags : TickFlags)
    (reassessment : Acquisition) : Supervisor × TickFlags → Prop
  | nothing : Completion cli slot s flags reassessment (s, flags)
  | succeeded (occupied : (s.attempt.slots.get slot).isSome = true) :
      Completion cli slot s flags reassessment
        ((s.emptied slot).reassessAfterActuation cli slot.succeeded reassessment,
          { flags with dispatchDue := true, evaluatedThisIter := true })
  | failed (error : String) (occupied : (s.attempt.slots.get slot).isSome = true) :
      Completion cli slot s flags reassessment
        ((s.emptied slot).recordActuator (slot.failed error),
          { flags with actuationFailedThisTick := true })

theorem completeActuation_completion (cli : Cli) (slot : Slot) (s : Supervisor) (flags : TickFlags)
    (finished : Option TaskResult) (reassessment : Acquisition) :
    Completion cli slot s flags reassessment
      (completeActuation cli slot slot.succeeded slot.failed s flags finished reassessment) := by
  simp only [completeActuation]
  split
  next task result occupied =>
    have filled : (s.attempt.slots.get slot).isSome = true := by
      rw [occupied]
      rfl
    cases result with
    | ok => exact .succeeded filled
    | err error => exact .failed error.toString filled
    | panicked message => exact .failed message filled
  next => exact .nothing

theorem completeActuation_steps (slot : Slot) (s : Supervisor) (flags : TickFlags)
    (finished : Option TaskResult) (reassessment : Acquisition) :
    RelayCore.Steps policy s.core
      (completeActuation cli slot slot.succeeded slot.failed s flags finished
        reassessment).1.core := by
  have completion := completeActuation_completion cli slot s flags finished reassessment
  generalize completeActuation cli slot slot.succeeded slot.failed s flags finished reassessment =
    done at completion ⊢
  cases completion with
  | nothing => exact .refl _
  | succeeded occupied =>
    have filled : (s.core.attempt.slots.get slot).isSome = true := occupied
    have succeeded := RelayCore.Steps.one policy s.core
      (.succeeded slot (reassessment.assess cli s.sampleClock).1)
    simp only [RelayCore.step, if_pos filled] at succeeded
    rw [reassessAfterActuation_core]
    exact succeeded
  | failed error occupied =>
    have filled : (s.core.attempt.slots.get slot).isSome = true := occupied
    have failed := RelayCore.Steps.one policy s.core (.failed slot error)
    simp only [RelayCore.step, if_pos filled] at failed
    rw [recordActuator_core]
    exact failed

theorem evaluateTick_steps (s : Supervisor) (flags : TickFlags) (telemetry : TelemetryFrame) :
    RelayCore.Steps policy s.core (s.evaluateTick flags telemetry).1.core := by
  simp only [evaluateTick]
  split
  · exact .refl _
  · split
    · rw [storeSafety_core, evaluateThenTryPublish_core]
      exact .one policy _ (.evaluated telemetry)
    · exact .one policy _ (.offered telemetry)

theorem iterate_steps (s : Supervisor) (input : Iteration) :
    RelayCore.Steps policy s.core (s.iterate cli input).core := by
  let begun := s.begin input.retryGateFree
  let acquired := begun.acquire cli input.acquisition
  let braked := acquired.2.completeBrake cli .clear input
  let released := braked.1.completeRelease cli braked.2 input
  let evaluated := released.1.evaluateTick released.2 acquired.1
  have first : RelayCore.Steps policy s.core begun.core := begin_steps s input.retryGateFree
  have second : RelayCore.Steps policy begun.core braked.1.core := by
    rw [← acquire_core cli begun input.acquisition]
    exact completeActuation_steps .brake acquired.2 _ _ _
  have third : RelayCore.Steps policy braked.1.core released.1.core :=
    completeActuation_steps .release braked.1 _ _ _
  have fourth : RelayCore.Steps policy released.1.core evaluated.1.core :=
    evaluateTick_steps released.1 _ _
  have fifth : RelayCore.Steps policy evaluated.1.core (s.iterate cli input).core := by
    rw [iterate, recordAcquired_core, dispatch_core]
    exact .one policy _ (.dispatched input.dispatchGateFree evaluated.2.dispatchDue)
  exact first.trans (second.trans (third.trans (fourth.trans fifth)))

end Steps

end Supervisor

namespace Startup

theorem initial_core (startup : Startup) :
    startup.initial.core = RelayCore.start startup.policy startup.seeded := by
  simp only [initial, Supervisor.seedStartupBrake, seeded]
  cases classifyPowerLimit startup.currentW startup.defaultW brakeFraction <;> rfl

def refinesCore (startup : Startup) :
    Simulation startup.system (RelayCore.system startup.policy) where
  relation := fun s c => s.core = c
  initial := by
    intro s first
    exact ⟨s.core, ⟨startup.seeded, by rw [first, initial_core]⟩, rfl⟩
  step := by
    intro before input after image same iterated
    obtain ⟨steps, run⟩ := Supervisor.iterate_steps before input
    refine ⟨steps, after.core, ?_, rfl⟩
    rw [← same, ← iterated]
    exact run

theorem core_reachable (startup : Startup) {s : Supervisor}
    (reachable : startup.system.Reachable s) :
    (RelayCore.system startup.policy).Reachable s.core := by
  obtain ⟨image, reached, same⟩ := startup.refinesCore.reachable reachable
  have same : s.core = image := same
  rw [same]
  exact reached

end Startup

end ThalamicRelay
