import ThalamicRelay.Actuator.PowerLimit
import ThalamicRelay.Safety.MachineRuns

set_option autoImplicit false

namespace ThalamicRelay

open Transition

structure FakeActuator where
  engaged : Bool
  applyCalls : UInt32
  releaseCalls : UInt32
  failApply : Option ActuatorError
  failRelease : Option ActuatorError
  deriving DecidableEq, Repr

namespace FakeActuator

def new : FakeActuator where
  engaged := false
  applyCalls := 0
  releaseCalls := 0
  failApply := none
  failRelease := none

def setApplyFailure (fake : FakeActuator) (error : Option ActuatorError) : FakeActuator :=
  { fake with failApply := error }

def setReleaseFailure (fake : FakeActuator) (error : Option ActuatorError) : FakeActuator :=
  { fake with failRelease := error }

def isEngaged (fake : FakeActuator) : Bool :=
  fake.engaged

def applyEmergencyBrake (fake : FakeActuator) (_pct : F32) :
    Except ActuatorError PUnit.{1} × FakeActuator :=
  let fake := { fake with applyCalls := fake.applyCalls + 1 }
  match fake.failApply with
  | some error => (.error error, fake)
  | none => (.ok ⟨⟩, { fake with engaged := true })

def releaseEmergencyBrake (fake : FakeActuator) : Except ActuatorError PUnit.{1} × FakeActuator :=
  let fake := { fake with releaseCalls := fake.releaseCalls + 1 }
  match fake.failRelease with
  | some error => (.error error, fake)
  | none => (.ok ⟨⟩, { fake with engaged := false })

end FakeActuator

/-- An actuator and the machine that is told what became of each attempt. -/
structure ActuatorDrive where
  fake : FakeActuator
  machine : SafetyMachine

inductive DriveAction
  | setApplyFailure (error : Option ActuatorError)
  | setReleaseFailure (error : Option ActuatorError)
  | applyEmergencyBrake (pct : F32)
  | releaseEmergencyBrake
  | evaluate (frame : TelemetryFrame)

namespace ActuatorDrive

def start (policy : SafetyPolicy) : ActuatorDrive where
  fake := .new
  machine := .withPolicy policy

def applyOutcome : Except ActuatorError PUnit.{1} → ActuatorOutcome
  | .ok _ => .applied
  | .error error => .applyFailed error.toString

def releaseOutcome : Except ActuatorError PUnit.{1} → ActuatorOutcome
  | .ok _ => .released
  | .error error => .releaseFailed error.toString

def step (d : ActuatorDrive) : DriveAction → ActuatorDrive
  | .setApplyFailure error => { d with fake := d.fake.setApplyFailure error }
  | .setReleaseFailure error => { d with fake := d.fake.setReleaseFailure error }
  | .applyEmergencyBrake pct =>
    let (result, fake) := d.fake.applyEmergencyBrake pct
    { fake, machine := (d.machine.recordActuator (applyOutcome result)).2 }
  | .releaseEmergencyBrake =>
    let (result, fake) := d.fake.releaseEmergencyBrake
    { fake, machine := (d.machine.recordActuator (releaseOutcome result)).2 }
  | .evaluate frame => { d with machine := (d.machine.evaluate frame).2 }

structure Agrees (d : ActuatorDrive) : Prop where
  claim : d.machine.snapshot.brakeEngaged = d.fake.isEngaged
  streak : d.machine.snapshot.brakeEngaged = false → d.machine.snapshot.hysteresisOkCount = 0

def FailsFree (d : ActuatorDrive) : DriveAction → Prop
  | .applyEmergencyBrake _ => d.fake.failApply.isSome = true → d.fake.isEngaged = false
  | _ => True

variable {d : ActuatorDrive}

theorem agrees_start (policy : SafetyPolicy) : (start policy).Agrees where
  claim := rfl
  streak := fun _ => rfl

theorem agrees_apply (agrees : d.Agrees) (pct : F32) :
    (d.step (.applyEmergencyBrake pct)).Agrees ↔
      (d.fake.failApply.isSome = true → d.fake.isEngaged = false) := by
  simp only [step, FakeActuator.applyEmergencyBrake]
  cases failure : d.fake.failApply with
  | none =>
    simp only [Option.isSome_none, Bool.false_eq_true, false_implies, iff_true]
    constructor <;> simp [applyOutcome, FakeActuator.isEngaged]
  | some error =>
    simp only [Option.isSome_some, true_implies]
    constructor
    next =>
      intro after
      have claim := after.claim
      simpa [applyOutcome, FakeActuator.isEngaged] using claim.symm
    next =>
      intro free
      have unclaimed := agrees.claim.trans free
      constructor
      next => simpa [applyOutcome, FakeActuator.isEngaged] using free
      next =>
        intro _
        simpa [applyOutcome] using agrees.streak unclaimed

theorem agrees_release (agrees : d.Agrees) : (d.step .releaseEmergencyBrake).Agrees := by
  simp only [step, FakeActuator.releaseEmergencyBrake]
  cases failure : d.fake.failRelease with
  | none => constructor <;> simp [releaseOutcome, FakeActuator.isEngaged]
  | some error =>
    constructor
    next => simpa [releaseOutcome, FakeActuator.isEngaged] using agrees.claim
    next => simpa [releaseOutcome] using agrees.streak

theorem agrees_evaluate (agrees : d.Agrees) (frame : TelemetryFrame) :
    (d.step (.evaluate frame)).Agrees := by
  constructor
  next => simpa [step] using agrees.claim
  next =>
    intro unclaimed
    have free : d.machine.brakeEngaged = false := by simpa [step] using unclaimed
    simp [step, SafetyMachine.nextOkCount, free]

theorem agrees_step (agrees : d.Agrees) (action : DriveAction) :
    (d.step action).Agrees ↔ d.FailsFree action := by
  cases action with
  | setApplyFailure error | setReleaseFailure error =>
    exact iff_of_true ⟨agrees.claim, agrees.streak⟩ trivial
  | applyEmergencyBrake pct => exact agrees_apply agrees pct
  | releaseEmergencyBrake => simpa [FailsFree] using agrees_release agrees
  | evaluate frame => simpa [FailsFree] using agrees_evaluate agrees frame

theorem failed_attempt_keeps_claim_iff (policy : SafetyPolicy) (actions : List DriveAction) :
    System.Throughout step Agrees (start policy) actions ↔
      System.EveryStep step FailsFree (start policy) actions := by
  have exactly (d : ActuatorDrive) (action : DriveAction) (agrees : d.Agrees) :
      (d.step action).Agrees ↔ d.FailsFree action := agrees_step agrees action
  exact System.throughout_iff_everyStep exactly (agrees_start policy) actions

-- Two healthy frames into the streak an apply fails, and the next apply inherits both.
theorem failed_apply_drops_claim :
    let ok := DriveAction.evaluate (SafetyMachine.testFrame (.finite 65) (.finite 200))
    let actions := [.applyEmergencyBrake brakeFraction, ok, ok,
      .setApplyFailure (some .powerLimitUnavailable), .applyEmergencyBrake brakeFraction]
    let d := actions.foldl step (start .testPolicy)
    d.fake.isEngaged = true ∧ d.machine.snapshot.brakeEngaged = false ∧
      d.machine.snapshot.hysteresisOkCount = 2 ∧
      ¬ System.Throughout step Agrees (start .testPolicy) actions := by
  intro ok actions d
  have held : d.fake.isEngaged = true := by decide +kernel
  have dropped : d.machine.snapshot.brakeEngaged = false := by decide +kernel
  have partialStreak : d.machine.snapshot.hysteresisOkCount = 2 := by decide +kernel
  refine ⟨held, dropped, partialStreak, ?_⟩
  intro throughout
  have claim : d.machine.snapshot.brakeEngaged = d.fake.isEngaged :=
    throughout.2.2.2.2.2.claim
  rw [held, dropped] at claim
  exact absurd claim (by decide)

end ActuatorDrive

end ThalamicRelay
