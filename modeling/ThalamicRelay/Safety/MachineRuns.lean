import ThalamicRelay.Safety.Machine
import ThalamicRelay.Shared.Transition

set_option autoImplicit false

namespace ThalamicRelay

open Transition

structure SafetySnapshot.Agrees (a b : SafetySnapshot) : Prop where
  state : a.state = b.state
  policyState : a.policyState = b.policyState
  brakeEngaged : a.brakeEngaged = b.brakeEngaged
  desiredBrake : a.desiredBrake = b.desiredBrake
  intent : a.intent = b.intent
  hysteresisOkCount : a.hysteresisOkCount = b.hysteresisOkCount
  lastReason : a.lastReason = b.lastReason
  lastActuatorError : a.lastActuatorError = b.lastActuatorError

inductive MachineCall
  | evaluate (frame : TelemetryFrame)
  | recordActuator (outcome : ActuatorOutcome)

namespace SafetyMachine

def call (m : SafetyMachine) : MachineCall → SafetySnapshot × SafetyMachine
  | .evaluate frame => m.evaluate frame
  | .recordActuator outcome => m.recordActuator outcome

def start (policy : SafetyPolicy) (seeded : Bool) : SafetyMachine :=
  if seeded then (withPolicy policy).seedBrakeApplied else withPolicy policy

def system (policy : SafetyPolicy) : System SafetyMachine MachineCall :=
  System.ofFunction (fun m => ∃ seeded, m = start policy seeded) (fun m c => (m.call c).2)

def after (policy : SafetyPolicy) (seeded : Bool) (calls : List MachineCall) : SafetyMachine :=
  calls.foldl (fun m c => (m.call c).2) (start policy seeded)

theorem after_reachable (policy : SafetyPolicy) (seeded : Bool) (calls : List MachineCall) :
    (system policy).Reachable (after policy seeded calls) :=
  System.Reachable.run (System.Reachable.start ⟨seeded, rfl⟩) (System.run_ofFunction _ calls)

structure Inv (m : SafetyMachine) : Prop where
  released : m.justReleased = true → m.brakeEngaged = false
  healthy : m.lastPolicyState = .healthyReal → m.okCount = 0

theorem inv_start (policy : SafetyPolicy) (seeded : Bool) : Inv (start policy seeded) := by
  cases seeded <;> constructor <;> simp [start, withPolicy, seedBrakeApplied]

theorem inv_evaluate (m : SafetyMachine) (frame : TelemetryFrame) : Inv (m.evaluate frame).2 := by
  constructor
  · simp
  · intro healthy
    rw [evaluate_lastPolicyState] at healthy
    rw [evaluate_okCount]
    cases kind : m.kindOf frame <;> cases engaged : m.brakeEngaged <;>
      simp_all [AssessmentKind.policyState, nextOkCount]

theorem inv_recordActuator {m : SafetyMachine} (inv : Inv m) (outcome : ActuatorOutcome) :
    Inv (m.recordActuator outcome).2 := by
  obtain ⟨released, healthy⟩ := inv
  cases outcome <;> constructor <;> simp <;> assumption

theorem inv_reachable {policy : SafetyPolicy} {m : SafetyMachine}
    (reachable : (system policy).Reachable m) : Inv m := by
  refine reachable.invariant Inv ?_ ?_
  · rintro m ⟨seeded, rfl⟩
    exact inv_start policy seeded
  · rintro m (frame | outcome) last _ inv rfl
    · exact inv_evaluate m frame
    · exact inv_recordActuator inv outcome

theorem composeAndStore_agrees (m : SafetyMachine) (desired failed : Bool) :
    (m.composeAndStore desired failed).1.Agrees (m.composeAndStore desired failed).2.snapshot ↔
      desired = m.desiredFromLastPolicy := by
  constructor
  · intro agrees
    exact agrees.desiredBrake
  · rintro rfl
    constructor <;> rfl

theorem recordActuator_agrees (m : SafetyMachine) (outcome : ActuatorOutcome) :
    (m.recordActuator outcome).1.Agrees (m.recordActuator outcome).2.snapshot := by
  cases outcome <;> exact (composeAndStore_agrees _ _ _).mpr rfl

theorem evaluate_agrees (m : SafetyMachine) (frame : TelemetryFrame) :
    (m.evaluate frame).1.Agrees (m.evaluate frame).2.snapshot ↔
      m.demand (m.kindOf frame) m.justReleased = m.demand (m.kindOf frame) false := by
  rw [← evaluate_desiredFromLastPolicy, ← evaluate_desiredBrake]
  exact composeAndStore_agrees _ _ _

theorem demand_justReleased {m : SafetyMachine} (inv : Inv m) (kind : AssessmentKind) :
    m.demand kind m.justReleased = m.demand kind false ↔
      ¬ (m.justReleased = true ∧ kind = .warn) := by
  cases flag : m.justReleased with
  | false => simp
  | true =>
    have engaged := inv.released flag
    cases kind <;> simp [demand, engaged]

theorem snapshot_coherent_iff (policy : SafetyPolicy) (seeded : Bool) (calls : List MachineCall)
    (next : MachineCall) :
    let m := after policy seeded calls
    (m.call next).1.Agrees (m.call next).2.snapshot ↔
      ¬ (m.justReleased = true ∧ ∃ frame, next = .evaluate frame ∧ m.kindOf frame = .warn) := by
  intro m
  have inv : Inv m := inv_reachable (after_reachable policy seeded calls)
  cases next with
  | evaluate frame =>
    refine (evaluate_agrees m frame).trans ((demand_justReleased inv _).trans ?_)
    simp
  | recordActuator outcome =>
    refine iff_of_true (recordActuator_agrees m outcome) ?_
    simp

def testFrame (temp power : F32) : TelemetryFrame :=
  (assessWithClock (.nvmlTempPower 1700000000000 temp power) 1700000000000 100
    (.withSessionId "test")).1

-- Critical, applied, three Ok frames, released, and a frame in the warning band.
theorem warn_after_release_incoherent :
    let calls := [.evaluate (testFrame (.finite 90) (.finite 200)), .recordActuator .applied,
      .evaluate (testFrame (.finite 65) (.finite 200)),
      .evaluate (testFrame (.finite 65) (.finite 200)),
      .evaluate (testFrame (.finite 65) (.finite 200)), .recordActuator .released]
    let m := after .testPolicy false calls
    let reply := m.call (.evaluate (testFrame (.finite 78) (.finite 200)))
    reply.1.intent = .apply ∧ reply.2.snapshot.intent = .none ∧
      ¬ reply.1.Agrees reply.2.snapshot := by
  intro calls m reply
  have applies : reply.1.intent = .apply := by decide +kernel
  have holds : reply.2.snapshot.intent = .none := by decide +kernel
  refine ⟨applies, holds, fun agrees => ?_⟩
  have same := agrees.intent
  rw [applies, holds] at same
  exact absurd same (by decide)

end SafetyMachine

end ThalamicRelay
