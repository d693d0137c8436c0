import ThalamicRelay.Safety.MachineRuns

set_option autoImplicit false

namespace ThalamicRelay

open Saturating

namespace SafetyMachine

def Retried (m : SafetyMachine) (frame : TelemetryFrame) : Prop :=
  let reply := m.evaluate frame
  (∀ error, reply.1.intent = .apply →
    let failed := reply.2.recordActuator (.applyFailed error)
    failed.1.intent = .apply ∧
      ∀ next, failed.2.kindOf next = m.kindOf frame →
        (failed.2.evaluate next).1.intent = .apply) ∧
  (∀ error, reply.1.intent = .release →
    let failed := reply.2.recordActuator (.releaseFailed error)
    failed.1.intent = .release ∧
      ∀ next, failed.2.kindOf next = .ok → (failed.2.evaluate next).1.intent = .release)

variable {m : SafetyMachine} {kind : AssessmentKind}

theorem recordActuator_intent (m : SafetyMachine) (outcome : ActuatorOutcome) :
    (m.recordActuator outcome).1.intent =
      SafetySnapshot.intentFrom (m.recordActuator outcome).2.desiredFromLastPolicy
        (m.recordActuator outcome).2.brakeEngaged :=
  (recordActuator_agrees m outcome).intent

theorem desired_applyFailed (free : m.brakeEngaged = false) (error : String) :
    (m.recordActuator (.applyFailed error)).2.desiredFromLastPolicy = m.desiredFromLastPolicy := by
  simp only [desiredFromLastPolicy]
  rw [recordActuator_lastPolicyState, recordActuator_brakeEngaged, recordActuator_justReleased,
    recordActuator_okCount, recordActuator_policy, free]

theorem desired_releaseFailed (m : SafetyMachine) (error : String) :
    (m.recordActuator (.releaseFailed error)).2.desiredFromLastPolicy =
      m.desiredFromLastPolicy := by
  simp only [desiredFromLastPolicy]
  rw [recordActuator_lastPolicyState, recordActuator_brakeEngaged, recordActuator_justReleased,
    recordActuator_okCount, recordActuator_policy]

theorem demand_free (free : m.brakeEngaged = false) (justReleased : Bool) :
    m.demand kind justReleased = (kind.failsClosed || (decide (kind = .warn) && justReleased)) := by
  cases kind <;> simp [demand, free, AssessmentKind.failsClosed]

theorem demand_withdrawn (engaged : m.brakeEngaged = true) {justReleased : Bool}
    (undesired : m.demand kind justReleased = false) :
    kind = .ok ∧ m.policy.config.releaseOkStreak ≤ m.nextOkCount .ok := by
  cases kind <;> simp_all [demand]

section AfterEvaluation

variable (frame : TelemetryFrame) (error : String)

theorem apply_retry (free : m.brakeEngaged = false) :
    let failed := (m.evaluate frame).2.recordActuator (.applyFailed error)
    (failed.1.intent = .apply ↔ (m.kindOf frame).failsClosed = true) ∧
      ∀ next, failed.2.kindOf next = m.kindOf frame →
        ((failed.2.evaluate next).1.intent = .apply ↔ (m.kindOf frame).failsClosed = true) := by
  intro failed
  have stillFree : failed.2.brakeEngaged = false := by simp [failed]
  have spent : failed.2.justReleased = false := by simp [failed]
  constructor
  next =>
    have evaluatedFree : (m.evaluate frame).2.brakeEngaged = false := by simp [free]
    rw [recordActuator_intent, intentFrom_apply, desired_applyFailed evaluatedFree,
      evaluate_desiredFromLastPolicy, demand_free free]
    simp
  next =>
    intro next same
    rw [evaluate_intent, intentFrom_apply, same, demand_free stillFree, spent]
    simp [stillFree]

theorem release_retry (engaged : m.brakeEngaged = true)
    (undesired : m.demand (m.kindOf frame) m.justReleased = false) :
    let failed := (m.evaluate frame).2.recordActuator (.releaseFailed error)
    failed.1.intent = .release ∧
      ∀ next, failed.2.kindOf next = .ok → (failed.2.evaluate next).1.intent = .release := by
  intro failed
  obtain ⟨healthy, enough⟩ := demand_withdrawn engaged undesired
  have stillEngaged : failed.2.brakeEngaged = true := by simp [failed, engaged]
  have counted : failed.2.okCount = m.nextOkCount .ok := by simp [failed, healthy]
  have samePolicy : failed.2.policy = m.policy := by simp [failed]
  constructor
  next =>
    rw [recordActuator_intent, intentFrom_release, desired_releaseFailed,
      evaluate_desiredFromLastPolicy, healthy]
    constructor
    next => simpa [demand, engaged] using enough
    next => simp [engaged]
  next =>
    intro next ok
    have earlier : m.nextOkCount .ok = min (m.okCount + 1) u32Max := by
      simp [nextOkCount, engaged, increment]
    have later : failed.2.nextOkCount .ok = min (m.nextOkCount .ok + 1) u32Max := by
      simp [nextOkCount, stillEngaged, counted, increment]
    have grown : m.policy.config.releaseOkStreak ≤ failed.2.nextOkCount .ok := by
      omega
    rw [evaluate_intent, intentFrom_release, ok]
    simpa [demand, stillEngaged, samePolicy] using grown

end AfterEvaluation

theorem failed_attempt_retried_iff (policy : SafetyPolicy) (seeded : Bool)
    (calls : List MachineCall) (frame : TelemetryFrame) :
    let m := after policy seeded calls
    m.Retried frame ↔ ¬ (m.justReleased = true ∧ m.kindOf frame = .warn) := by
  intro m
  have inv : Inv m := inv_reachable (after_reachable policy seeded calls)
  constructor
  next =>
    intro retried warned
    have free := inv.released warned.1
    have applies : (m.evaluate frame).1.intent = .apply := by
      rw [evaluate_intent, intentFrom_apply, demand_free free, warned.1, warned.2]
      simp [free]
    have again := (retried.1 "" applies).1
    rw [(apply_retry frame "" free).1, warned.2] at again
    contradiction
  next =>
    intro calm
    constructor
    next =>
      intro error applies failed
      rw [evaluate_intent, intentFrom_apply] at applies
      have closed : (m.kindOf frame).failsClosed = true := by
        rw [demand_free applies.2] at applies
        by_contra held
        simp [held] at applies
        exact calm ⟨applies.1.2, applies.1.1⟩
      obtain ⟨recorded, evaluated⟩ := apply_retry frame error applies.2
      constructor
      next => exact recorded.mpr closed
      next =>
        intro next same
        exact (evaluated next same).mpr closed
    next =>
      intro error releases failed
      rw [evaluate_intent, intentFrom_release] at releases
      apply release_retry frame error releases.2 releases.1

-- The apply that a warning just after a release asks for is asked for only once.
theorem warn_apply_not_retried :
    let calls := [.recordActuator .released]
    let m := after .testPolicy true calls
    let warm := testFrame (.finite 78) (.finite 200)
    let failed := (m.evaluate warm).2.recordActuator (.applyFailed "sudo denied")
    (m.evaluate warm).1.intent = .apply ∧ failed.1.intent = .none ∧
      (failed.2.evaluate warm).1.intent = .none ∧ ¬ m.Retried warm := by
  intro calls m warm failed
  have applies : (m.evaluate warm).1.intent = .apply := by decide +kernel
  have abandoned : failed.1.intent = .none := by decide +kernel
  have forgotten : (failed.2.evaluate warm).1.intent = .none := by decide +kernel
  refine ⟨applies, abandoned, forgotten, ?_⟩
  intro retried
  have again := (retried.1 "sudo denied" applies).1
  rw [abandoned] at again
  exact absurd again (by decide)

end SafetyMachine

end ThalamicRelay
