import ThalamicRelay.Safety.Monotone

set_option autoImplicit false

namespace ThalamicRelay

open BinaryFloat Saturating

def LowerLimits : Option (F32 × F32) → Option (F32 × F32) → Prop
  | none, _ => True
  | some _, none => False
  | some (warn, critical), some (looseWarn, looseCritical) =>
    warn ≤ looseWarn ∧ critical ≤ looseCritical

/-- No setting of the first policy is more permissive than the second's. -/
structure SafetyPolicy.Stricter (strict loose : SafetyPolicy) : Prop where
  tempWarn : strict.config.tempWarnC ≤ loose.config.tempWarnC
  tempCritical : strict.config.tempCriticalC ≤ loose.config.tempCriticalC
  power : LowerLimits strict.powerLimitsW loose.powerLimitsW
  streak : loose.config.releaseOkStreak ≤ strict.config.releaseOkStreak
  sampleAge : strict.config.maxSampleAgeMs ≤ loose.config.maxSampleAgeMs
  interval : strict.config.maxAcquisitionIntervalMs ≤ loose.config.maxAcquisitionIntervalMs

theorem thresholdKind_lower {strict loose : SafetyPolicyConfig}
    {warn critical looseWarn looseCritical : F32} (tempWarn : strict.tempWarnC ≤ loose.tempWarnC)
    (tempCritical : strict.tempCriticalC ≤ loose.tempCriticalC)
    (powerWarn : warn ≤ looseWarn) (powerCritical : critical ≤ looseCritical) (temp power : F32) :
    (thresholdKind loose looseWarn looseCritical temp power).severity ≤
      (thresholdKind strict warn critical temp power).severity := by
  have criticalTemp (above : loose.tempCriticalC < temp) : strict.tempCriticalC < temp :=
    Value.lt_of_le_of_lt tempCritical above
  have criticalPower (above : looseCritical < power) : critical < power :=
    Value.lt_of_le_of_lt powerCritical above
  have warnTemp (reached : loose.tempWarnC ≤ temp) : strict.tempWarnC ≤ temp :=
    Value.le_trans tempWarn reached
  have warnPower (reached : looseWarn ≤ power) : warn ≤ power :=
    Value.le_trans powerWarn reached
  simp only [thresholdKind]
  split_ifs <;> simp_all [AssessmentKind.severity]

namespace SafetyPolicy.Stricter

variable {strict loose : SafetyPolicy}

theorem outdated (stricter : strict.Stricter loose) {frame : TelemetryFrame}
    (old : ThalamicRelay.outdated frame loose) : ThalamicRelay.outdated frame strict := by
  have sampleAge := stricter.sampleAge
  have interval := stricter.interval
  simp only [ThalamicRelay.outdated] at old ⊢
  omega

theorem severity (stricter : strict.Stricter loose) (frame : TelemetryFrame) :
    (classifyFrameWithPolicy frame loose).kind.severity ≤
      (classifyFrameWithPolicy frame strict).kind.severity := by
  have worst (kind : AssessmentKind) : kind.severity ≤ 3 := by
    cases kind <;> decide
  by_cases real : frame.source = .softwareFallback
  next => rw [classify_simulated loose real, classify_simulated strict real]
  next =>
    cases found : worstSafetyFault frame with
    | some fault => rw [classify_fault loose real found, classify_fault strict real found]
    | none =>
      obtain ⟨⟨temp, tempUsable⟩, ⟨power, powerUsable⟩⟩ := (worstSafetyFault_none frame).mp found
      rw [classify_usable loose real tempUsable powerUsable,
        classify_usable strict real tempUsable powerUsable]
      by_cases old : ThalamicRelay.outdated frame strict
      next =>
        rw [if_pos old]
        exact worst _
      next =>
        rw [if_neg old, if_neg fun outdated => old (stricter.outdated outdated)]
        have lower := stricter.power
        cases limits : strict.powerLimitsW with
        | none => exact worst _
        | some bounds =>
          cases looseLimits : loose.powerLimitsW with
          | none =>
            rw [limits, looseLimits] at lower
            exact absurd lower not_false
          | some looseBounds =>
            rw [limits, looseLimits] at lower
            exact thresholdKind_lower stricter.tempWarn stricter.tempCritical lower.1 lower.2
              temp power

end SafetyPolicy.Stricter

namespace SafetyMachine

variable {strict loose : SafetyPolicy} {m n : SafetyMachine}

/-- Two machines after the same calls, the first under the stricter policy: they agree on the
hardware, and the first has counted no more towards a release. -/
structure Guards (strict loose : SafetyPolicy) (m n : SafetyMachine) : Prop where
  strictPolicy : m.policy = strict
  loosePolicy : n.policy = loose
  engaged : m.brakeEngaged = n.brakeEngaged
  justReleased : m.justReleased = n.justReleased
  okCount : m.okCount ≤ n.okCount

theorem guards_start (strict loose : SafetyPolicy) (seeded : Bool) :
    Guards strict loose (start strict seeded) (start loose seeded) := by
  cases seeded <;> constructor <;> rfl

theorem Guards.kinds (stricter : strict.Stricter loose) (guards : Guards strict loose m n)
    (frame : TelemetryFrame) : (n.kindOf frame).severity ≤ (m.kindOf frame).severity := by
  rw [kindOf, kindOf, guards.strictPolicy, guards.loosePolicy]
  exact stricter.severity frame

theorem Guards.nextOkCount (guards : Guards strict loose m n) {severe calm : AssessmentKind}
    (worse : calm.severity ≤ severe.severity) : m.nextOkCount severe ≤ n.nextOkCount calm := by
  have count := guards.okCount
  by_cases good : severe = .ok ∧ m.brakeEngaged = true
  next =>
    obtain ⟨rfl, engaged⟩ := good
    obtain rfl : calm = .ok := by
      cases calm <;> simp_all [AssessmentKind.severity]
    have held : n.brakeEngaged = true := guards.engaged ▸ engaged
    simp only [SafetyMachine.nextOkCount, engaged, held, and_self, if_true, increment]
    omega
  next =>
    rw [SafetyMachine.nextOkCount, if_neg good]
    exact Nat.zero_le _

theorem Guards.demand (stricter : strict.Stricter loose) (guards : Guards strict loose m n)
    {severe calm : AssessmentKind} (worse : calm.severity ≤ severe.severity)
    {justReleased : Bool} (desired : n.demand calm justReleased = true) :
    m.demand severe justReleased = true := by
  have engaged := guards.engaged
  cases calm with
  | ok =>
    simp only [SafetyMachine.demand, Bool.and_eq_true, decide_eq_true_eq] at desired
    obtain ⟨held, short⟩ := desired
    rw [← engaged] at held
    have count : m.nextOkCount .ok ≤ n.nextOkCount .ok := guards.nextOkCount le_rfl
    have streak := stricter.streak
    rw [← guards.strictPolicy, ← guards.loosePolicy] at streak
    have fewer : m.nextOkCount .ok < m.policy.config.releaseOkStreak := by omega
    cases severe <;> simp [SafetyMachine.demand, held, fewer]
  | _ => cases severe <;> simp_all [AssessmentKind.severity, SafetyMachine.demand]

theorem guards_evaluate (stricter : strict.Stricter loose) (guards : Guards strict loose m n)
    (frame : TelemetryFrame) :
    Guards strict loose (m.evaluate frame).2 (n.evaluate frame).2 where
  strictPolicy := by simp [guards.strictPolicy]
  loosePolicy := by simp [guards.loosePolicy]
  engaged := by simp [guards.engaged]
  justReleased := by simp
  okCount := by
    rw [evaluate_okCount, evaluate_okCount]
    exact guards.nextOkCount (guards.kinds stricter frame)

theorem guards_recordActuator (guards : Guards strict loose m n) (outcome : ActuatorOutcome) :
    Guards strict loose (m.recordActuator outcome).2 (n.recordActuator outcome).2 where
  strictPolicy := by simp [guards.strictPolicy]
  loosePolicy := by simp [guards.loosePolicy]
  engaged := by cases outcome <;> simp [guards.engaged]
  justReleased := by cases outcome <;> simp [guards.justReleased]
  okCount := by cases outcome <;> simp [guards.okCount]

theorem guards_after (stricter : strict.Stricter loose) (seeded : Bool)
    (calls : List MachineCall) :
    Guards strict loose (after strict seeded calls) (after loose seeded calls) := by
  induction calls using List.reverseRecOn with
  | nil => exact guards_start strict loose seeded
  | append_singleton calls next ih =>
    simp only [after, List.foldl_append, List.foldl_cons, List.foldl_nil] at ih ⊢
    cases next with
    | evaluate frame => exact guards_evaluate stricter ih frame
    | recordActuator outcome => exact guards_recordActuator ih outcome

theorem tightening_keeps_braking (stricter : strict.Stricter loose) (seeded : Bool)
    (calls : List MachineCall) (frame : TelemetryFrame) :
    let tight := ((after strict seeded calls).evaluate frame).1
    let lax := ((after loose seeded calls).evaluate frame).1
    tight.brakeEngaged = lax.brakeEngaged ∧ (lax.desiredBrake = true → tight.desiredBrake = true) ∧
      (lax.intent = .apply → tight.intent = .apply) ∧
      (tight.intent = .release → lax.intent = .release) := by
  intro tight lax
  have guards := guards_after stricter seeded calls
  have same := guards.engaged
  have engaged : tight.brakeEngaged = lax.brakeEngaged := by
    simpa [tight, lax, evaluate_snapshot_brakeEngaged] using same
  have desired (demanded : lax.desiredBrake = true) : tight.desiredBrake = true := by
    simp only [tight, lax, evaluate_desiredBrake] at demanded ⊢
    rw [guards.justReleased]
    exact guards.demand stricter (guards.kinds stricter frame) demanded
  simp only [tight, lax, evaluate_desiredBrake] at desired
  refine ⟨engaged, by simpa [tight, lax] using desired, ?_, ?_⟩
  · simp only [tight, lax, evaluate_intent, intentFrom_apply]
    rintro ⟨demanded, free⟩
    exact ⟨desired demanded, same.trans free⟩
  · simp only [tight, lax, evaluate_intent, intentFrom_release]
    rintro ⟨allowed, held⟩
    refine ⟨?_, same.symm.trans held⟩
    by_contra demanded
    rw [desired (by simpa using demanded)] at allowed
    contradiction

def cautiousPolicy : SafetyPolicy where
  config :=
    { SafetyPolicy.testConfig 5 with
      tempWarnC := .finite 65
      tempCriticalC := .finite 75
      powerWarnW := some (.finite 200)
      powerCriticalW := some (.finite 250)
      maxSampleAgeMs := 1000 }
  powerLimitsW := some (.finite 200, .finite 250)
  powerLimitSource := "operator"
  validated := ⟨none, by decide +kernel⟩

theorem tightening_keeps_braking_warm :
    let calls := [.evaluate (testFrame (.finite 90) (.finite 180)), .recordActuator .applied]
    let frame := testFrame (.finite 78) (.finite 180)
    let tight := ((after cautiousPolicy false calls).evaluate frame).1
    let lax := ((after .testPolicy false calls).evaluate frame).1
    tight.brakeEngaged = lax.brakeEngaged ∧ (lax.desiredBrake = true → tight.desiredBrake = true) ∧
      (lax.intent = .apply → tight.intent = .apply) ∧
      (tight.intent = .release → lax.intent = .release) := by
  intro calls frame
  apply tightening_keeps_braking
  constructor
  case power => exact ⟨by decide +kernel, by decide +kernel⟩
  all_goals decide +kernel

end SafetyMachine

end ThalamicRelay
