import ThalamicRelay.Safety.FailClosed
import ThalamicRelay.Safety.MachineRuns

set_option autoImplicit false

namespace ThalamicRelay

open BinaryFloat

/-- How far a verdict is from healthy; the verdicts that fail closed are equally bad. -/
def AssessmentKind.severity : AssessmentKind → Nat
  | .ok => 0
  | .simulated => 1
  | .warn => 2
  | .critical | .missing | .invalid | .stale => 3

def RawTelemetry.withSafetyReadings (raw : RawTelemetry) (temp power : ℚ) : RawTelemetry :=
  { raw with gpuTempC := some (.finite temp), powerW := some (.finite power) }

theorem demand_mono (m : SafetyMachine) (justReleased : Bool) {calm severe : AssessmentKind}
    (worse : calm.severity ≤ severe.severity) (desired : m.demand calm justReleased = true) :
    m.demand severe justReleased = true := by
  cases calm <;> cases severe <;>
    simp_all [AssessmentKind.severity, SafetyMachine.demand]

theorem thresholdKind_mono (config : SafetyPolicyConfig) (warn critical : F32)
    {temp power hotter higher : ℚ} (temperature : temp ≤ hotter) (board : power ≤ higher) :
    (thresholdKind config warn critical (.finite temp) (.finite power)).severity ≤
      (thresholdKind config warn critical (.finite hotter) (.finite higher)).severity := by
  have criticalTemp (above : config.tempCriticalC < .finite temp) :
      config.tempCriticalC < .finite hotter := Value.lt_finite_mono above temperature
  have criticalPower (above : critical < .finite power) : critical < .finite higher :=
    Value.lt_finite_mono above board
  have warnTemp (reached : config.tempWarnC ≤ .finite temp) :
      config.tempWarnC ≤ .finite hotter := Value.le_finite_mono reached temperature
  have warnPower (reached : warn ≤ .finite power) : warn ≤ .finite higher :=
    Value.le_finite_mono reached board
  simp only [thresholdKind]
  split_ifs <;> simp_all [AssessmentKind.severity]

section Frames

variable {raw : RawTelemetry} {now cadenceMs : Nat} {policy : SafetyPolicy}
  {temp power hotter higher : ℚ} {warn critical : F32}

theorem Verified.cooler {t p : ℚ}
    (verified : Verified (raw.withSafetyReadings hotter higher) now cadenceMs policy t p
      warn critical)
    (temperature : 0 ≤ temp ∧ temp ≤ hotter) (board : 0 ≤ power ∧ power ≤ higher) :
    t = hotter ∧ p = higher ∧
      Verified (raw.withSafetyReadings temp power) now cadenceMs policy temp power
        warn critical := by
  obtain ⟨⟨sameTemp, _, hottest⟩, ⟨samePower, _, highest⟩, notFuture, fresh, young, interval,
    limits⟩ := verified
  have sameTemp : hotter = t := by simpa [RawTelemetry.withSafetyReadings] using sameTemp
  have samePower : higher = p := by simpa [RawTelemetry.withSafetyReadings] using samePower
  subst sameTemp samePower
  have tempRange : temp ≤ 125 := le_trans temperature.2 hottest
  have powerRange : power ≤ 2000 := le_trans board.2 highest
  exact ⟨rfl, rfl, ⟨rfl, temperature.1, tempRange⟩, ⟨rfl, board.1, powerRange⟩, notFuture, fresh,
    young, interval, limits⟩

-- What keeps the hotter bag from a verified verdict makes it fail closed.
theorem severity_mono (policy : SafetyPolicy) (clock : SampleClock)
    (real : raw.source ≠ .softwareFallback)
    (temperature : 0 ≤ temp ∧ temp ≤ hotter) (board : 0 ≤ power ∧ power ≤ higher) :
    (classifyFrameWithPolicy (assessWithClock (raw.withSafetyReadings temp power) now cadenceMs
      clock).1 policy).kind.severity ≤
    (classifyFrameWithPolicy (assessWithClock (raw.withSafetyReadings hotter higher) now cadenceMs
      clock).1 policy).kind.severity := by
  have coolReal : (raw.withSafetyReadings temp power).source ≠ .softwareFallback := real
  have hotReal : (raw.withSafetyReadings hotter higher).source ≠ .softwareFallback := real
  by_cases verified : ∃ t p warn critical,
      Verified (raw.withSafetyReadings hotter higher) now cadenceMs policy t p warn critical
  next =>
    obtain ⟨t, p, warn, critical, hot⟩ := verified
    obtain ⟨rfl, rfl, cool⟩ := hot.cooler temperature board
    rw [verified_kind clock coolReal cool, verified_kind clock hotReal hot]
    apply thresholdKind_mono policy.config warn critical temperature.2 board.2
  next =>
    have worst (kind : AssessmentKind) : kind.severity ≤ 3 := by
      cases kind <;> decide
    cases unverified_kind clock hotReal verified with
    | inl missing =>
      rw [missing]
      exact worst _
    | inr other =>
      cases other with
      | inl invalid =>
        rw [invalid]
        exact worst _
      | inr stale =>
        rw [stale]
        exact worst _

end Frames

theorem braking_monotone (m : SafetyMachine) (raw : RawTelemetry) (now cadenceMs : Nat)
    (clock : SampleClock) (temp power hotter higher : ℚ) (real : raw.source ≠ .softwareFallback)
    (temperature : 0 ≤ temp ∧ temp ≤ hotter) (board : 0 ≤ power ∧ power ≤ higher)
    (braked : (m.evaluate (assessWithClock (raw.withSafetyReadings temp power) now cadenceMs
      clock).1).1.desiredBrake = true) :
    (m.evaluate (assessWithClock (raw.withSafetyReadings hotter higher) now cadenceMs
      clock).1).1.desiredBrake = true := by
  rw [SafetyMachine.evaluate_desiredBrake] at braked ⊢
  apply demand_mono m m.justReleased _ braked
  simp only [SafetyMachine.kindOf]
  apply severity_mono m.policy clock real temperature board

-- The warning band just after a release, against a reading far beyond the sensor's range.
theorem braking_monotone_reapplied :
    let m := SafetyMachine.after .testPolicy true [.recordActuator .released]
    let raw := RawTelemetry.nvmlTempPower 1700000000000 .nan .nan
    (m.evaluate (assessWithClock (raw.withSafetyReadings 400 200) 1700000000000 100
      (.withSessionId "test")).1).1.desiredBrake = true := by
  intro m raw
  apply braking_monotone m raw 1700000000000 100 (.withSessionId "test") 78 200 400 200
  · decide
  · norm_num
  · norm_num
  · decide +kernel

end ThalamicRelay
