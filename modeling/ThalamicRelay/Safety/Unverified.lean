import ThalamicRelay.Safety.FailClosed
import ThalamicRelay.Safety.MachineRuns

set_option autoImplicit false

namespace ThalamicRelay

open BinaryFloat

def Unordered (frame : TelemetryFrame) : Prop :=
  frame.gpuTempC.value = some .nan ∨ frame.powerW.value = some .nan

theorem thresholdKind_ok {config : SafetyPolicyConfig} {warn critical temp power : F32} :
    thresholdKind config warn critical temp power = .ok ↔
      ¬ (config.tempCriticalC < temp ∨ critical < power) ∧
        ¬ (config.tempWarnC ≤ temp ∨ warn ≤ power) := by
  simp only [thresholdKind]
  split_ifs <;> simp_all

theorem thresholdKind_warn {config : SafetyPolicyConfig} {warn critical temp power : F32} :
    thresholdKind config warn critical temp power = .warn ↔
      ¬ (config.tempCriticalC < temp ∨ critical < power) ∧
        (config.tempWarnC ≤ temp ∨ warn ≤ power) := by
  simp only [thresholdKind]
  split_ifs <;> simp_all

theorem thresholdKind_passed {config : SafetyPolicyConfig} {warn critical temp power : F32} :
    (thresholdKind config warn critical temp power).failsClosed = false ↔
      ¬ config.tempCriticalC < temp ∧ ¬ critical < power := by
  simp only [thresholdKind, ← not_or]
  split_ifs <;> simp_all [AssessmentKind.failsClosed]

structure Compared (frame : TelemetryFrame) (policy : SafetyPolicy)
    (temp power powerWarnW powerCriticalW : F32) : Prop where
  current : ¬ outdated frame policy
  temperature : Usable frame.gpuTempC temp
  board : Usable frame.powerW power
  limits : policy.powerLimitsW = some (powerWarnW, powerCriticalW)

theorem compared_kind {frame : TelemetryFrame} {policy : SafetyPolicy}
    {temp power warn critical : F32} (real : frame.source ≠ .softwareFallback)
    (compared : Compared frame policy temp power warn critical) :
    (classifyFrameWithPolicy frame policy).kind =
      thresholdKind policy.config warn critical temp power := by
  rw [classify_usable policy real compared.temperature compared.board, if_neg compared.current,
    compared.limits]

theorem classify_passed {frame : TelemetryFrame} {policy : SafetyPolicy}
    (real : frame.source ≠ .softwareFallback)
    (passed : (classifyFrameWithPolicy frame policy).kind.failsClosed = false) :
    ∃ temp power warn critical, Compared frame policy temp power warn critical := by
  cases fault : worstSafetyFault frame with
  | some found =>
    rw [classify_fault policy real fault] at passed
    rcases worstSafetyFault_kind fault with kind | kind | kind <;>
      simp [kind, AssessmentKind.failsClosed] at passed
  | none =>
    obtain ⟨⟨temp, temperature⟩, ⟨power, board⟩⟩ := (worstSafetyFault_none frame).mp fault
    rw [classify_usable policy real temperature board] at passed
    by_cases old : outdated frame policy
    · simp [old, AssessmentKind.failsClosed] at passed
    · cases limits : policy.powerLimitsW with
      | none => simp [limits, old, AssessmentKind.failsClosed] at passed
      | some bounds => exact ⟨temp, power, bounds.1, bounds.2, old, temperature, board, limits⟩

def NanPassesThresholds (frame : TelemetryFrame) (policy : SafetyPolicy) : Prop :=
  ∃ temp power warn critical, Compared frame policy temp power warn critical ∧
    (temp = .nan ∨ power = .nan) ∧ ¬ policy.config.tempCriticalC < temp ∧ ¬ critical < power

theorem nanPassesThresholds_iff {frame : TelemetryFrame} {policy : SafetyPolicy}
    (real : frame.source ≠ .softwareFallback) :
    NanPassesThresholds frame policy ↔
      Unordered frame ∧ (classifyFrameWithPolicy frame policy).kind.failsClosed = false := by
  constructor
  · rintro ⟨temp, power, warn, critical, compared, nan, calm⟩
    refine ⟨?_, ?_⟩
    · rcases nan with rfl | rfl
      · exact .inl compared.temperature.present
      · exact .inr compared.board.present
    · rw [compared_kind real compared]
      exact thresholdKind_passed.mpr calm
  · rintro ⟨unordered, passed⟩
    obtain ⟨temp, power, warn, critical, compared⟩ := classify_passed real passed
    rw [compared_kind real compared] at passed
    refine ⟨temp, power, warn, critical, compared, ?_, thresholdKind_passed.mp passed⟩
    rcases unordered with nan | nan
    · exact .inl (Option.some.inj (compared.temperature.present.symm.trans nan))
    · exact .inr (Option.some.inj (compared.board.present.symm.trans nan))

theorem compared_number {frame : TelemetryFrame} {policy : SafetyPolicy}
    {temp power warn critical : F32} (ordered : ¬ Unordered frame)
    (compared : Compared frame policy temp power warn critical) : temp ≠ .nan ∧ power ≠ .nan := by
  constructor
  · rintro rfl
    exact ordered (.inl compared.temperature.present)
  · rintro rfl
    exact ordered (.inr compared.board.present)

theorem healthy_verdict_iff (frame : TelemetryFrame) (policy : SafetyPolicy)
    (real : frame.source ≠ .softwareFallback) :
    let kind := (classifyFrameWithPolicy frame policy).kind
    ((kind = .ok → ∃ temp power warn critical, Usable frame.gpuTempC temp ∧
        Usable frame.powerW power ∧ policy.powerLimitsW = some (warn, critical) ∧
        temp < policy.config.tempWarnC ∧ power < warn) ∧
      (kind = .warn → ∃ temp power warn critical, Usable frame.gpuTempC temp ∧
        Usable frame.powerW power ∧ policy.powerLimitsW = some (warn, critical) ∧
        temp ≤ policy.config.tempCriticalC ∧ power ≤ critical) ∧
      (Unordered frame → kind.failsClosed = true)) ↔
      ¬ NanPassesThresholds frame policy := by
  intro kind
  rw [nanPassesThresholds_iff real]
  constructor
  · rintro ⟨_, _, closed⟩ ⟨unordered, passed⟩
    exact absurd (closed unordered) (by simp [kind, passed])
  · intro blocked
    have closed (unordered : Unordered frame) : kind.failsClosed = true := by
      simpa using fun passed => blocked ⟨unordered, passed⟩
    have thresholds (passed : kind.failsClosed = false) :
        ∃ temp power warn critical, Compared frame policy temp power warn critical ∧
          kind = thresholdKind policy.config warn critical temp power ∧
          temp ≠ .nan ∧ power ≠ .nan := by
      obtain ⟨temp, power, warn, critical, compared⟩ := classify_passed real passed
      exact ⟨temp, power, warn, critical, compared, compared_kind real compared,
        compared_number (fun nan => blocked ⟨nan, passed⟩) compared⟩
    refine ⟨fun ok => ?_, fun warned => ?_, closed⟩
    · obtain ⟨temp, power, warn, critical, compared, decided, heat, load⟩ :=
        thresholds (by rw [ok]; rfl)
      have cool := (thresholdKind_ok.mp (decided.symm.trans ok)).2
      rw [not_or] at cool
      exact ⟨temp, power, warn, critical, compared.temperature, compared.board, compared.limits,
        Value.lt_of_not_le heat policy.ordered.temperatures.1 cool.1,
        Value.lt_of_not_le load (policy.powerLimits_ordered compared.limits).1 cool.2⟩
    · obtain ⟨temp, power, warn, critical, compared, decided, heat, load⟩ :=
        thresholds (by rw [warned]; rfl)
      have calm := (thresholdKind_warn.mp (decided.symm.trans warned)).1
      rw [not_or] at calm
      exact ⟨temp, power, warn, critical, compared.temperature, compared.board, compared.limits,
        Value.le_of_not_lt heat policy.ordered.temperatures.2.1 calm.1,
        Value.le_of_not_lt load (policy.powerLimits_ordered compared.limits).2.1 calm.2⟩

def nanTempFrame : TelemetryFrame :=
  let frame := SafetyMachine.testFrame (.finite 65) (.finite 200)
  { frame with gpuTempC := { frame.gpuTempC with value := some .nan } }

theorem healthy_verdict_nan :
    nanTempFrame.source = .nvml ∧
      (classifyFrameWithPolicy nanTempFrame .testPolicy).kind = .ok ∧ Unordered nanTempFrame ∧
      ¬ ∃ temp, Usable nanTempFrame.gpuTempC temp ∧
        temp < SafetyPolicy.testPolicy.config.tempWarnC := by
  refine ⟨by decide +kernel, by decide +kernel, .inl (by decide +kernel), ?_⟩
  rintro ⟨temp, usable, below⟩
  obtain rfl : Value.nan = temp := Option.some.inj usable.present
  exact Value.not_nan_lt _ below

theorem healthy_verdict_cool :
    (SafetyMachine.testFrame (.finite 65) (.finite 200)).source ≠ .softwareFallback ∧
      ¬ NanPassesThresholds (SafetyMachine.testFrame (.finite 65) (.finite 200)) .testPolicy := by
  have real : (SafetyMachine.testFrame (.finite 65) (.finite 200)).source ≠ .softwareFallback := by
    decide +kernel
  have number : ¬ Unordered (SafetyMachine.testFrame (.finite 65) (.finite 200)) := by
    rintro (nan | nan) <;> exact absurd nan (by decide +kernel)
  refine ⟨real, (healthy_verdict_iff _ .testPolicy real).mp ⟨fun _ => ?_, ?_, ?_⟩⟩
  · exact ⟨.finite 65, .finite 200, .finite 300, .finite 350,
      ⟨by decide +kernel, by decide +kernel⟩, ⟨by decide +kernel, by decide +kernel⟩, rfl,
      by decide +kernel, by decide +kernel⟩
  · intro warned
    exact absurd warned (by decide +kernel)
  · intro nan
    exact absurd nan number

theorem evaluate_policyState (m : SafetyMachine) (frame : TelemetryFrame) :
    (m.evaluate frame).1.policyState = (m.kindOf frame).policyState m.brakeEngaged := by
  simp only [SafetyMachine.evaluate, SafetyMachine.policyFor_eq, SafetyMachine.kindOf]
  rfl

def FailedClosed (reply : SafetySnapshot × SafetyMachine) : Prop :=
  reply.1.desiredBrake = true ∧ reply.1.hysteresisOkCount = 0 ∧ reply.2.okCount = 0 ∧
    reply.1.policyState ∉
      [SafetyState.healthyReal, .warning, .recovering, .simulatedSoftwareOnly]

instance (reply : SafetySnapshot × SafetyMachine) : Decidable (FailedClosed reply) :=
  inferInstanceAs (Decidable (_ ∧ _))

theorem evaluate_failedClosed_iff (m : SafetyMachine) (frame : TelemetryFrame) :
    FailedClosed (m.evaluate frame) ↔ (m.kindOf frame).failsClosed = true := by
  constructor
  · rintro ⟨_, _, _, state⟩
    rw [evaluate_policyState] at state
    cases kind : m.kindOf frame <;> cases engaged : m.brakeEngaged <;>
      simp_all [AssessmentKind.failsClosed, AssessmentKind.policyState]
  · intro closed
    obtain ⟨desired, streak, counted⟩ := evaluate_failsClosed closed
    refine ⟨desired, streak, counted, ?_⟩
    rw [evaluate_policyState]
    cases kind : m.kindOf frame <;>
      simp_all [AssessmentKind.failsClosed, AssessmentKind.policyState]

theorem unavailable_failsClosed_iff (raw : RawTelemetry) (now : Nat) (cadenceMs : Nat)
    (clock : SampleClock) (m : SafetyMachine) (unavailable : raw.source = .nvmlUnavailable) :
    FailedClosed (m.evaluate (assessWithClock raw now cadenceMs clock).1) ↔
      ¬ ∃ temp power warn critical, Verified raw now cadenceMs m.policy temp power warn critical ∧
        ¬ m.policy.config.tempCriticalC < .finite temp ∧ ¬ critical < .finite power := by
  have real : raw.source ≠ .softwareFallback := by simp [unavailable]
  rw [evaluate_failedClosed_iff]
  constructor
  · rintro closed ⟨temp, power, warn, critical, verified, calm⟩
    rw [SafetyMachine.kindOf, verified_kind clock real verified, ← Bool.not_eq_false,
      thresholdKind_passed] at closed
    exact closed calm
  · intro blocked
    by_cases verified : ∃ temp power warn critical,
        Verified raw now cadenceMs m.policy temp power warn critical
    · obtain ⟨temp, power, warn, critical, verified⟩ := verified
      rw [SafetyMachine.kindOf, verified_kind clock real verified, ← Bool.not_eq_false,
        thresholdKind_passed]
      exact fun calm => blocked ⟨temp, power, warn, critical, verified, calm⟩
    · rcases unverified_kind clock real verified with kind | kind | kind <;>
        simp [SafetyMachine.kindOf, kind, AssessmentKind.failsClosed]

-- A bag with healthy readings whose tag says that no device was reached.
def unavailableBag : RawTelemetry :=
  { RawTelemetry.nvmlTempPower 1700000000000 (.finite 65) (.finite 200) with
    source := .nvmlUnavailable }

theorem unavailable_healthy :
    let frame := (assessWithClock unavailableBag 1700000000000 100 (.withSessionId "test")).1
    let reply := (SafetyMachine.start .testPolicy false).evaluate frame
    unavailableBag.source = .nvmlUnavailable ∧ reply.1.desiredBrake = false ∧
      reply.1.policyState = .healthyReal ∧ ¬ FailedClosed reply := by
  decide +kernel

theorem unavailable_failsClosed_hot :
    FailedClosed ((SafetyMachine.start .testPolicy false).evaluate
      (assessWithClock { unavailableBag with gpuTempC := some (.finite 86) } 1700000000000 100
        (.withSessionId "test")).1) := by
  refine (unavailable_failsClosed_iff _ _ _ _ _ rfl).mpr ?_
  rintro ⟨temp, _, _, _, verified, calm, _⟩
  obtain rfl : 86 = temp := by simpa using verified.temperature.1
  exact calm (by decide +kernel)

end ThalamicRelay
