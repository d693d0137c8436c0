import ThalamicRelay.Safety.Machine

set_option autoImplicit false

namespace ThalamicRelay

open BinaryFloat Saturating

structure Usable (sample : TelemetrySample) (value : F32) : Prop where
  valid : sample.validity = .valid
  present : sample.value = some value

theorem sampleFaultRank_none (sample : TelemetrySample) (name : String) :
    sampleFaultRank sample name = none ↔ ∃ value, Usable sample value := by
  constructor
  · intro clean
    simp only [sampleFaultRank] at clean
    cases valid : sample.validity with
    | valid =>
      cases present : sample.value with
      | none => simp [valid, present] at clean
      | some value => exact ⟨value, valid, present⟩
    | _ => simp [valid] at clean
  · rintro ⟨value, valid, present⟩
    simp [sampleFaultRank, valid, present]

theorem sampleFaultRank_kind {sample : TelemetrySample} {name : String} {rank : Nat}
    {fault : FrameAssessment} (found : sampleFaultRank sample name = some (rank, fault)) :
    fault.kind = .missing ∨ fault.kind = .invalid ∨ fault.kind = .stale := by
  simp only [sampleFaultRank] at found
  cases valid : sample.validity with
  | valid =>
    cases present : sample.value <;> simp [valid, present] at found
    simp [← found.2]
  | _ =>
    simp only [valid, Option.some.injEq, Prod.mk.injEq] at found
    simp [← found.2]

theorem worstSafetyFault_none (frame : TelemetryFrame) :
    worstSafetyFault frame = none ↔
      (∃ temp, Usable frame.gpuTempC temp) ∧ ∃ power, Usable frame.powerW power := by
  rw [← sampleFaultRank_none frame.gpuTempC "gpu_temp_c",
    ← sampleFaultRank_none frame.powerW "power_w", worstSafetyFault]
  cases sampleFaultRank frame.gpuTempC "gpu_temp_c" <;>
    cases sampleFaultRank frame.powerW "power_w" <;> simp
  split_ifs <;> simp

theorem worstSafetyFault_kind {frame : TelemetryFrame} {fault : FrameAssessment}
    (found : worstSafetyFault frame = some fault) :
    fault.kind = .missing ∨ fault.kind = .invalid ∨ fault.kind = .stale := by
  simp only [worstSafetyFault] at found
  cases temp : sampleFaultRank frame.gpuTempC "gpu_temp_c" with
  | none =>
    cases power : sampleFaultRank frame.powerW "power_w" with
    | none => simp [temp, power] at found
    | some second =>
      simp only [temp, power, Option.some.injEq] at found
      exact found ▸ sampleFaultRank_kind power
  | some first =>
    cases power : sampleFaultRank frame.powerW "power_w" with
    | none =>
      simp only [temp, power, Option.some.injEq] at found
      exact found ▸ sampleFaultRank_kind temp
    | some second =>
      simp only [temp, power] at found
      split_ifs at found <;> simp only [Option.some.injEq] at found
      · exact found ▸ sampleFaultRank_kind temp
      · exact found ▸ sampleFaultRank_kind power

def outdated (frame : TelemetryFrame) (policy : SafetyPolicy) : Prop :=
  policy.config.maxAcquisitionIntervalMs < frame.acquisitionCadenceMs ∨
    policy.config.maxSampleAgeMs ≤ frame.acquiredAt - frame.gpuTempC.observedAt ∨
    policy.config.maxSampleAgeMs ≤ frame.acquiredAt - frame.powerW.observedAt

instance (frame : TelemetryFrame) (policy : SafetyPolicy) : Decidable (outdated frame policy) :=
  inferInstanceAs (Decidable (_ ∨ _))

def thresholdKind (config : SafetyPolicyConfig) (powerWarnW powerCriticalW temp power : F32) :
    AssessmentKind :=
  if config.tempCriticalC < temp ∨ powerCriticalW < power then .critical
  else if config.tempWarnC ≤ temp ∨ powerWarnW ≤ power then .warn
  else .ok

theorem classify_simulated {frame : TelemetryFrame} (policy : SafetyPolicy)
    (simulated : frame.source = .softwareFallback) :
    (classifyFrameWithPolicy frame policy).kind = .simulated := by
  simp [classifyFrameWithPolicy, simulated]

theorem classify_fault {frame : TelemetryFrame} {fault : FrameAssessment} (policy : SafetyPolicy)
    (real : frame.source ≠ .softwareFallback) (found : worstSafetyFault frame = some fault) :
    classifyFrameWithPolicy frame policy = fault := by
  simp [classifyFrameWithPolicy, real, found]

theorem classify_usable {frame : TelemetryFrame} {temp power : F32} (policy : SafetyPolicy)
    (real : frame.source ≠ .softwareFallback) (tempUsable : Usable frame.gpuTempC temp)
    (powerUsable : Usable frame.powerW power) :
    (classifyFrameWithPolicy frame policy).kind =
      if outdated frame policy then .stale
      else match policy.powerLimitsW with
      | none => .missing
      | some (warn, critical) => thresholdKind policy.config warn critical temp power := by
  have clean := (worstSafetyFault_none frame).mpr ⟨⟨temp, tempUsable⟩, ⟨power, powerUsable⟩⟩
  have readings : safetyReadings frame = .ok (temp, power) := by
    simp only [safetyReadings, safetyValue, tempUsable.valid, tempUsable.present,
      powerUsable.valid, powerUsable.present]
    rfl
  simp only [classifyFrameWithPolicy, if_neg real, clean, readings]
  by_cases old : outdated frame policy
  · have guard := old
    simp only [outdated] at guard
    rw [if_pos guard, if_pos old]
  · have guard := old
    simp only [outdated] at guard
    rw [if_neg guard, if_neg old]
    cases policy.powerLimitsW with
    | none => rfl
    | some limits =>
      obtain ⟨warn, critical⟩ := limits
      simp only [thresholdKind]
      split_ifs <;> simp_all

theorem fromRaw_usable {signal : SignalId} {low high : ℚ}
    (lowest : (signalSpec signal).min = .finite low)
    (highest : (signalSpec signal).max = .finite high) (raw : Option F32) (observedAt : Nat)
    (source : TelemetrySource) (now : Nat) (staleAfterMs : Nat) (value : F32) :
    Usable (.fromRawWithStaleAfter signal raw observedAt source now staleAfterMs) value ↔
      ∃ q, value = .finite q ∧ raw = some (.finite q) ∧ low ≤ q ∧ q ≤ high ∧
        observedAt ≤ now ∧ now - observedAt < staleAfterMs := by
  constructor
  · rintro ⟨valid, present⟩
    simp only [TelemetrySample.fromRawWithStaleAfter] at valid present
    cases raw with
    | none => split_ifs at valid
    | some v =>
      by_cases future : now < observedAt
      · by_cases number : v.isFinite = false <;> simp [future, number] at valid
      by_cases number : v.isFinite = false
      · simp [future, number] at valid
      obtain ⟨q, rfl⟩ := Value.eq_finite_of_isFinite (by simpa using number)
      by_cases outside : q < low ∨ high < q
      · simp [future, number, lowest, highest, outside] at valid
      by_cases old : staleAfterMs ≤ now - observedAt
      · simp [future, number, lowest, highest, outside, old] at valid
      have same : Value.finite q = value := by
        simpa [future, lowest, highest, outside, old, Value.isFinite] using present
      rw [not_or, not_lt, not_lt] at outside
      exact ⟨q, same.symm, rfl, outside.1, outside.2, by omega, by omega⟩
  · rintro ⟨q, rfl, rfl, above, below, past, fresh⟩
    have future : ¬ now < observedAt := by omega
    have old : ¬ staleAfterMs ≤ now - observedAt := by omega
    have outside : ¬ (q < low ∨ high < q) := by
      rw [not_or, not_lt, not_lt]
      exact ⟨above, below⟩
    constructor <;>
      simp [TelemetrySample.fromRawWithStaleAfter, future, lowest, highest, outside, old,
        Value.isFinite]

/-- What the claim of a healthy, warning or critical verdict rests on. -/
structure Verified (raw : RawTelemetry) (now : Nat) (cadenceMs : Nat)
    (policy : SafetyPolicy) (temp power : ℚ) (powerWarnW powerCriticalW : F32) : Prop where
  temperature : raw.gpuTempC = some (.finite temp) ∧ 0 ≤ temp ∧ temp ≤ 125
  board : raw.powerW = some (.finite power) ∧ 0 ≤ power ∧ power ≤ 2000
  notFuture : raw.sourceUnixMs.getD now ≤ now
  fresh : now - raw.sourceUnixMs.getD now < min (20 * max cadenceMs 1) u64Max
  young : now - raw.sourceUnixMs.getD now < policy.config.maxSampleAgeMs
  interval : max cadenceMs 1 ≤ policy.config.maxAcquisitionIntervalMs
  limits : policy.powerLimitsW = some (powerWarnW, powerCriticalW)

theorem assess_usable_temp (raw : RawTelemetry) (now : Nat) (cadenceMs : Nat)
    (clock : SampleClock) (value : F32) :
    Usable (assessWithClock raw now cadenceMs clock).1.gpuTempC value ↔
      ∃ q, value = .finite q ∧ raw.gpuTempC = some (.finite q) ∧ 0 ≤ q ∧ q ≤ 125 ∧
        raw.sourceUnixMs.getD now ≤ now ∧
        now - raw.sourceUnixMs.getD now < min (20 * max cadenceMs 1) u64Max := by
  rw [← staleAfterMs_safety .gpuTempC cadenceMs rfl]
  exact fromRaw_usable rfl rfl _ _ _ _ _ _

theorem assess_usable_power (raw : RawTelemetry) (now : Nat) (cadenceMs : Nat)
    (clock : SampleClock) (value : F32) :
    Usable (assessWithClock raw now cadenceMs clock).1.powerW value ↔
      ∃ q, value = .finite q ∧ raw.powerW = some (.finite q) ∧ 0 ≤ q ∧ q ≤ 2000 ∧
        raw.sourceUnixMs.getD now ≤ now ∧
        now - raw.sourceUnixMs.getD now < min (20 * max cadenceMs 1) u64Max := by
  rw [← staleAfterMs_safety .powerW cadenceMs rfl]
  exact fromRaw_usable rfl rfl _ _ _ _ _ _

theorem assess_outdated (raw : RawTelemetry) (now : Nat) (cadenceMs : Nat)
    (clock : SampleClock) (policy : SafetyPolicy) :
    outdated (assessWithClock raw now cadenceMs clock).1 policy ↔
      policy.config.maxAcquisitionIntervalMs < max cadenceMs 1 ∨
        policy.config.maxSampleAgeMs ≤ now - raw.sourceUnixMs.getD now := by
  have age : (assessWithClock raw now cadenceMs clock).1.acquiredAt -
      (assessWithClock raw now cadenceMs clock).1.gpuTempC.observedAt =
        now - raw.sourceUnixMs.getD now := rfl
  have same : (assessWithClock raw now cadenceMs clock).1.powerW.observedAt =
      (assessWithClock raw now cadenceMs clock).1.gpuTempC.observedAt := rfl
  have cadence : (assessWithClock raw now cadenceMs clock).1.acquisitionCadenceMs =
      max cadenceMs 1 := rfl
  rw [outdated, same, age, cadence, or_self_iff]

theorem verified_kind {raw : RawTelemetry} {now : Nat} {cadenceMs : Nat}
    {policy : SafetyPolicy} {temp power : ℚ} {powerWarnW powerCriticalW : F32}
    (clock : SampleClock) (real : raw.source ≠ .softwareFallback)
    (verified : Verified raw now cadenceMs policy temp power powerWarnW powerCriticalW) :
    (classifyFrameWithPolicy (assessWithClock raw now cadenceMs clock).1 policy).kind =
      thresholdKind policy.config powerWarnW powerCriticalW (.finite temp) (.finite power) := by
  obtain ⟨temperature, board, notFuture, fresh, young, interval, limits⟩ := verified
  have current : ¬ outdated (assessWithClock raw now cadenceMs clock).1 policy := by
    rw [assess_outdated]
    omega
  rw [classify_usable policy real
    ((assess_usable_temp raw now cadenceMs clock _).mpr
      ⟨temp, rfl, temperature.1, temperature.2.1, temperature.2.2, notFuture, fresh⟩)
    ((assess_usable_power raw now cadenceMs clock _).mpr
      ⟨power, rfl, board.1, board.2.1, board.2.2, notFuture, fresh⟩),
    if_neg current, limits]

theorem unverified_kind {raw : RawTelemetry} {now : Nat} {cadenceMs : Nat}
    {policy : SafetyPolicy} (clock : SampleClock) (real : raw.source ≠ .softwareFallback)
    (unverified : ¬ ∃ temp power warn critical,
      Verified raw now cadenceMs policy temp power warn critical) :
    let kind := (classifyFrameWithPolicy (assessWithClock raw now cadenceMs clock).1 policy).kind
    kind = .missing ∨ kind = .invalid ∨ kind = .stale := by
  intro kind
  cases fault : worstSafetyFault (assessWithClock raw now cadenceMs clock).1 with
  | some found =>
    have same := classify_fault policy real fault
    simp only [kind, same]
    exact worstSafetyFault_kind fault
  | none =>
    obtain ⟨⟨t, tempUsable⟩, ⟨p, powerUsable⟩⟩ := (worstSafetyFault_none _).mp fault
    have outcome := classify_usable policy real tempUsable powerUsable
    obtain ⟨temp, rfl, temperature⟩ := (assess_usable_temp raw now cadenceMs clock t).mp tempUsable
    obtain ⟨power, rfl, board⟩ := (assess_usable_power raw now cadenceMs clock p).mp powerUsable
    simp only [kind, outcome]
    by_cases old : outdated (assessWithClock raw now cadenceMs clock).1 policy
    · simp [old]
    rw [if_neg old]
    cases limits : policy.powerLimitsW with
    | none => simp
    | some bounds =>
      obtain ⟨warn, critical⟩ := bounds
      rw [assess_outdated] at old
      exact absurd ⟨temp, power, warn, critical,
        ⟨temperature.1, temperature.2.1, temperature.2.2.1⟩,
        ⟨board.1, board.2.1, board.2.2.1⟩, temperature.2.2.2.1, temperature.2.2.2.2,
        by omega, by omega, limits⟩ unverified

theorem thresholdKind_cases (config : SafetyPolicyConfig) (warn critical temp power : F32) :
    thresholdKind config warn critical temp power = .ok ∨
    thresholdKind config warn critical temp power = .warn ∨
    thresholdKind config warn critical temp power = .critical := by
  simp only [thresholdKind]
  split_ifs <;> simp

theorem evaluate_failsClosed {m : SafetyMachine} {frame : TelemetryFrame}
    (closed : (m.kindOf frame).failsClosed = true) :
    (m.evaluate frame).1.desiredBrake = true ∧ (m.evaluate frame).1.hysteresisOkCount = 0 ∧
      (m.evaluate frame).2.okCount = 0 := by
  rw [SafetyMachine.evaluate_desiredBrake, SafetyMachine.evaluate_hysteresisOkCount,
    SafetyMachine.evaluate_okCount]
  cases kind : m.kindOf frame <;>
    simp_all [AssessmentKind.failsClosed, SafetyMachine.demand, SafetyMachine.nextOkCount]

theorem assessment_failClosed_exact (raw : RawTelemetry) (now : Nat) (cadenceMs : Nat)
    (clock : SampleClock) (policy : SafetyPolicy) :
    let frame := (assessWithClock raw now cadenceMs clock).1
    let kind := (classifyFrameWithPolicy frame policy).kind
    (kind = .simulated ↔ raw.source = .softwareFallback) ∧
    (raw.source ≠ .softwareFallback →
      ((kind = .ok ∨ kind = .warn ∨ kind = .critical) ↔
        ∃ temp power warn critical, Verified raw now cadenceMs policy temp power warn critical) ∧
      (∀ temp power warn critical, Verified raw now cadenceMs policy temp power warn critical →
        kind =
          if policy.config.tempCriticalC < .finite temp ∨ critical < .finite power then .critical
          else if policy.config.tempWarnC ≤ .finite temp ∨ warn ≤ .finite power then .warn
          else .ok) ∧
      ((¬ ∃ temp power warn critical, Verified raw now cadenceMs policy temp power warn critical) →
        kind = .missing ∨ kind = .invalid ∨ kind = .stale)) ∧
    (∀ m : SafetyMachine, (m.kindOf frame).failsClosed = true →
      (m.evaluate frame).1.desiredBrake = true ∧ (m.evaluate frame).1.hysteresisOkCount = 0 ∧
        (m.evaluate frame).2.okCount = 0) := by
  intro frame kind
  have verdict (real : raw.source ≠ .softwareFallback) {temp power : ℚ} {warn critical : F32}
      (verified : Verified raw now cadenceMs policy temp power warn critical) :
      kind = thresholdKind policy.config warn critical (.finite temp) (.finite power) :=
    verified_kind clock real verified
  refine ⟨⟨fun simulated => ?_, fun fallback => classify_simulated policy fallback⟩,
    fun real => ⟨⟨fun healthy => ?_, ?_⟩,
      fun temp power warn critical verified => verdict real verified,
      fun unverified => unverified_kind clock real unverified⟩,
    fun m closed => evaluate_failsClosed closed⟩
  · by_contra real
    by_cases verified : ∃ temp power warn critical,
        Verified raw now cadenceMs policy temp power warn critical
    · obtain ⟨temp, power, warn, critical, verified⟩ := verified
      have same := verdict real verified
      rcases thresholdKind_cases policy.config warn critical (.finite temp) (.finite power) with
        h | h | h <;> simp [same, h] at simulated
    · rcases unverified_kind clock real verified with h | h | h <;>
        exact absurd (h.symm.trans simulated) (by decide)
  · by_contra unverified
    rcases unverified_kind clock real unverified with h | h | h <;>
      rcases healthy with k | k | k <;> exact absurd (h.symm.trans k) (by decide)
  · rintro ⟨temp, power, warn, critical, verified⟩
    rw [verdict real verified]
    exact thresholdKind_cases _ _ _ _ _

end ThalamicRelay
