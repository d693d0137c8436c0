import ThalamicRelay.Telemetry.Frame

set_option autoImplicit false

namespace ThalamicRelay

open BinaryFloat

def brakeFraction : F32 := .finite (1 / 2)

structure SafetyPolicyConfig where
  tempWarnC : F32 := .finite 75
  tempCriticalC : F32 := .finite 85
  powerWarnW : Option F32 := none
  powerCriticalW : Option F32 := none
  releaseOkStreak : Nat := 3
  maxSampleAgeMs : Nat := safetyStaleAfterMs
  maxAcquisitionIntervalMs : Nat := defaultAcquisitionCadenceMs
  deriving DecidableEq, Repr

structure PolicyError where
  message : String
  deriving DecidableEq, Repr

def orderedPositive (a b : F32) : Prop :=
  a.isFinite = true ∧ b.isFinite = true ∧ .finite 0 < a ∧ a < b

instance (a b : F32) : Decidable (orderedPositive a b) :=
  inferInstanceAs (Decidable (_ ∧ _))

namespace SafetyPolicyConfig

def powerLimits (config : SafetyPolicyConfig) (deviceDefaultW : Option F32) :
    Except PolicyError (Option (F32 × F32) × String) :=
  match config.powerWarnW, config.powerCriticalW with
  | some warn, some critical =>
    if ¬ orderedPositive warn critical ∨ .finite 2000 < critical then
      .error ⟨"power limits must be finite: 0 < warning < critical <= 2000 W"⟩
    else if ∃ cap ∈ deviceDefaultW, cap < critical then
      .error ⟨"explicit critical power exceeds the device default power limit"⟩
    else .ok (some (warn, critical), "operator")
  | none, none =>
    match deviceDefaultW with
    | some w =>
      let warn := binary32.mul w (f32 (85 / 100))
      if orderedPositive warn w then .ok (some (warn, w), "device_default")
      else .error ⟨"device default is too small to derive power limits"⟩
    | none => .ok (none, "unavailable")
  | _, _ => .error ⟨"power warning and critical overrides must be supplied together"⟩

def validate (config : SafetyPolicyConfig) (deviceDefaultW : Option F32) :
    Except PolicyError (Option (F32 × F32) × String) :=
  if ¬ orderedPositive config.tempWarnC config.tempCriticalC ∨
      .finite 125 < config.tempCriticalC then
    .error ⟨"temperature limits must be finite: 0 < warning < critical <= 125 C"⟩
  else if config.releaseOkStreak = 0 then
    .error ⟨"release Ok streak must be positive"⟩
  else if config.maxSampleAgeMs = 0 ∨ safetyStaleAfterMs < config.maxSampleAgeMs then
    .error ⟨"maximum sample age must be in 1..=2000 ms"⟩
  else if config.maxAcquisitionIntervalMs = 0 ∨
      config.maxSampleAgeMs < config.maxAcquisitionIntervalMs then
    .error
      ⟨"maximum acquisition interval must be positive and no greater than maximum sample age"⟩
  else if ∃ w ∈ deviceDefaultW, w.isFinite = false ∨ w ≤ .finite 0 ∨ .finite 2000 < w then
    .error ⟨"device default power limit must be finite and in (0, 2000] W"⟩
  else config.powerLimits deviceDefaultW

end SafetyPolicyConfig

structure SafetyPolicy where
  config : SafetyPolicyConfig
  powerLimitsW : Option (F32 × F32)
  powerLimitSource : String
  validated : ∃ deviceDefaultW,
    config.validate deviceDefaultW = .ok (powerLimitsW, powerLimitSource)

def SafetyPolicyConfig.resolve (config : SafetyPolicyConfig) (deviceDefaultW : Option F32) :
    Except PolicyError SafetyPolicy :=
  match accepted : config.validate deviceDefaultW with
  | .ok (limits, source) => .ok ⟨config, limits, source, deviceDefaultW, accepted⟩
  | .error error => .error error

namespace SafetyPolicyConfig

structure Ordered (config : SafetyPolicyConfig) : Prop where
  temperatures : orderedPositive config.tempWarnC config.tempCriticalC
  hottest : ¬ .finite 125 < config.tempCriticalC
  streak : 0 < config.releaseOkStreak
  age : 0 < config.maxSampleAgeMs ∧ config.maxSampleAgeMs ≤ safetyStaleAfterMs
  interval : 0 < config.maxAcquisitionIntervalMs ∧
    config.maxAcquisitionIntervalMs ≤ config.maxSampleAgeMs

theorem validate_ok {config : SafetyPolicyConfig} {deviceDefaultW : Option F32}
    {result : Option (F32 × F32) × String}
    (accepted : config.validate deviceDefaultW = .ok result) :
    config.Ordered ∧ config.powerLimits deviceDefaultW = .ok result := by
  unfold validate at accepted
  split_ifs at accepted with temperature streak age interval device
  rw [not_or, not_not] at temperature
  refine ⟨⟨temperature.1, temperature.2, ?_, ?_, ?_⟩, accepted⟩ <;> omega

theorem powerLimits_ordered {config : SafetyPolicyConfig} {deviceDefaultW : Option F32}
    {warn critical : F32} {source : String}
    (accepted : config.powerLimits deviceDefaultW = .ok (some (warn, critical), source)) :
    orderedPositive warn critical := by
  unfold powerLimits at accepted
  split at accepted
  case h_1 =>
    split_ifs at accepted with bad above
    rw [not_or, not_not] at bad
    simp only [Except.ok.injEq, Prod.mk.injEq, Option.some.injEq] at accepted
    obtain ⟨⟨rfl, rfl⟩, -⟩ := accepted
    exact bad.1
  case h_2 =>
    split at accepted
    · dsimp only at accepted
      split_ifs at accepted with ordered
      simp only [Except.ok.injEq, Prod.mk.injEq, Option.some.injEq] at accepted
      obtain ⟨⟨rfl, rfl⟩, -⟩ := accepted
      exact ordered
    · simp at accepted
  case h_3 => simp at accepted

end SafetyPolicyConfig

namespace SafetyPolicy

theorem ordered (policy : SafetyPolicy) : policy.config.Ordered := by
  obtain ⟨_, accepted⟩ := policy.validated
  exact (SafetyPolicyConfig.validate_ok accepted).1

theorem powerLimits_ordered (policy : SafetyPolicy) {warn critical : F32}
    (known : policy.powerLimitsW = some (warn, critical)) : orderedPositive warn critical := by
  obtain ⟨_, accepted⟩ := policy.validated
  rw [known] at accepted
  exact SafetyPolicyConfig.powerLimits_ordered (SafetyPolicyConfig.validate_ok accepted).2

theorem resolve_validated (policy : SafetyPolicy) {deviceDefaultW : Option F32}
    (accepted : policy.config.validate deviceDefaultW =
      .ok (policy.powerLimitsW, policy.powerLimitSource)) :
    policy.config.resolve deviceDefaultW = .ok policy := by
  simp only [SafetyPolicyConfig.resolve]
  split
  next limits source same =>
    rw [accepted] at same
    simp only [Except.ok.injEq, Prod.mk.injEq] at same
    obtain ⟨rfl, rfl⟩ := same
    rfl
  next error same => simp [accepted] at same

-- The structure holds exactly the policies that resolve returns.
theorem resolved (policy : SafetyPolicy) :
    ∃ deviceDefaultW, policy.config.resolve deviceDefaultW = .ok policy := by
  obtain ⟨deviceDefaultW, accepted⟩ := policy.validated
  exact ⟨deviceDefaultW, policy.resolve_validated accepted⟩

-- Explicit limits of 300 W and 350 W, as the source's test policy, and a chosen streak.
def testConfig (releaseOkStreak : Nat) : SafetyPolicyConfig where
  powerWarnW := some (.finite 300)
  powerCriticalW := some (.finite 350)
  releaseOkStreak := releaseOkStreak

def testPolicy : SafetyPolicy where
  config := testConfig 3
  powerLimitsW := some (.finite 300, .finite 350)
  powerLimitSource := "operator"
  validated := ⟨none, by decide +kernel⟩

def eagerPolicy : SafetyPolicy where
  config := testConfig 1
  powerLimitsW := some (.finite 300, .finite 350)
  powerLimitSource := "operator"
  validated := ⟨none, by decide +kernel⟩

end SafetyPolicy

end ThalamicRelay
