import ThalamicRelay.Actuator.HardwareBridge
import ThalamicRelay.Supervisor.PowerUnavailable

set_option autoImplicit false

namespace ThalamicRelay

open BinaryFloat Saturating

/-- What the supervisor reads of its command line; the parser refuses a zero interval. -/
structure CommandLine extends Cli where
  safetyTempWarnC : F32 := .finite 75
  safetyTempCriticalC : F32 := .finite 85
  safetyPowerWarnW : Option F32 := none
  safetyPowerCriticalW : Option F32 := none
  safetyReleaseOkStreak : Nat := 3
  safetyMaxSampleAgeMs : Nat := 2000
  safetyMaxAcquisitionIntervalMs : Nat := 100
  stepIntervalMs := 100
  forceSoftwareOnly := false
  ipcSessionId := ""
  ticking : 1 ≤ stepIntervalMs := by decide

namespace CommandLine

def safetyPolicyConfig (line : CommandLine) : SafetyPolicyConfig where
  tempWarnC := line.safetyTempWarnC
  tempCriticalC := line.safetyTempCriticalC
  powerWarnW := line.safetyPowerWarnW
  powerCriticalW := line.safetyPowerCriticalW
  releaseOkStreak := line.safetyReleaseOkStreak
  maxSampleAgeMs := line.safetyMaxSampleAgeMs
  maxAcquisitionIntervalMs := line.safetyMaxAcquisitionIntervalMs

def prepare (line : CommandLine) : Except String SafetyPolicyConfig :=
  let config := line.safetyPolicyConfig
  match config.resolve none with
  | .error error => .error error.message
  | .ok _ =>
    if config.maxAcquisitionIntervalMs < line.stepIntervalMs ∨
        config.maxSampleAgeMs < multiply u64Max line.stepIntervalMs 10 then
      .error ("step interval exceeds safety acquisition limit or ten-tick evaluation exceeds " ++
        "sample-age limit")
    else .ok config

def run (line : CommandLine) (generatedSessionId : String) (currentW defaultW : Option UInt32) :
    Except String Startup :=
  match line.prepare with
  | .error error => .error error
  | .ok config =>
    match config.resolve (if line.forceSoftwareOnly then none else defaultW.map asF32) with
    | .error error => .error error.message
    | .ok policy => .ok ⟨line.toCli, policy, generatedSessionId, currentW, defaultW⟩

example : (CommandLine.prepare {}).toBool = true := by decide +kernel

end CommandLine

namespace SafetyPolicyConfig

theorem Ordered.validate {config : SafetyPolicyConfig} (ordered : config.Ordered)
    {deviceDefaultW : Option F32}
    (sound : ∀ w ∈ deviceDefaultW, w.isFinite = true ∧ .finite 0 < w ∧ w ≤ .finite 2000) :
    config.validate deviceDefaultW = config.powerLimits deviceDefaultW := by
  have temperature : ¬ (¬ orderedPositive config.tempWarnC config.tempCriticalC ∨
      .finite 125 < config.tempCriticalC) := by
    rw [not_or, not_not]
    exact ⟨ordered.temperatures, ordered.hottest⟩
  have streak := ordered.streak
  have age := ordered.age
  have interval := ordered.interval
  have device : ¬ ∃ w ∈ deviceDefaultW,
      w.isFinite = false ∨ w ≤ .finite 0 ∨ .finite 2000 < w := by
    rintro ⟨w, member, unsound⟩
    obtain ⟨number, positive, bounded⟩ := sound w member
    obtain ⟨q, rfl⟩ := Value.eq_finite_of_isFinite number
    rw [Value.finite_lt_finite] at positive
    rw [Value.finite_le_finite] at bounded
    rcases unsound with infinite | low | high
    next => simp [Value.isFinite] at infinite
    next => exact absurd low (not_le.mpr positive)
    next => exact absurd high (not_lt.mpr bounded)
  rw [SafetyPolicyConfig.validate, if_neg temperature, if_neg (by omega), if_neg (by omega),
    if_neg (by omega), if_neg device]

theorem validate_device {config : SafetyPolicyConfig} {w : F32}
    {result : Option (F32 × F32) × String} (accepted : config.validate (some w) = .ok result) :
    w.isFinite = true ∧ .finite 0 < w ∧ w ≤ .finite 2000 := by
  unfold validate at accepted
  split_ifs at accepted with temperature streak age interval device
  simp only [Option.mem_some_iff, exists_eq_left', not_or, Bool.not_eq_false] at device
  obtain ⟨number, positive, bounded⟩ := device
  obtain ⟨q, rfl⟩ := Value.eq_finite_of_isFinite number
  rw [Value.finite_le_finite, not_le] at positive
  rw [Value.finite_lt_finite, not_lt] at bounded
  exact ⟨number, positive, bounded⟩

theorem resolve_iff {config : SafetyPolicyConfig} {deviceDefaultW : Option F32} :
    (∃ policy, config.resolve deviceDefaultW = .ok policy) ↔
      ∃ result, config.validate deviceDefaultW = .ok result := by
  constructor
  next =>
    rintro ⟨policy, resolved⟩
    exact ⟨_, (resolve_ok resolved).2⟩
  next =>
    rintro ⟨⟨limits, source⟩, accepted⟩
    refine ⟨⟨config, limits, source, deviceDefaultW, accepted⟩, ?_⟩
    unfold resolve
    split
    next found =>
      rw [accepted, Except.ok.injEq, Prod.mk.injEq] at found
      obtain ⟨rfl, rfl⟩ := found
      rfl
    next found => simp [accepted] at found

end SafetyPolicyConfig

section Watts

variable {w : UInt32}

theorem asF32_sound :
    ((asF32 w).isFinite = true ∧ .finite 0 < asF32 w ∧ asF32 w ≤ .finite 2000) ↔
      1 ≤ w ∧ w ≤ 2000 := by
  have limit := asF32_le w (show 2000 + 1 < 2 ^ 24 by decide)
  by_cases bounded : w.toNat ≤ 2000
  next =>
    have positive : (0 : ℚ) < w.toNat ↔ 1 ≤ w := by
      rw [Nat.cast_pos]
      exact Iff.rfl
    have below : (w.toNat : ℚ) ≤ 2000 := by exact_mod_cast bounded
    have bounded : w ≤ 2000 := bounded
    rw [asF32_exact (by omega)]
    simp [Value.isFinite, positive, below, bounded]
  next =>
    have above : ¬ asF32 w ≤ .finite 2000 := fun under => bounded (limit.mp under)
    have bounded : ¬ w ≤ 2000 := bounded
    simp [above, bounded]

theorem derivedWarn_eq (bounded : w.toNat ≤ 2000) :
    binary32.mul (asF32 w) (f32 (85 / 100)) =
      binary32.round (w.toNat * (7130317 / 8388608)) := by
  have share : f32 (85 / 100) = .finite (7130317 / 8388608) := by decide +kernel
  rw [asF32_exact (by omega), share, Format.mul]

theorem derivedWarn_above (positive : 1 ≤ w.toNat) (bounded : w.toNat ≤ 2000) :
    .finite (2 ^ (-1 : ℤ)) ≤ binary32.mul (asF32 w) (f32 (85 / 100)) := by
  have whole : (1 : ℚ) ≤ w.toNat := by exact_mod_cast positive
  have half : (2 : ℚ) ^ (-1 : ℤ) ≤ w.toNat * (7130317 / 8388608) := by
    norm_num
    linarith
  rw [derivedWarn_eq bounded]
  exact binary32.zpow_le_round (-1) _ (by decide) (by decide) half

-- 0.85 as an f32 is below 7/8, and 7/8 of a whole number of watts is an f32 again.
theorem derivedWarn_below (bounded : w.toNat ≤ 2000) :
    binary32.mul (asF32 w) (f32 (85 / 100)) ≤ .finite ((7 * w.toNat : ℤ) * 2 ^ (-3 : ℤ)) := by
  have digits : |(7 * w.toNat : ℤ)| < 2 ^ binary32.precision := by
    have few : (7 * w.toNat : ℤ) < 2 ^ 24 := by omega
    rw [abs_of_nonneg (by omega)]
    exact few
  have share : (w.toNat : ℚ) * (7130317 / 8388608) ≤ (7 * w.toNat : ℤ) * 2 ^ (-3 : ℤ) := by
    have nonneg : (0 : ℚ) ≤ w.toNat := by positivity
    push_cast
    norm_num
    linarith
  rw [derivedWarn_eq bounded, ← binary32.round_representable _ (-3) digits (by decide) (by decide)]
  exact binary32.round_mono (by decide) share

theorem derivable (positive : 1 ≤ w.toNat) (bounded : w.toNat ≤ 2000) :
    orderedPositive (binary32.mul (asF32 w) (f32 (85 / 100))) (asF32 w) := by
  have whole : (1 : ℚ) ≤ w.toNat := by exact_mod_cast positive
  have above := derivedWarn_above positive bounded
  have below := derivedWarn_below bounded
  rw [asF32_exact (by omega)] at above below ⊢
  obtain ⟨q, number, half, share⟩ := Value.finite_between above below
  push_cast at share
  norm_num at share
  rw [number]
  refine ⟨rfl, rfl, ?_, ?_⟩
  next =>
    rw [Value.finite_lt_finite]
    exact lt_of_lt_of_le (by positivity) half
  next =>
    rw [Value.finite_lt_finite]
    linarith

end Watts

namespace CommandLine

def Admits (line : CommandLine) (defaultW : Option UInt32) : Prop :=
  ∀ w ∈ defaultW, (1 ≤ w ∧ w ≤ 2000) ∧
    ∀ critical ∈ line.safetyPowerCriticalW, critical ≤ .finite w.toNat

theorem prepare_ok {line : CommandLine} {config : SafetyPolicyConfig}
    (prepared : line.prepare = .ok config) :
    config = line.safetyPolicyConfig ∧ config.Ordered ∧
      (∃ result, config.powerLimits none = .ok result) ∧
      line.stepIntervalMs ≤ config.maxAcquisitionIntervalMs ∧
      10 * line.stepIntervalMs ≤ config.maxSampleAgeMs := by
  unfold prepare at prepared
  simp only at prepared
  split at prepared
  next => simp at prepared
  next policy resolved =>
    split_ifs at prepared with late
    obtain rfl := Except.ok.inj prepared
    obtain ⟨ordered, limits⟩ := SafetyPolicyConfig.validate_ok
      (SafetyPolicyConfig.resolve_ok resolved).2
    rw [not_or, not_lt, not_lt] at late
    refine ⟨rfl, ordered, ⟨_, limits⟩, late.1, ?_⟩
    -- The product saturates far above every age that resolve admits.
    have bound := ordered.age.2
    have product := late.2
    simp only [multiply, u64Max, safetyStaleAfterMs] at product bound
    omega

theorem powerLimits_device {config : SafetyPolicyConfig} {result : Option (F32 × F32) × String}
    (accepted : config.powerLimits none = .ok result) {w : UInt32} (positive : 1 ≤ w.toNat)
    (bounded : w.toNat ≤ 2000) :
    (∃ result, config.powerLimits (some (asF32 w)) = .ok result) ↔
      ∀ critical ∈ config.powerCriticalW, critical ≤ .finite w.toNat := by
  have derived := derivable positive bounded
  unfold SafetyPolicyConfig.powerLimits at accepted ⊢
  cases warn : config.powerWarnW with
  | none =>
    cases critical : config.powerCriticalW with
    | none => simp [derived]
    | some c => simp [warn, critical] at accepted
  | some w' =>
    cases critical : config.powerCriticalW with
    | none => simp [warn, critical] at accepted
    | some c =>
      simp only [warn, critical] at accepted
      split_ifs at accepted with disordered
      have ordered := disordered
      rw [not_or, not_not] at ordered
      obtain ⟨q, rfl⟩ := Value.eq_finite_of_isFinite ordered.1.2.1
      simp only [if_neg disordered, asF32_exact (by omega : w.toNat < 2 ^ 24)]
      by_cases above : (w.toNat : ℚ) < q
      next => simp [above]
      next => simp [above, not_lt.mp above]

theorem resolve_device {line : CommandLine} {config : SafetyPolicyConfig}
    (prepared : line.prepare = .ok config) (defaultW : Option UInt32) :
    (∃ policy, config.resolve (if line.forceSoftwareOnly then none else defaultW.map asF32) =
      .ok policy) ↔ line.forceSoftwareOnly = true ∨ line.Admits defaultW := by
  obtain ⟨rfl, ordered, ⟨result, limits⟩, _⟩ := prepare_ok prepared
  have unqueried : ∃ result, line.safetyPolicyConfig.validate none = .ok result :=
    ⟨result, by rw [ordered.validate (by simp), limits]⟩
  rw [SafetyPolicyConfig.resolve_iff]
  cases software : line.forceSoftwareOnly with
  | true => simpa using unqueried
  | false =>
    cases defaultW with
    | none => simpa [Admits] using unqueried
    | some w =>
      simp only [Bool.false_eq_true, if_false, false_or, Option.map_some, Admits,
        Option.mem_some_iff, forall_eq']
      constructor
      next =>
        rintro ⟨device, accepted⟩
        obtain ⟨positive, bounded⟩ := asF32_sound.mp (SafetyPolicyConfig.validate_device accepted)
        have admitted := (SafetyPolicyConfig.validate_ok accepted).2
        exact ⟨⟨positive, bounded⟩, (powerLimits_device limits positive bounded).mp ⟨_, admitted⟩⟩
      next =>
        rintro ⟨⟨positive, bounded⟩, below⟩
        have sound := asF32_sound.mpr ⟨positive, bounded⟩
        rw [ordered.validate (by simpa using sound)]
        exact (powerLimits_device limits positive bounded).mpr below

theorem run_ok {line : CommandLine} {generatedSessionId : String}
    {currentW defaultW : Option UInt32} {startup : Startup} :
    line.run generatedSessionId currentW defaultW = .ok startup ↔
      ∃ config policy, line.prepare = .ok config ∧
        config.resolve (if line.forceSoftwareOnly then none else defaultW.map asF32) =
          .ok policy ∧
        startup = ⟨line.toCli, policy, generatedSessionId, currentW, defaultW⟩ := by
  unfold run
  cases prepared : line.prepare with
  | error => simp
  | ok config =>
    cases resolved : config.resolve
        (if line.forceSoftwareOnly then none else defaultW.map asF32) with
    | error => simp [resolved]
    | ok policy =>
      constructor
      next =>
        intro started
        simp only [resolved, Except.ok.injEq] at started
        exact ⟨config, policy, rfl, resolved, started.symm⟩
      next =>
        rintro ⟨_, _, same, known, rfl⟩
        obtain rfl := Except.ok.inj same
        simp only [known]

theorem run_iff (line : CommandLine) (generatedSessionId : String)
    (currentW defaultW : Option UInt32) :
    ((∃ startup, line.run generatedSessionId currentW defaultW = .ok startup) ↔
      (∃ config, line.prepare = .ok config) ∧
        (line.forceSoftwareOnly = true ∨ line.Admits defaultW)) ∧
    ∀ startup, line.run generatedSessionId currentW defaultW = .ok startup →
      (startup.policy.powerLimitsW = none ↔
        line.safetyPowerWarnW = none ∧ line.safetyPowerCriticalW = none ∧
          (line.forceSoftwareOnly = true ∨ defaultW = none)) := by
  constructor
  next =>
    constructor
    next =>
      rintro ⟨startup, started⟩
      obtain ⟨config, policy, prepared, resolved, _⟩ := run_ok.mp started
      exact ⟨⟨config, prepared⟩, (resolve_device prepared defaultW).mp ⟨policy, resolved⟩⟩
    next =>
      rintro ⟨⟨config, prepared⟩, admitted⟩
      obtain ⟨policy, resolved⟩ := (resolve_device prepared defaultW).mpr admitted
      exact ⟨_, run_ok.mpr ⟨config, policy, prepared, resolved, rfl⟩⟩
  next =>
    intro startup started
    obtain ⟨config, policy, prepared, resolved, rfl⟩ := run_ok.mp started
    obtain ⟨rfl, _⟩ := prepare_ok prepared
    rw [SafetyPolicyConfig.resolve_unavailable resolved]
    cases line.forceSoftwareOnly <;> simp [safetyPolicyConfig]

theorem started_default :
    ∃ startup, CommandLine.run {} "test" (some 300) (some 300) = .ok startup := by
  have prepared : ∃ config, CommandLine.prepare {} = .ok config := by
    have accepted : (CommandLine.prepare {}).toBool = true := by decide +kernel
    cases found : CommandLine.prepare {} with
    | ok config => exact ⟨config, rfl⟩
    | error => simp [found, Except.toBool] at accepted
  have admitted : CommandLine.Admits {} (some 300) := by
    intro w member
    obtain rfl := Option.some.inj member
    exact ⟨by decide, by simp⟩
  obtain ⟨config, prepared⟩ := prepared
  obtain ⟨policy, resolved⟩ := (resolve_device prepared (some 300)).mpr (.inr admitted)
  exact ⟨_, run_ok.mpr ⟨config, policy, prepared, resolved, rfl⟩⟩

-- The command line and the device behind the leftover brake of the examples.
theorem started_leftover :
    ∃ line : CommandLine, line.run "" (some 200) (some 400) = .ok (.leftover .eagerPolicy) := by
  let line : CommandLine :=
    { safetyPowerWarnW := some (.finite 300)
      safetyPowerCriticalW := some (.finite 350)
      safetyReleaseOkStreak := 1
      ipcSessionId := "test" }
  have resolved : line.safetyPolicyConfig.resolve (some (asF32 400)) = .ok .eagerPolicy :=
    SafetyPolicy.eagerPolicy.resolve_validated (by decide +kernel)
  have unqueried : line.safetyPolicyConfig.resolve none = .ok .eagerPolicy :=
    SafetyPolicy.eagerPolicy.resolve_validated (by decide +kernel)
  have prepared : line.prepare = .ok line.safetyPolicyConfig := by
    simp only [prepare, unqueried]
    rw [if_neg (by decide)]
  exact ⟨line, run_ok.mpr ⟨_, _, prepared, resolved, rfl⟩⟩

end CommandLine

end ThalamicRelay
