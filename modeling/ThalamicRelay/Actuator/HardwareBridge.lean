import ThalamicRelay.Actuator.GpuTarget
import ThalamicRelay.Safety.Monotone

set_option autoImplicit false

namespace ThalamicRelay

open BinaryFloat

def asF32 (n : UInt32) : F32 := binary32.round n.toNat

def wattsOfMilliwatts (milliwatts : UInt32) : F32 :=
  Value.div binary32.round (asF32 milliwatts) (.finite 1000)

def deriveVddcrGfxV (powerW : F32) : F32 :=
  let pIdle : F32 := .finite 50
  let pTdp : F32 := .finite 300
  let vIdle := f32 (70 / 100)
  let vTdp := f32 (105 / 100)
  let sub := Value.sub binary32.round
  let t := (Value.div binary32.round (sub powerW pIdle) (sub pTdp pIdle)).clamp (.finite 0)
    (.finite 1)
  Value.add binary32.round vIdle (binary32.mul t (sub vTdp vIdle))

/-- What the sensor calls of one read return; a failed call returns nothing. -/
structure GpuSensors where
  temperature : Option UInt32
  powerUsage : Option UInt32
  graphicsClock : Option UInt32
  memoryClock : Option UInt32
  fanSpeed : Option UInt32
  memoryUtilization : Option UInt32
  deriving DecidableEq, Repr

structure NvmlRead where
  gpuHealthy : Bool
  initialized : Bool
  deviceByUuid : List Char → Option GpuSensors
  observedAt : Nat

structure HardwareBridge where
  target : Option GpuTarget

namespace HardwareBridge

def sampled (sensors : GpuSensors) (observedAt : Nat) : RawTelemetry :=
  let powerW := sensors.powerUsage.map wattsOfMilliwatts
  { sourceUnixMs := some observedAt
    timestampOrigin := .liveAcquire
    source := .nvml
    gpuTempC := sensors.temperature.map asF32
    -- The library has no VRAM sensor and the relay makes none up.
    vramTempC := none
    powerW := powerW
    vddcrGfxV := powerW.map deriveVddcrGfxV
    gpuClockMhz := sensors.graphicsClock.map asF32
    memClockMhz := sensors.memoryClock.map asF32
    fanSpeedPct := sensors.fanSpeed.map asF32
    memUtilPct := sensors.memoryUtilization.map asF32 }

def readNvml (target : GpuTarget) (read : NvmlRead) : Option RawTelemetry :=
  if read.gpuHealthy = false then none
  else if read.initialized = false then none
  else (read.deviceByUuid target.uuid).map (sampled · read.observedAt)

def acquireRaw (bridge : HardwareBridge) (forceSoftware : Bool) (read : NvmlRead) : RawTelemetry :=
  if forceSoftware then .softwareFallback read.observedAt
  else (bridge.target.bind (readNvml · read)).getD (.nvmlUnavailable read.observedAt)

end HardwareBridge

section Readings

variable {n : UInt32}

theorem asF32_finite (n : UInt32) : ∃ q, asF32 n = .finite q ∧ 0 ≤ q ∧ q ≤ 2 ^ (32 : ℤ) := by
  have above : .finite 0 ≤ asF32 n := binary32.zero_le_round (by positivity)
  have size : (n.toNat : ℚ) ≤ (1 : ℤ) * 2 ^ (32 : ℤ) := by
    have bound : n.toNat < 2 ^ 32 := n.toNat_lt
    have cast : (n.toNat : ℚ) < 2 ^ 32 := by exact_mod_cast bound
    norm_num at cast ⊢
    exact cast.le
  have below := binary32.round_mono (by decide) size
  rw [binary32.round_representable 1 32 (by decide) (by decide) (by decide), Int.cast_one,
    one_mul] at below
  exact Value.finite_between above below

-- Every whole number below 2 ^ 24 is an f32.
theorem round_whole {n : ℕ} (small : n < 2 ^ 24) : binary32.round n = .finite n := by
  have digits : |(n : ℤ)| < 2 ^ binary32.precision := by
    rw [abs_of_nonneg (by omega)]
    exact_mod_cast small
  simpa using binary32.round_representable n 0 digits (by decide) (by decide)

theorem asF32_exact (small : n.toNat < 2 ^ 24) : asF32 n = .finite n.toNat :=
  round_whole small

theorem asF32_representable {q : ℚ} (number : asF32 n = .finite q) :
    binary32.round q = .finite q :=
  binary32.round_round (by decide) number

theorem asF32_mono {m n : UInt32} (ordered : m ≤ n) : asF32 m ≤ asF32 n := by
  have ordered : (m.toNat : ℚ) ≤ n.toNat := by exact_mod_cast ordered
  exact binary32.round_mono (by decide) ordered

-- A comparison with a small whole number is not blurred by the conversion.
theorem asF32_le (n : UInt32) {bound : ℕ} (small : bound + 1 < 2 ^ 24) :
    asF32 n ≤ .finite bound ↔ n.toNat ≤ bound := by
  by_cases inside : n.toNat ≤ bound
  next =>
    have below : (n.toNat : ℚ) ≤ bound := by exact_mod_cast inside
    rw [asF32_exact (by omega), Value.finite_le_finite]
    exact iff_of_true below inside
  next =>
    have above : ((bound + 1 : ℤ) : ℚ) * 2 ^ (0 : ℤ) ≤ n.toNat := by
      have larger : bound + 1 ≤ n.toNat := by omega
      rw [zpow_zero, mul_one]
      exact_mod_cast larger
    have digits : |(bound + 1 : ℤ)| < 2 ^ binary32.precision := by
      rw [abs_of_nonneg (by omega)]
      exact_mod_cast small
    have floor : _ ≤ asF32 n := binary32.round_mono (by decide) above
    rw [binary32.round_representable _ 0 digits (by decide) (by decide)] at floor
    refine iff_of_false ?_ inside
    intro under
    obtain ⟨q, _, large, low⟩ := Value.finite_between floor under
    rw [zpow_zero, mul_one] at large
    push_cast at large
    linarith

theorem wattsOfMilliwatts_eq {p : ℚ} (number : asF32 n = .finite p) :
    wattsOfMilliwatts n = binary32.round (p / 1000) := by
  simp [wattsOfMilliwatts, number, Value.div]

theorem wattsOfMilliwatts_representable {q : ℚ} (number : wattsOfMilliwatts n = .finite q) :
    binary32.round q = .finite q := by
  obtain ⟨p, whole, _⟩ := asF32_finite n
  rw [wattsOfMilliwatts_eq whole] at number
  exact binary32.round_round (by decide) number

theorem wattsOfMilliwatts_finite (n : UInt32) :
    ∃ q, wattsOfMilliwatts n = .finite q ∧ 0 ≤ q := by
  obtain ⟨p, number, nonneg, bounded⟩ := asF32_finite n
  have quotient := wattsOfMilliwatts_eq number
  have above : .finite 0 ≤ wattsOfMilliwatts n := by
    rw [quotient]
    exact binary32.zero_le_round (by positivity)
  have size : p / 1000 ≤ (1 : ℤ) * 2 ^ (23 : ℤ) := by
    norm_num at bounded ⊢
    linarith
  have below := binary32.round_mono (by decide) size
  rw [binary32.round_representable 1 23 (by decide) (by decide) (by decide), ← quotient] at below
  obtain ⟨q, watts, least, _⟩ := Value.finite_between above below
  exact ⟨q, watts, least⟩

theorem wattsOfMilliwatts_mono {m n : UInt32} (ordered : m ≤ n) :
    wattsOfMilliwatts m ≤ wattsOfMilliwatts n :=
  binary32.div_mono (by decide) (by norm_num) (asF32_mono ordered)

theorem wattsOfMilliwatts_le (p : UInt32) :
    wattsOfMilliwatts p ≤ .finite 2000 ↔ p ≤ 2000000 := by
  by_cases inside : p ≤ 2000000
  next =>
    have limit : wattsOfMilliwatts 2000000 = .finite 2000 := by decide +kernel
    have below := wattsOfMilliwatts_mono inside
    rw [limit] at below
    exact iff_of_true below inside
  next =>
    have next : wattsOfMilliwatts 2000001 = .finite (2048001 / 1024) := by decide +kernel
    rw [UInt32.not_le] at inside
    have above : wattsOfMilliwatts 2000001 ≤ wattsOfMilliwatts p := wattsOfMilliwatts_mono inside
    rw [next] at above
    refine iff_of_false ?_ (UInt32.not_le.mpr inside)
    intro under
    obtain ⟨q, _, large, low⟩ := Value.finite_between above under
    linarith

def voltageShare (powerW : F32) : F32 :=
  (Value.div binary32.round (Value.sub binary32.round powerW (.finite 50)) (.finite 250)).clamp
    (.finite 0) (.finite 1)

theorem deriveVddcrGfxV_eq (powerW : F32) :
    deriveVddcrGfxV powerW =
      Value.add binary32.round (.finite (11744051 / 16777216))
        (binary32.mul (voltageShare powerW) (.finite (5872025 / 16777216))) := by
  have range : Value.sub binary32.round (.finite 300) (.finite 50) = .finite 250 := by
    decide +kernel
  have idle : f32 (70 / 100) = .finite (11744051 / 16777216) := by decide +kernel
  have swing : Value.sub binary32.round (f32 (105 / 100)) (.finite (11744051 / 16777216)) =
      .finite (5872025 / 16777216) := by decide +kernel
  simp only [deriveVddcrGfxV, range, idle, swing, voltageShare]

section Voltage

variable {p q : ℚ}

theorem voltageShare_mono (ordered : p ≤ q) :
    voltageShare (.finite p) ≤ voltageShare (.finite q) ∧
      ∃ t, voltageShare (.finite p) = .finite t ∧ 0 ≤ t ∧ t ≤ 1 := by
  have above : Value.sub binary32.round (.finite p) (.finite 50) ≤
      Value.sub binary32.round (.finite q) (.finite 50) :=
    binary32.round_mono (by decide) (sub_le_sub_right ordered 50)
  have scaled := binary32.div_mono (by decide) (by norm_num : (0 : ℚ) < 250) above
  exact ⟨Value.clamp_mono scaled (by norm_num),
    Value.clamp_range (Value.le_ne_nan scaled) (by norm_num)⟩

theorem swing_range {t : ℚ} (nonneg : 0 ≤ t) (whole : t ≤ 1) :
    ∃ r, binary32.mul (.finite t) (.finite (5872025 / 16777216)) = .finite r ∧ 0 ≤ r ∧
      r ≤ 5872025 / 16777216 := by
  have above : .finite 0 ≤ binary32.round (t * (5872025 / 16777216)) :=
    binary32.zero_le_round (by positivity)
  have size : t * (5872025 / 16777216) ≤ 5872025 / 16777216 := by linarith
  have full : binary32.round (5872025 / 16777216) = .finite (5872025 / 16777216) := by
    decide +kernel
  have below := binary32.round_mono (by decide) size
  rw [full] at below
  exact Value.finite_between above below

theorem deriveVddcrGfxV_range (p : ℚ) :
    ∃ v, deriveVddcrGfxV (.finite p) = .finite v ∧ 11744051 / 16777216 ≤ v ∧
      v ≤ 4404019 / 4194304 := by
  obtain ⟨_, t, share, nonneg, whole⟩ := voltageShare_mono (le_refl p)
  obtain ⟨r, swing, least, most⟩ := swing_range nonneg whole
  have sum : deriveVddcrGfxV (.finite p) = binary32.round (11744051 / 16777216 + r) := by
    rw [deriveVddcrGfxV_eq, share, swing, Value.add]
  have idle : binary32.round (11744051 / 16777216) = .finite (11744051 / 16777216) := by
    decide +kernel
  have full : binary32.round (11744051 / 16777216 + 5872025 / 16777216) =
      .finite (4404019 / 4194304) := by decide +kernel
  have above := binary32.round_mono (by decide)
    (by linarith : (11744051 / 16777216 : ℚ) ≤ 11744051 / 16777216 + r)
  have below := binary32.round_mono (by decide) (add_le_add_right most (11744051 / 16777216))
  rw [idle] at above
  rw [full] at below
  rw [sum]
  exact Value.finite_between above below

theorem deriveVddcrGfxV_mono (ordered : p ≤ q) :
    deriveVddcrGfxV (.finite p) ≤ deriveVddcrGfxV (.finite q) := by
  obtain ⟨shares, t, share, nonneg, whole⟩ := voltageShare_mono ordered
  obtain ⟨_, u, other, nonneg', whole'⟩ := voltageShare_mono (le_refl q)
  obtain ⟨r, swing, _⟩ := swing_range nonneg whole
  obtain ⟨w, larger, _⟩ := swing_range nonneg' whole'
  rw [share, other, Value.finite_le_finite] at shares
  have swings : binary32.round (t * (5872025 / 16777216)) ≤
      binary32.round (u * (5872025 / 16777216)) := by
    apply binary32.round_mono (by decide)
    gcongr
  have swing' : binary32.round (t * (5872025 / 16777216)) = .finite r := swing
  have larger' : binary32.round (u * (5872025 / 16777216)) = .finite w := larger
  rw [swing', larger', Value.finite_le_finite] at swings
  rw [deriveVddcrGfxV_eq, deriveVddcrGfxV_eq, share, other, swing, larger]
  apply binary32.round_mono (by decide)
  gcongr

end Voltage

end Readings

theorem classify_readings (raw other : RawTelemetry) (time : raw.sourceUnixMs = other.sourceUnixMs)
    (source : raw.source = other.source) (temperature : raw.gpuTempC = other.gpuTempC)
    (power : raw.powerW = other.powerW) (now cadenceMs : Nat) (clock : SampleClock)
    (policy : SafetyPolicy) :
    (classifyFrameWithPolicy (assessWithClock raw now cadenceMs clock).1 policy).kind =
      (classifyFrameWithPolicy (assessWithClock other now cadenceMs clock).1 policy).kind := by
  cases raw
  cases other
  simp only at time source temperature power
  subst time source temperature power
  rfl

structure GpuSensors.Hotter (cool hot : GpuSensors) : Prop where
  temperature : ∀ t ∈ hot.temperature, ∃ c ∈ cool.temperature, c ≤ t
  power : ∀ p ∈ hot.powerUsage, ∃ c ∈ cool.powerUsage, c ≤ p

namespace NvmlRead

def sensors (read : NvmlRead) (target : GpuTarget) : Option GpuSensors :=
  if read.gpuHealthy = false ∨ read.initialized = false then none
  else read.deviceByUuid target.uuid

def Hotter (target : Option GpuTarget) (cool hot : NvmlRead) : Prop :=
  ∀ device ∈ target, ∀ sensors ∈ hot.sensors device,
    ∃ before ∈ cool.sensors device, before.Hotter sensors

end NvmlRead

namespace HardwareBridge

theorem acquireRaw_sensors (bridge : HardwareBridge) (read : NvmlRead) :
    bridge.acquireRaw false read =
      ((bridge.target.bind read.sensors).map (sampled · read.observedAt)).getD
        (.nvmlUnavailable read.observedAt) := by
  cases found : bridge.target with
  | none => simp [acquireRaw, found]
  | some target =>
    simp only [acquireRaw, found, Option.bind_some, readNvml, NvmlRead.sensors]
    cases read.gpuHealthy <;> cases read.initialized <;> simp

theorem acquireRaw_real (bridge : HardwareBridge) (read : NvmlRead) :
    (bridge.acquireRaw false read).source ≠ .softwareFallback := by
  rw [acquireRaw_sensors]
  cases bridge.target.bind read.sensors <;> simp [sampled, RawTelemetry.nvmlUnavailable]

variable {now cadenceMs : Nat} {clock : SampleClock} {policy : SafetyPolicy}

theorem unread_severity {raw : RawTelemetry} (real : raw.source ≠ .softwareFallback)
    (unread : raw.gpuTempC = none ∨ raw.powerW = none) :
    (classifyFrameWithPolicy (assessWithClock raw now cadenceMs clock).1 policy).kind.severity =
      3 := by
  have unverified : ¬ ∃ temp power warn critical,
      Verified raw now cadenceMs policy temp power warn critical := by
    rintro ⟨temp, power, warn, critical, verified⟩
    rcases unread with temperature | board
    next => simpa [temperature] using verified.temperature.1
    next => simpa [board] using verified.board.1
  rcases unverified_kind clock real unverified with kind | kind | kind <;> rw [kind] <;> rfl

theorem worst_severity (kind : AssessmentKind) : kind.severity ≤ 3 := by
  cases kind <;> decide

-- The conversions to f32 keep the order of the integers that NVML returns.
theorem sampled_severity_mono {cool hot : GpuSensors} {observedAt : Nat} {t t' p p' : UInt32}
    (coolTemp : cool.temperature = some t) (hotTemp : hot.temperature = some t') (temps : t ≤ t')
    (coolPower : cool.powerUsage = some p) (hotPower : hot.powerUsage = some p')
    (powers : p ≤ p') :
    (classifyFrameWithPolicy (assessWithClock (sampled cool observedAt) now cadenceMs
      clock).1 policy).kind.severity ≤
    (classifyFrameWithPolicy (assessWithClock (sampled hot observedAt) now cadenceMs
      clock).1 policy).kind.severity := by
  obtain ⟨temp, temperature, tempNonneg, _⟩ := asF32_finite t
  obtain ⟨hotter, heat, _⟩ := asF32_finite t'
  obtain ⟨power, board, powerNonneg⟩ := wattsOfMilliwatts_finite p
  obtain ⟨higher, load, _⟩ := wattsOfMilliwatts_finite p'
  have warmer := asF32_mono temps
  have harder := wattsOfMilliwatts_mono powers
  rw [temperature, heat, Value.finite_le_finite] at warmer
  rw [board, load, Value.finite_le_finite] at harder
  have real : (sampled cool observedAt).source ≠ .softwareFallback := by simp [sampled]
  have cooler := classify_readings (sampled cool observedAt)
    ((sampled cool observedAt).withSafetyReadings temp power) rfl rfl
    (by simp [sampled, RawTelemetry.withSafetyReadings, coolTemp, temperature])
    (by simp [sampled, RawTelemetry.withSafetyReadings, coolPower, board])
    now cadenceMs clock policy
  have worse := classify_readings (sampled hot observedAt)
    ((sampled cool observedAt).withSafetyReadings hotter higher) rfl rfl
    (by simp [sampled, RawTelemetry.withSafetyReadings, hotTemp, heat])
    (by simp [sampled, RawTelemetry.withSafetyReadings, hotPower, load])
    now cadenceMs clock policy
  rw [cooler, worse]
  exact severity_mono policy clock real ⟨tempNonneg, warmer⟩ ⟨powerNonneg, harder⟩

theorem sensor_severity_mono {target : Option GpuTarget} {cool hot : NvmlRead}
    (instant : cool.observedAt = hot.observedAt) (worse : NvmlRead.Hotter target cool hot) :
    (classifyFrameWithPolicy (assessWithClock (acquireRaw ⟨target⟩ false cool) now cadenceMs
      clock).1 policy).kind.severity ≤
    (classifyFrameWithPolicy (assessWithClock (acquireRaw ⟨target⟩ false hot) now cadenceMs
      clock).1 policy).kind.severity := by
  have real := acquireRaw_real ⟨target⟩ hot
  by_cases unread : (acquireRaw ⟨target⟩ false hot).gpuTempC = none ∨
      (acquireRaw ⟨target⟩ false hot).powerW = none
  next =>
    rw [unread_severity real unread]
    exact worst_severity _
  next =>
    cases target with
    | none => simp [acquireRaw_sensors, RawTelemetry.nvmlUnavailable] at unread
    | some device =>
      cases found : hot.sensors device with
      | none => simp [acquireRaw_sensors, found, RawTelemetry.nvmlUnavailable] at unread
      | some sensors =>
        obtain ⟨before, reached, below⟩ := worse device rfl sensors found
        have hotRaw : acquireRaw ⟨some device⟩ false hot = sampled sensors hot.observedAt := by
          simp [acquireRaw_sensors, found]
        have coolRaw : acquireRaw ⟨some device⟩ false cool = sampled before hot.observedAt := by
          have reached : cool.sensors device = some before := reached
          simp [acquireRaw_sensors, reached, instant]
        rw [hotRaw] at unread ⊢
        rw [coolRaw]
        cases temperature : sensors.temperature with
        | none => simp [sampled, temperature] at unread
        | some t =>
          cases board : sensors.powerUsage with
          | none => simp [sampled, board] at unread
          | some p =>
            obtain ⟨t', coolTemp, temps⟩ := below.temperature t temperature
            obtain ⟨p', coolPower, powers⟩ := below.power p board
            exact sampled_severity_mono coolTemp temperature temps coolPower board powers

theorem sensor_braking_monotone (bridge : HardwareBridge) (m : SafetyMachine)
    (now cadenceMs : Nat) (clock : SampleClock) {cool hot : NvmlRead}
    (instant : cool.observedAt = hot.observedAt) (worse : NvmlRead.Hotter bridge.target cool hot)
    (braked : (m.evaluate (assessWithClock (bridge.acquireRaw false cool) now cadenceMs
      clock).1).1.desiredBrake = true) :
    (m.evaluate (assessWithClock (bridge.acquireRaw false hot) now cadenceMs
      clock).1).1.desiredBrake = true := by
  rw [SafetyMachine.evaluate_desiredBrake] at braked ⊢
  apply demand_mono m m.justReleased _ braked
  exact sensor_severity_mono instant worse

def testTarget : GpuTarget where
  uuid := "GPU-12345678-1234-1234-1234-123456789abc".toList
  valid := by decide +kernel

def workload (milliwatts : UInt32) : NvmlRead where
  gpuHealthy := true
  initialized := true
  deviceByUuid := fun _ =>
    some
      { temperature := some 60
        powerUsage := some milliwatts
        graphicsClock := none
        memoryClock := none
        fanSpeed := none
        memoryUtilization := none }
  observedAt := 1700000000000

theorem sensor_braking_monotone_watt :
    ((SafetyMachine.withPolicy .testPolicy).evaluate
      (assessWithClock (acquireRaw ⟨some testTarget⟩ false (workload 351000)) 1700000000000 100
        (.withSessionId "test")).1).1.desiredBrake = true := by
  have hotter : NvmlRead.Hotter (some testTarget) (workload 350001) (workload 351000) := by
    intro device _ sensors found
    obtain rfl := Option.some.inj found
    refine ⟨_, rfl, ?_, ?_⟩
    next =>
      intro t reading
      exact ⟨t, reading, UInt32.le_refl t⟩
    next =>
      intro p reading
      obtain rfl := Option.some.inj reading
      exact ⟨350001, rfl, by decide⟩
  have braked : ((SafetyMachine.withPolicy .testPolicy).evaluate
      (assessWithClock (acquireRaw ⟨some testTarget⟩ false (workload 350001)) 1700000000000 100
        (.withSessionId "test")).1).1.desiredBrake = true := by decide +kernel
  have instant : (workload 350001).observedAt = (workload 351000).observedAt := rfl
  exact sensor_braking_monotone ⟨some testTarget⟩ _ _ _ _ instant hotter braked

theorem derived_sample {sensors : GpuSensors} {p : UInt32} (load : sensors.powerUsage = some p)
    {observedAt now : Nat} (past : observedAt ≤ now) (cadenceMs : Nat) (clock : SampleClock) :
    let sample := (assessWithClock (sampled sensors observedAt) now cadenceMs clock).1.vddcrGfxV
    sample.value = some (deriveVddcrGfxV (wattsOfMilliwatts p)) ∧
      sample.validity = if 5000 ≤ now - observedAt then .stale else .valid := by
  intro sample
  obtain ⟨power, watts, _⟩ := wattsOfMilliwatts_finite p
  obtain ⟨v, volts, low, high⟩ := deriveVddcrGfxV_range power
  have lowest : (signalSpec .vddcrGfxV).min = .finite (13421773 / 33554432) := by decide +kernel
  have highest : (signalSpec .vddcrGfxV).max = .finite (3 / 2) := rfl
  have inside : ¬ (v < 13421773 / 33554432 ∨ 3 / 2 < v) := by
    rw [not_or, not_lt, not_lt]
    constructor <;> linarith
  have same : sample = .fromRawWithStaleAfter .vddcrGfxV (some (.finite v)) observedAt .nvml now
      5000 := by
    simp only [sample, assessWithClock, TelemetryFrame.fromRawWithClock, sampled,
      RawTelemetry.value, load, Option.map_some, watts, volts, Option.getD_some]
    rfl
  rw [same, watts, volts]
  have present : ¬ now < observedAt := not_lt.mpr past
  simp only [TelemetrySample.fromRawWithStaleAfter, present, if_false, Value.isFinite, lowest,
    highest, Value.finite_lt_finite, inside]
  split_ifs <;> simp_all

theorem derived_voltage_sound (sensors loaded : GpuSensors) {p p' : UInt32}
    (light : sensors.powerUsage = some p) (heavy : loaded.powerUsage = some p')
    (ordered : p ≤ p') (observedAt now cadenceMs : Nat) (clock : SampleClock)
    (past : observedAt ≤ now) :
    let before := (assessWithClock (sampled sensors observedAt) now cadenceMs clock).1.vddcrGfxV
    let after := (assessWithClock (sampled loaded observedAt) now cadenceMs clock).1.vddcrGfxV
    (∃ v v', before.value = some (.finite v) ∧ after.value = some (.finite v') ∧ v ≤ v') ∧
      before.validity = (if 5000 ≤ now - observedAt then .stale else .valid) := by
  intro before after
  obtain ⟨first, validity⟩ := derived_sample light past cadenceMs clock
  obtain ⟨second, _⟩ := derived_sample heavy past cadenceMs clock
  obtain ⟨power, watts, _⟩ := wattsOfMilliwatts_finite p
  obtain ⟨higher, load, _⟩ := wattsOfMilliwatts_finite p'
  obtain ⟨v, volts, _⟩ := deriveVddcrGfxV_range power
  obtain ⟨v', raised, _⟩ := deriveVddcrGfxV_range higher
  have powers := wattsOfMilliwatts_mono ordered
  rw [watts, load, Value.finite_le_finite] at powers
  have rising := deriveVddcrGfxV_mono powers
  rw [volts, raised, Value.finite_le_finite] at rising
  rw [watts, volts] at first
  rw [load, raised] at second
  exact ⟨⟨v, v', first, second, rising⟩, validity⟩

theorem derived_voltage_sound_overload :
    let read (p : UInt32) : GpuSensors := ⟨some 60, some p, none, none, none, none⟩
    let sample (p : UInt32) :=
      (assessWithClock (sampled (read p) 1700000000000) 1700000000000 100
        (.withSessionId "test")).1.vddcrGfxV
    (∃ v v', (sample 300000).value = some (.finite v) ∧ (sample 2500000).value = some (.finite v') ∧
      v ≤ v') ∧ (sample 300000).validity = .valid := by
  intro read sample
  exact derived_voltage_sound (read 300000) (read 2500000) rfl rfl (by decide) 1700000000000
    1700000000000 100 (.withSessionId "test") (by decide)

end HardwareBridge

end ThalamicRelay
