import ThalamicRelay.Actuator.HardwareBridge
import ThalamicRelay.Publish.Batch
import Mathlib.Algebra.Order.Group.MinMax

set_option autoImplicit false

namespace ThalamicRelay

open BinaryFloat

namespace RawTelemetry

-- Every reading is an f32: rounding to binary32 keeps it.
def Representable (raw : RawTelemetry) : Prop :=
  ∀ signal q, raw.value signal = some (.finite q) → binary32.round q = .finite q

def batch (raw : RawTelemetry) (round : ℚ → F32) (now cadenceMs : Nat) (clock : SampleClock)
    (emitted : Nat) (sessionId : Option String) (batchId : Nat) : StimulusBatch :=
  mappingToStimulusBatch
    ((assessWithClock raw now cadenceMs clock).1.toSensoryMappingAt round emitted) sessionId batchId

def sent (raw : RawTelemetry) (round : ℚ → F32) (now cadenceMs emitted : Nat) (signal : SignalId) :
    MappedStimulus :=
  .fromSample round (raw.mapped now cadenceMs emitted signal) (max cadenceMs 1)
    (staleAfterMs signal cadenceMs)

end RawTelemetry

section Share

theorem share_near {q : ℚ} (nonneg : 0 ≤ q) :
    ∃ v, (binary32.round q).clamp (.finite 0) (.finite 1) = .finite v ∧ 0 ≤ v ∧ v ≤ 1 ∧
      |v - min 1 q| ≤ 1 / 2 ^ 25 ∧ (q = 0 → v = 0) ∧ (1 ≤ q → v = 1) := by
  rcases lt_or_ge q 1 with below | above
  next =>
    obtain ⟨r, rounded, low, high, error⟩ :=
      binary32.round_near 0 (by decide) (by decide) nonneg (by simpa using below)
    have high : r ≤ 1 := by simpa using high
    have inside : max 0 (min 1 r) = r := by rw [min_eq_right high, max_eq_right low]
    refine ⟨r, ?_, low, high, ?_, ?_, fun beyond => absurd beyond (not_le.mpr below)⟩
    · rw [rounded, Value.clamp_finite _ _ _ zero_le_one, inside]
    · rw [min_eq_right below.le]
      calc |r - q| ≤ 2 ^ ((0 : ℤ) - binary32.precision) / 2 := error
        _ = 1 / 2 ^ 25 := by norm_num [binary32]
    · rintro rfl
      rw [binary32.round_zero] at rounded
      exact (Value.finite.inj rounded).symm
  next =>
    have large : .finite 1 ≤ binary32.round q := by
      simpa using binary32.zpow_le_round 0 q (by decide) (by decide) (by simpa using above)
    have top : (binary32.round q).clamp (.finite 0) (.finite 1) = .finite 1 := by
      rcases Value.finite_le_cases large with infinite | ⟨r, number, beyond⟩
      next =>
        rw [infinite]
        rfl
      next =>
        rw [number, Value.clamp_finite _ _ _ zero_le_one, min_eq_left beyond,
          max_eq_right zero_le_one]
    refine ⟨1, top, zero_le_one, le_rfl, ?_, ?_, fun _ => rfl⟩
    · rw [min_eq_left above]
      norm_num
    · rintro rfl
      exact absurd above (by norm_num)

theorem apply_rounded {full : ℕ} (positive : 0 < full) (small : full < 2 ^ 24) {q : ℚ}
    (number : binary32.round q = .finite q) :
    (Normalization.linear (.finite 0) (.finite full)).apply binary32.round (.finite q) =
      (binary32.round (q / full)).clamp (.finite 0) (.finite 1) := by
  have one : (1 : ℚ) ≤ full := by exact_mod_cast positive
  have wide : ¬ ((Value.finite (full : ℚ)).isFinite = false ∨
      (Value.finite (full : ℚ)).abs < f32Epsilon) := by
    simp only [Value.isFinite, Value.abs, f32Epsilon, Value.finite_lt_finite, Nat.abs_cast]
    norm_num
    linarith
  have nonzero : (full : ℚ) ≠ 0 := by positivity
  simp only [Normalization.apply, Value.sub, sub_zero, round_whole small, if_neg wide, number,
    Value.div, ne_eq, nonzero, not_false_eq_true, if_true]

end Share

theorem runtimeInputs_linear {signal : SignalId} (input : signal ∈ runtimeInputs) :
    (signalSpec signal).min = .finite 0 ∧ ∃ full : ℕ, 0 < full ∧ full < 2 ^ 24 ∧
      (signalSpec signal).normalization = .linear (.finite 0) (.finite full) := by
  simp only [runtimeInputs, List.mem_cons, List.not_mem_nil, or_false] at input
  rcases input with rfl | rfl | rfl | rfl
  · exact ⟨rfl, 100, by decide, by decide, by norm_num [signalSpec]⟩
  · exact ⟨rfl, 350, by decide, by decide, by norm_num [signalSpec]⟩
  · exact ⟨rfl, 2500, by decide, by decide, by norm_num [signalSpec]⟩
  · exact ⟨rfl, 100, by decide, by decide, by norm_num [signalSpec]⟩

def NearShare (sent exact : F32) : Prop :=
  ∃ v w, sent = .finite v ∧ exact = .finite w ∧ 0 ≤ v ∧ v ≤ 1 ∧ |v - w| ≤ 1 / 2 ^ 25 ∧
    (w = 0 → v = 0) ∧ (w = 1 → v = 1)

theorem apply_near {signal : SignalId} (input : signal ∈ runtimeInputs) {q : ℚ}
    (nonneg : 0 ≤ q) (number : binary32.round q = .finite q) :
    NearShare ((signalSpec signal).normalization.apply binary32.round (.finite q))
      ((signalSpec signal).normalization.apply .finite (.finite q)) := by
  obtain ⟨_, full, positive, small, linear⟩ := runtimeInputs_linear input
  have size : (0 : ℚ) < full := by exact_mod_cast positive
  have share : 0 ≤ q / full := by positivity
  obtain ⟨v, value, low, high, error, zero, one⟩ := share_near share
  refine ⟨v, min 1 (q / full), ?_, ?_, low, high, error, ?_, ?_⟩
  · rw [linear, apply_rounded positive small number, value]
  · rw [runtimeInputs_scaled input, linear]
    simp only [Normalization.scaled, sub_zero]
    rw [max_eq_right (le_min zero_le_one share)]
  · intro least
    rcases min_choice 1 (q / full) with same | same <;> rw [same] at least
    · exact absurd least one_ne_zero
    · exact zero least
  · exact fun top => one (min_eq_left_iff.mp top)

section Sent

variable {signal : SignalId} (raw : RawTelemetry) (round : ℚ → F32) (now cadenceMs emitted : Nat)

theorem sent_wire (input : signal ∈ runtimeInputs) :
    (raw.sent round now cadenceMs emitted signal).wireMask =
        (raw.validReading now cadenceMs emitted signal).isSome ∧
      (raw.sent round now cadenceMs emitted signal).wireValue =
        match raw.validReading now cadenceMs emitted signal with
        | some q => (signalSpec signal).normalization.apply round (.finite q)
        | none => .finite 0 := by
  obtain ⟨low, high, bounded⟩ := runtimeInputs_bounded input
  cases reading : raw.validReading now cadenceMs emitted signal with
  | none =>
    have invalid := mapped_invalid bounded raw now cadenceMs emitted reading
    simp only [MappedStimulus.wireMask, MappedStimulus.wireValue, RawTelemetry.sent,
      MappedStimulus.fromSample]
    cases validity : (raw.mapped now cadenceMs emitted signal).validity with
    | valid => exact absurd validity invalid
    | missing | invalid | stale => exact ⟨rfl, rfl⟩
  | some q =>
    obtain ⟨valid, value⟩ := mapped_valid bounded raw now cadenceMs emitted reading
    simp [MappedStimulus.wireMask, MappedStimulus.wireValue, RawTelemetry.sent,
      MappedStimulus.fromSample, TelemetrySample.normalized, valid, value, mapped_signal]

theorem batch_stimuli (clock : SampleClock) :
    ((assessWithClock raw now cadenceMs clock).1.toSensoryMappingAt round emitted).stimuli =
      runtimeInputs.map (raw.sent round now cadenceMs emitted) :=
  assess_stimuli round raw now cadenceMs clock emitted

variable (clock : SampleClock) (sessionId : Option String) (batchId : Nat)

theorem batch_channels :
    (raw.batch round now cadenceMs clock emitted sessionId batchId).splitCustom "channels" =
      some (runtimeInputs.map fun signal => (signalSpec signal).name) := by
  obtain ⟨channels, _⟩ := custom_joined
    ((assessWithClock raw now cadenceMs clock).1.toSensoryMappingAt round emitted) sessionId batchId
  have names : (runtimeInputs.map (raw.sent round now cadenceMs emitted)).map (·.name) =
      runtimeInputs.map fun signal => (signalSpec signal).name := by
    rw [List.map_map]
    refine List.map_congr_left fun signal _ => ?_
    simp only [Function.comp_apply, RawTelemetry.sent, MappedStimulus.fromSample, mapped_signal]
  rw [batch_stimuli, names] at channels
  rw [RawTelemetry.batch, StimulusBatch.splitCustom, channels, Option.map_some,
    splitCommas_join (by simp [runtimeInputs])]
  intro name member
  obtain ⟨signal, _, rfl⟩ := List.mem_map.mp member
  exact name_plain signal

theorem batch_mask :
    (raw.batch round now cadenceMs clock emitted sessionId batchId).validMask =
      some (runtimeInputs.map fun signal =>
        (raw.validReading now cadenceMs emitted signal).isSome) := by
  simp only [RawTelemetry.batch, mappingToStimulusBatch, batch_stimuli, List.map_map,
    Option.some.injEq]
  exact List.map_congr_left fun signal input =>
    (sent_wire raw round now cadenceMs emitted input).1

theorem batch_values :
    (raw.batch round now cadenceMs clock emitted sessionId batchId).values =
      runtimeInputs.map fun signal =>
        match raw.validReading now cadenceMs emitted signal with
        | some q => (signalSpec signal).normalization.apply round (.finite q)
        | none => .finite 0 := by
  simp only [RawTelemetry.batch, mappingToStimulusBatch, batch_stimuli, List.map_map]
  exact List.map_congr_left fun signal input =>
    (sent_wire raw round now cadenceMs emitted input).2

-- The exact numbers of the mapping stand for the f32 arithmetic.
theorem wire_values_accurate (representable : raw.Representable) :
    let sent := raw.batch binary32.round now cadenceMs clock emitted sessionId batchId
    let exact := raw.batch .finite now cadenceMs clock emitted sessionId batchId
    { sent with values := exact.values } = exact ∧
      List.Forall₂ NearShare sent.values exact.values := by
  intro sent exact
  constructor
  next =>
    have masks : sent.validMask = exact.validMask := by
      simp only [sent, exact, batch_mask]
    have metadata : sent.metadata = exact.metadata := by
      simp only [sent, exact, RawTelemetry.batch, mappingToStimulusBatch, batch_stimuli,
        List.map_map]
      rfl
    exact (StimulusBatch.mk.injEq ..).mpr ⟨rfl, rfl, rfl, rfl, masks, metadata⟩
  next =>
    simp only [sent, exact, batch_values, List.forall₂_map_left_iff, List.forall₂_map_right_iff,
      List.forall₂_same]
    intro signal input
    cases reading : raw.validReading now cadenceMs emitted signal with
    | none => exact ⟨0, 0, rfl, rfl, le_rfl, zero_le_one, by norm_num, by simp, by simp⟩
    | some q =>
      obtain ⟨present, above, _⟩ := validReading_some.mp reading
      rw [(runtimeInputs_linear input).1, Value.finite_le_finite] at above
      exact apply_near input above (representable signal q present)

end Sent

namespace HardwareBridge

theorem sampled_representable (sensors : GpuSensors) (observedAt : Nat) :
    (sampled sensors observedAt).Representable := by
  have whole (reading : Option UInt32) {q : ℚ} (known : reading.map asF32 = some (.finite q)) :
      binary32.round q = .finite q := by
    obtain ⟨n, _, number⟩ := Option.map_eq_some_iff.mp known
    exact asF32_representable number
  intro signal q known
  cases signal with
  | gpuTempC | gpuClockMhz | memClockMhz | fanSpeedPct | memUtilPct => exact whole _ known
  | vramTempC => simp [sampled, RawTelemetry.value] at known
  | powerW =>
    obtain ⟨p, _, number⟩ := Option.map_eq_some_iff.mp known
    exact wattsOfMilliwatts_representable number
  | vddcrGfxV =>
    obtain ⟨watts, _, number⟩ := Option.map_eq_some_iff.mp known
    rw [deriveVddcrGfxV_eq] at number
    obtain ⟨sum, rounded⟩ := Value.add_finite number
    exact binary32.round_round (by decide) rounded

end HardwareBridge

theorem wire_values_accurate_warm :
    let raw := HardwareBridge.sampled ⟨some 63, some 187250, some 2000, none, none, some 7⟩ 5000
    let batch := fun round => raw.batch round 5020 100 (.withSessionId "relay") 5030 none 0
    (batch .finite).values = [.finite (63 / 100), .finite (107 / 200), .finite (4 / 5),
      .finite (7 / 100)] ∧
    List.Forall₂ NearShare (batch binary32.round).values (batch .finite).values := by
  intro raw batch
  refine ⟨by decide +kernel, ?_⟩
  exact (wire_values_accurate raw 5020 100 5030 (.withSessionId "relay") none 0
    (HardwareBridge.sampled_representable _ _)).2

/-- How a receiver reads a channel: the sensor it comes from, the largest reading that the relay
passes on, and the full scale, both as the sensor counts. -/
structure WireChannel where
  signal : SignalId
  sensor : GpuSensors → Option UInt32
  limit : ℕ
  fullScale : ℕ

namespace WireChannel

def all : List WireChannel :=
  [⟨.gpuTempC, GpuSensors.temperature, 125, 100⟩,
    ⟨.powerW, GpuSensors.powerUsage, 2000000, 350000⟩,
    ⟨.gpuClockMhz, GpuSensors.graphicsClock, 3000, 2500⟩,
    ⟨.memUtilPct, GpuSensors.memoryUtilization, 100, 100⟩]

def name (channel : WireChannel) : String :=
  (signalSpec channel.signal).name

def count (fullScale : ℕ) : F32 → Option ℕ
  | .finite share => some (roundTiesEven (share * fullScale)).toNat
  | _ => none

def receive : String × Bool × F32 → String × Option ℕ
  | (name, valid, value) =>
    (name, if valid then
      ((all.map fun channel => (channel.name, channel.fullScale)).lookup name).bind (count · value)
    else none)

def Passed (observedAt now cadenceMs emitted : Nat) (signal : SignalId) : Prop :=
  observedAt ≤ now ∧ now - observedAt < staleAfterMs signal cadenceMs ∧
    emitted - now < staleAfterMs signal cadenceMs

instance (observedAt now cadenceMs emitted : Nat) (signal : SignalId) :
    Decidable (Passed observedAt now cadenceMs emitted signal) :=
  inferInstanceAs (Decidable (_ ∧ _ ∧ _))

def shown (channel : WireChannel) (sensors : Option GpuSensors) : Option ℕ :=
  (((sensors.bind channel.sensor).map UInt32.toNat).filter (· ≤ channel.limit)).map
    (min · channel.fullScale)

end WireChannel

def StimulusBatch.received (batch : StimulusBatch) : Option (List (String × Option ℕ)) :=
  match batch.splitCustom "channels", batch.validMask with
  | some names, some mask => some ((names.zip (mask.zip batch.values)).map WireChannel.receive)
  | _, _ => none

section Recovery

def Carries (unit limit : ℕ) (max value : F32) (n : ℕ) : Prop :=
  ∃ w, value = .finite w ∧ binary32.round w = .finite w ∧ 0 ≤ w ∧ (value ≤ max ↔ n ≤ limit) ∧
    (n ≤ limit → |w - n / unit| ≤ 1 / 2 ^ 14)

theorem asF32_carries (n : UInt32) {limit : ℕ} (small : limit + 1 < 2 ^ 24) :
    Carries 1 limit (.finite limit) (asF32 n) n.toNat := by
  obtain ⟨w, number, nonneg, _⟩ := asF32_finite n
  refine ⟨w, number, asF32_representable number, nonneg, asF32_le n small, ?_⟩
  intro inside
  rw [asF32_exact (by omega)] at number
  obtain rfl := Value.finite.inj number
  norm_num

theorem watts_carries (p : UInt32) :
    Carries 1000 2000000 (.finite 2000) (wattsOfMilliwatts p) p.toNat := by
  obtain ⟨w, number, nonneg⟩ := wattsOfMilliwatts_finite p
  have bound : p ≤ 2000000 ↔ p.toNat ≤ 2000000 := UInt32.le_iff_toNat_le
  refine ⟨w, number, wattsOfMilliwatts_representable number, nonneg,
    (wattsOfMilliwatts_le p).trans bound, ?_⟩
  intro inside
  have size : (p.toNat : ℚ) ≤ 2000000 := by exact_mod_cast inside
  have quotient := wattsOfMilliwatts_eq (asF32_exact (n := p) (by omega))
  have below : (p.toNat / 1000 : ℚ) < 2 ^ (11 : ℤ) := by
    norm_num
    linarith
  obtain ⟨r, rounded, _, _, error⟩ :=
    binary32.round_near 11 (by decide) (by decide) (by positivity) below
  obtain rfl := Value.finite.inj (number.symm.trans (quotient.trans rounded))
  calc |w - p.toNat / (1000 : ℕ)| = |w - p.toNat / 1000| := by norm_num
    _ ≤ 2 ^ ((11 : ℤ) - binary32.precision) / 2 := error
    _ = 1 / 2 ^ 14 := by norm_num [binary32]

-- Half a unit is more than both roundings can lose.
theorem count_near {unit full n : ℕ} {v w : ℚ} (positive : 0 < full) (units : 0 < unit)
    (fine : unit ≤ 1000) (coarse : unit * full ≤ 350000)
    (reading : |w - n / unit| ≤ 1 / 2 ^ 14) (share : |v - min 1 (w / full)| ≤ 1 / 2 ^ 25) :
    roundTiesEven (v * (unit * full : ℕ)) = (min n (unit * full) : ℕ) := by
  have size : (0 : ℚ) < full := by exact_mod_cast positive
  have step : (0 : ℚ) < unit := by exact_mod_cast units
  have fine : (unit : ℚ) ≤ 1000 := by exact_mod_cast fine
  have coarse : (unit * full : ℚ) ≤ 350000 := by exact_mod_cast coarse
  have whole : ((min n (unit * full) : ℕ) : ℚ) = min 1 ((n : ℚ) / unit / full) * (unit * full) := by
    rw [min_mul_of_nonneg _ _ (by positivity), one_mul, div_div, div_mul_cancel₀ _ (by positivity)]
    push_cast
    exact min_comm _ _
  have moved : |min 1 (w / full) - min 1 ((n : ℚ) / unit / full)| ≤ 1 / 2 ^ 14 / full := by
    have gap : |w / full - n / unit / full| ≤ 1 / 2 ^ 14 / full := by
      rw [← sub_div, abs_div, abs_of_pos size]
      gcongr
    have cut := abs_min_sub_min_le_max 1 (w / full) 1 ((n : ℚ) / unit / full)
    rw [sub_self, abs_zero, max_eq_right (abs_nonneg _)] at cut
    exact le_trans cut gap
  have near : |v - min 1 ((n : ℚ) / unit / full)| ≤ 1 / 2 ^ 25 + 1 / 2 ^ 14 / full := by
    have detour := abs_sub_le v (min 1 (w / full)) (min 1 ((n : ℚ) / unit / full))
    linarith
  apply roundTiesEven_of_near
  rw [Int.cast_natCast, whole, Nat.cast_mul, ← sub_mul, abs_mul,
    abs_of_pos (by positivity : (0 : ℚ) < unit * full)]
  calc _ ≤ (1 / 2 ^ 25 + 1 / 2 ^ 14 / full) * (unit * full : ℚ) := by gcongr
    _ = 1 / 2 ^ 25 * (unit * full) + 1 / 2 ^ 14 * unit := by field_simp
    _ < 1 / 2 := by linarith

structure Conveys (channel : WireChannel) (convert : UInt32 → F32) (unit full : ℕ) : Prop where
  input : channel.signal ∈ runtimeInputs
  reading : ∀ sensors observedAt, (HardwareBridge.sampled sensors observedAt).value channel.signal =
    (channel.sensor sensors).map convert
  carries : ∀ n, Carries unit channel.limit (signalSpec channel.signal).max (convert n) n.toNat
  linear : (signalSpec channel.signal).normalization = .linear (.finite 0) (.finite full)
  lookup : (WireChannel.all.map fun channel => (channel.name, channel.fullScale)).lookup
    channel.name = some (unit * full)
  fullScale : channel.fullScale = unit * full
  positive : 0 < full
  units : 0 < unit
  fine : unit ≤ 1000
  coarse : unit * full ≤ 350000

theorem channels_convey {channel : WireChannel} (member : channel ∈ WireChannel.all) :
    ∃ convert unit full, Conveys channel convert unit full := by
  simp only [WireChannel.all, List.mem_cons, List.not_mem_nil, or_false] at member
  rcases member with rfl | rfl | rfl | rfl
  · exact ⟨asF32, 1, 100, by decide, fun _ _ => rfl,
      fun n => by simpa [signalSpec] using asF32_carries n (by decide : 125 + 1 < 2 ^ 24),
      by norm_num [signalSpec], by decide, rfl, by decide, by decide, by decide, by decide⟩
  · exact ⟨wattsOfMilliwatts, 1000, 350, by decide, fun _ _ => rfl, watts_carries,
      by norm_num [signalSpec], by decide, rfl, by decide, by decide, by decide, by decide⟩
  · exact ⟨asF32, 1, 2500, by decide, fun _ _ => rfl,
      fun n => by simpa [signalSpec] using asF32_carries n (by decide : 3000 + 1 < 2 ^ 24),
      by norm_num [signalSpec], by decide, rfl, by decide, by decide, by decide, by decide⟩
  · exact ⟨asF32, 1, 100, by decide, fun _ _ => rfl,
      fun n => by simpa [signalSpec] using asF32_carries n (by decide : 100 + 1 < 2 ^ 24),
      by norm_num [signalSpec], by decide, rfl, by decide, by decide, by decide, by decide⟩

variable {channel : WireChannel} {convert : UInt32 → F32} {unit full : ℕ} {raw : RawTelemetry}
  {observedAt : Nat} (now cadenceMs emitted : Nat)

theorem silent_reading (silent : raw.value channel.signal = none) :
    raw.validReading now cadenceMs emitted channel.signal = none := by
  simp only [RawTelemetry.validReading, silent]

theorem conveyed_reading (conveys : Conveys channel convert unit full)
    (observed : raw.sourceUnixMs = some observedAt) {n : UInt32} {w : ℚ}
    (reading : raw.value channel.signal = some (convert n)) (number : convert n = .finite w)
    (nonneg : 0 ≤ w)
    (inside : convert n ≤ (signalSpec channel.signal).max ↔ n.toNat ≤ channel.limit) :
    raw.validReading now cadenceMs emitted channel.signal =
      if WireChannel.Passed observedAt now cadenceMs emitted channel.signal ∧
        n.toNat ≤ channel.limit then some w else none := by
  have low := (runtimeInputs_linear conveys.input).1
  rw [number] at reading inside
  have conditions : ((signalSpec channel.signal).min ≤ .finite w ∧
      .finite w ≤ (signalSpec channel.signal).max ∧ raw.sourceUnixMs.getD now ≤ now ∧
      now - raw.sourceUnixMs.getD now < staleAfterMs channel.signal cadenceMs ∧
      emitted - now < staleAfterMs channel.signal cadenceMs) ↔
      WireChannel.Passed observedAt now cadenceMs emitted channel.signal ∧
        n.toNat ≤ channel.limit := by
    rw [low, Value.finite_le_finite, inside, observed, Option.getD_some, WireChannel.Passed]
    tauto
  simp only [RawTelemetry.validReading, reading, conditions]

theorem channel_received (conveys : Conveys channel convert unit full)
    (observed : raw.sourceUnixMs = some observedAt) (sensors : Option GpuSensors)
    (reading : raw.value channel.signal = (sensors.bind channel.sensor).map convert) :
    WireChannel.receive (channel.name,
        (raw.validReading now cadenceMs emitted channel.signal).isSome,
        match raw.validReading now cadenceMs emitted channel.signal with
        | some q => (signalSpec channel.signal).normalization.apply binary32.round (.finite q)
        | none => .finite 0) =
      (channel.name,
        if WireChannel.Passed observedAt now cadenceMs emitted channel.signal then
          channel.shown sensors
        else none) := by
  cases shown : sensors.bind channel.sensor with
  | none =>
    rw [shown, Option.map_none] at reading
    simp [silent_reading now cadenceMs emitted reading, WireChannel.receive, WireChannel.shown,
      shown]
  | some n =>
    rw [shown, Option.map_some] at reading
    obtain ⟨w, number, kept, nonneg, inside, near⟩ := conveys.carries n
    rw [conveyed_reading now cadenceMs emitted conveys observed reading number nonneg inside]
    by_cases passed : WireChannel.Passed observedAt now cadenceMs emitted channel.signal
    next =>
      by_cases within : n.toNat ≤ channel.limit
      next =>
        have small : full < 2 ^ 24 := by
          have := conveys.coarse
          have := Nat.le_mul_of_pos_left full conveys.units
          omega
        have size : (0 : ℚ) < full := by exact_mod_cast conveys.positive
        obtain ⟨v, value, _, _, share, _⟩ := share_near (by positivity : 0 ≤ w / full)
        have counted := count_near conveys.positive conveys.units conveys.fine conveys.coarse
          (near within) share
        have arrived : WireChannel.count (unit * full) (.finite v) =
            some (min n.toNat (unit * full)) := by
          rw [WireChannel.count, counted, Int.toNat_natCast]
        simp [WireChannel.receive, WireChannel.shown, passed, within, shown, conveys.linear,
          apply_rounded conveys.positive small kept, value, conveys.lookup, conveys.fullScale,
          arrived]
      next =>
        have beyond : channel.limit < n.toNat := by omega
        simp [WireChannel.receive, WireChannel.shown, passed, shown, within, beyond]
    next => simp [WireChannel.receive, passed]

end Recovery

namespace HardwareBridge

theorem readings_recovered (bridge : HardwareBridge) (read : NvmlRead) (now cadenceMs : Nat)
    (clock : SampleClock) (emitted : Nat) (sessionId : Option String) (batchId : Nat) :
    ((bridge.acquireRaw false read).batch binary32.round now cadenceMs clock emitted sessionId
        batchId).received =
      some (WireChannel.all.map fun channel =>
        (channel.name,
          if WireChannel.Passed read.observedAt now cadenceMs emitted channel.signal then
            channel.shown (bridge.target.bind read.sensors)
          else none)) := by
  have raw := acquireRaw_sensors bridge read
  have observed : (bridge.acquireRaw false read).sourceUnixMs = some read.observedAt := by
    rw [raw]
    cases bridge.target.bind read.sensors <;> rfl
  have inputs : runtimeInputs = WireChannel.all.map (·.signal) := rfl
  simp only [StimulusBatch.received, batch_channels, batch_mask, batch_values, inputs,
    List.map_map, List.zip_map', Option.some.injEq]
  refine List.map_congr_left fun channel member => ?_
  obtain ⟨convert, unit, full, conveys⟩ := channels_convey member
  refine channel_received now cadenceMs emitted conveys observed _ ?_
  rw [raw]
  cases bridge.target.bind read.sensors with
  | none => cases channel.signal <;> rfl
  | some sensors => exact conveys.reading sensors read.observedAt

end HardwareBridge

end ThalamicRelay
