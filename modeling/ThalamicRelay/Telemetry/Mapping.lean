import ThalamicRelay.Telemetry.Frame

set_option autoImplicit false

namespace ThalamicRelay

open BinaryFloat

def SignalClass.includesRuntimeInput : SignalClass → Bool
  | .runtimeInput | .both => true
  | .safetyOnly | .observabilityOnly => false

-- The machine epsilon of binary32.
def f32Epsilon : F32 := .finite (1 / 2 ^ 23)

/-- The rounding of the two operations is a parameter: binary32's, or none for exact numbers. -/
def Normalization.apply (round : ℚ → F32) (normalization : Normalization) (value : F32) : F32 :=
  match normalization with
  | .identity => value
  | .linear min max =>
    let span := max.sub round min
    if span.isFinite = false ∨ span.abs < f32Epsilon then .finite 0
    else ((value.sub round min).div round span).clamp (.finite 0) (.finite 1)

namespace TelemetrySample

def normalized (round : ℚ → F32) (sample : TelemetrySample) : Option F32 :=
  if sample.validity ≠ .valid then none
  else sample.value.map ((signalSpec sample.signal).normalization.apply round)

def atTimeFrom (sample : TelemetrySample) (now receivedAt staleAfterMs : Nat) : TelemetrySample :=
  if sample.value.isNone ∨ sample.validity ≠ .valid then sample
  else
    { sample with
      validity := if staleAfterMs ≤ now - receivedAt then .stale else .valid }

end TelemetrySample

structure MappedStimulus where
  signal : SignalId
  name : String
  classification : SignalClass
  unit : Unit
  source : TelemetrySource
  validity : SampleValidity
  raw : Option F32
  normalized : Option F32
  staleAfterMs : Nat
  cadenceMs : Nat
  deriving DecidableEq, Repr

def MappedStimulus.fromSample (round : ℚ → F32) (sample : TelemetrySample) (cadenceMs : Nat)
    (staleAfterMs : Nat) : MappedStimulus :=
  let spec := signalSpec sample.signal
  { signal := sample.signal
    name := spec.name
    classification := spec.signalClass
    unit := sample.unit
    source := sample.source
    validity := sample.validity
    raw := sample.value
    normalized := sample.normalized round
    staleAfterMs := staleAfterMs
    cadenceMs := cadenceMs }

structure SensoryMapping where
  sessionId : String
  batchId : Nat
  sourceUnixMs : Option Nat
  receivedAtUnixMs : Nat
  emittedAtUnixMs : Nat
  timestampOrigin : TimestampOrigin
  sourceTimeStatus : SourceTimeStatus
  acquisitionSource : TelemetrySource
  acquisitionCadenceMs : Nat
  stimuli : List MappedStimulus
  deriving DecidableEq, Repr

namespace TelemetryFrame

def samples (frame : TelemetryFrame) : List TelemetrySample :=
  [frame.gpuTempC, frame.vramTempC, frame.powerW, frame.vddcrGfxV, frame.gpuClockMhz,
    frame.memClockMhz, frame.fanSpeedPct, frame.memUtilPct]

def toSensoryMappingAt (round : ℚ → F32) (frame : TelemetryFrame) (now : Nat) : SensoryMapping where
  sessionId := frame.sessionId
  batchId := frame.batchId
  sourceUnixMs := frame.sourceUnixMs
  receivedAtUnixMs := frame.receivedAtUnixMs
  emittedAtUnixMs := now
  timestampOrigin := frame.timestampOrigin
  sourceTimeStatus := frame.sourceTimeStatus
  acquisitionSource := frame.source
  acquisitionCadenceMs := frame.acquisitionCadenceMs
  stimuli :=
    (frame.samples.filter fun sample =>
      (signalSpec sample.signal).signalClass.includesRuntimeInput).map fun sample =>
        let staleAfterMs := staleAfterMs sample.signal frame.acquisitionCadenceMs
        .fromSample round (sample.atTimeFrom now frame.receivedAtUnixMs staleAfterMs)
          frame.acquisitionCadenceMs staleAfterMs

end TelemetryFrame

def runtimeInputs : List SignalId := [.gpuTempC, .powerW, .gpuClockMhz, .memUtilPct]

theorem staleAfterMs_recorded (signal : SignalId) (cadenceMs : Nat) :
    staleAfterMs signal (max cadenceMs 1) = staleAfterMs signal cadenceMs := by
  have positive : max cadenceMs 1 ≠ 0 := by omega
  simp only [staleAfterMs, if_neg positive]
  by_cases zero : cadenceMs = 0
  · subst zero
    rfl
  · have same : max cadenceMs 1 = cadenceMs := by omega
    rw [same, if_neg zero]

def RawTelemetry.sample (raw : RawTelemetry) (now cadenceMs : Nat) (signal : SignalId) :
    TelemetrySample :=
  .fromRawWithStaleAfter signal (raw.value signal) (raw.sourceUnixMs.getD now) raw.source now
    (staleAfterMs signal cadenceMs)

@[simp] theorem sample_signal (raw : RawTelemetry) (now cadenceMs : Nat) (signal : SignalId) :
    (raw.sample now cadenceMs signal).signal = signal := rfl

@[simp] theorem atTimeFrom_signal (sample : TelemetrySample) (now receivedAt staleAfterMs : Nat) :
    (sample.atTimeFrom now receivedAt staleAfterMs).signal = sample.signal := by
  simp only [TelemetrySample.atTimeFrom]
  split <;> rfl

theorem assess_stimuli (round : ℚ → F32) (raw : RawTelemetry) (now cadenceMs : Nat)
    (clock : SampleClock) (emitted : Nat) :
    ((assessWithClock raw now cadenceMs clock).1.toSensoryMappingAt round emitted).stimuli =
      runtimeInputs.map fun signal =>
        .fromSample round
          ((raw.sample now cadenceMs signal).atTimeFrom emitted now
            (staleAfterMs signal cadenceMs))
          (max cadenceMs 1) (staleAfterMs signal cadenceMs) := by
  simp only [← staleAfterMs_recorded _ cadenceMs]
  rfl

def RawTelemetry.validReading (raw : RawTelemetry) (now cadenceMs emitted : Nat)
    (signal : SignalId) : Option ℚ :=
  match raw.value signal with
  | some (.finite q) =>
    if (signalSpec signal).min ≤ .finite q ∧ .finite q ≤ (signalSpec signal).max ∧
        raw.sourceUnixMs.getD now ≤ now ∧
        now - raw.sourceUnixMs.getD now < staleAfterMs signal cadenceMs ∧
        emitted - now < staleAfterMs signal cadenceMs then some q
    else none
  | _ => none

theorem validReading_some {raw : RawTelemetry} {now cadenceMs emitted : Nat} {signal : SignalId}
    {q : ℚ} :
    raw.validReading now cadenceMs emitted signal = some q ↔
      raw.value signal = some (.finite q) ∧ (signalSpec signal).min ≤ .finite q ∧
        .finite q ≤ (signalSpec signal).max ∧ raw.sourceUnixMs.getD now ≤ now ∧
        now - raw.sourceUnixMs.getD now < staleAfterMs signal cadenceMs ∧
        emitted - now < staleAfterMs signal cadenceMs := by
  simp only [RawTelemetry.validReading]
  cases reading : raw.value signal with
  | none => simp
  | some value =>
    cases value with
    | nan | infinite _ => simp
    | finite r =>
      by_cases fresh : (signalSpec signal).min ≤ .finite r ∧ .finite r ≤ (signalSpec signal).max ∧
          raw.sourceUnixMs.getD now ≤ now ∧
          now - raw.sourceUnixMs.getD now < staleAfterMs signal cadenceMs ∧
          emitted - now < staleAfterMs signal cadenceMs
      · simp only [if_pos fresh, Option.some.injEq, Value.finite.injEq]
        constructor
        · rintro rfl
          exact ⟨rfl, fresh⟩
        · exact fun same => same.1
      · simp only [if_neg fresh, Option.some.injEq, Value.finite.injEq]
        constructor
        · simp
        · rintro ⟨rfl, again⟩
          exact absurd again fresh

-- A later mapping instant can only make a channel stale.
theorem validReading_antitone (raw : RawTelemetry) (now cadenceMs : Nat) {emitted later : Nat}
    (ordered : emitted ≤ later) (signal : SignalId) {q : ℚ}
    (valid : raw.validReading now cadenceMs later signal = some q) :
    raw.validReading now cadenceMs emitted signal = some q := by
  rw [validReading_some] at valid ⊢
  obtain ⟨present, above, below, past, fresh, held⟩ := valid
  exact ⟨present, above, below, past, fresh, by omega⟩

def RawTelemetry.mapped (raw : RawTelemetry) (now cadenceMs emitted : Nat) (signal : SignalId) :
    TelemetrySample :=
  (raw.sample now cadenceMs signal).atTimeFrom emitted now (staleAfterMs signal cadenceMs)

structure Bounded (signal : SignalId) (low high : ℚ) : Prop where
  min : (signalSpec signal).min = .finite low
  max : (signalSpec signal).max = .finite high

theorem mapped_valid {signal : SignalId} {low high : ℚ} (bounded : Bounded signal low high)
    (raw : RawTelemetry) (now cadenceMs emitted : Nat) {q : ℚ}
    (valid : raw.validReading now cadenceMs emitted signal = some q) :
    (raw.mapped now cadenceMs emitted signal).validity = .valid ∧
      (raw.mapped now cadenceMs emitted signal).value = some (.finite q) := by
  rw [validReading_some, bounded.min, bounded.max] at valid
  obtain ⟨present, above, below, past, fresh, held⟩ := valid
  simp only [Value.finite_le_finite] at above below
  have future : ¬ now < raw.sourceUnixMs.getD now := by omega
  have stale : ¬ staleAfterMs signal cadenceMs ≤ now - raw.sourceUnixMs.getD now := by omega
  have kept : ¬ staleAfterMs signal cadenceMs ≤ emitted - now := by omega
  have outside : ¬ (q < low ∨ high < q) := by
    rw [not_or, not_lt, not_lt]
    exact ⟨above, below⟩
  constructor <;>
    simp [RawTelemetry.mapped, RawTelemetry.sample, TelemetrySample.fromRawWithStaleAfter,
      TelemetrySample.atTimeFrom, present, future, stale, kept, bounded.min, bounded.max, outside,
      Value.isFinite]

-- The checks of the assessment in its order, then the mapping's own.
theorem mapped_invalid {signal : SignalId} {low high : ℚ} (bounded : Bounded signal low high)
    (raw : RawTelemetry) (now cadenceMs emitted : Nat)
    (unread : raw.validReading now cadenceMs emitted signal = none) :
    (raw.mapped now cadenceMs emitted signal).validity ≠ .valid := by
  simp only [RawTelemetry.mapped, RawTelemetry.sample, TelemetrySample.fromRawWithStaleAfter]
  by_cases future : now < raw.sourceUnixMs.getD now
  · cases raw.value signal with
    | none => simp [TelemetrySample.atTimeFrom, future]
    | some v => by_cases number : v.isFinite = false <;>
        simp [TelemetrySample.atTimeFrom, future, number]
  · cases reading : raw.value signal with
    | none => simp [TelemetrySample.atTimeFrom, future]
    | some v =>
      by_cases number : v.isFinite = false
      · simp [TelemetrySample.atTimeFrom, future, number]
      obtain ⟨q, rfl⟩ := Value.eq_finite_of_isFinite (by simpa using number)
      by_cases outside : q < low ∨ high < q
      · simp [TelemetrySample.atTimeFrom, future, number, bounded.min, bounded.max, outside]
      by_cases stale : staleAfterMs signal cadenceMs ≤ now - raw.sourceUnixMs.getD now
      · simp [TelemetrySample.atTimeFrom, future, number, bounded.min, bounded.max, outside, stale]
      by_cases held : staleAfterMs signal cadenceMs ≤ emitted - now
      · simp [TelemetrySample.atTimeFrom, future, number, bounded.min, bounded.max, outside, stale,
          held]
      -- Nothing failed, so the reading is valid after all.
      have read : raw.validReading now cadenceMs emitted signal = some q := by
        rw [validReading_some, bounded.min, bounded.max]
        rw [not_or, not_lt, not_lt] at outside
        exact ⟨reading, outside.1, outside.2, by omega, by omega, by omega⟩
      simp [unread] at read

theorem apply_exact {low high : ℚ} (wide : 1 / 2 ^ 23 ≤ high - low) (q : ℚ) :
    (Normalization.linear (.finite low) (.finite high)).apply .finite (.finite q) =
      .finite (max 0 (min 1 ((q - low) / (high - low)))) := by
  have positive : (0 : ℚ) < high - low := lt_of_lt_of_le (by norm_num) wide
  have narrow : ¬ ((Value.finite (high - low)).isFinite = false ∨
      (Value.finite (high - low)).abs < f32Epsilon) := by
    simp only [Value.isFinite, Value.abs, f32Epsilon, Value.finite_lt_finite, abs_of_pos positive]
    simpa using wide
  simp only [Normalization.apply, Value.sub, if_neg narrow, Value.div, ne_eq, positive.ne',
    not_false_eq_true, if_true]
  exact Value.clamp_finite _ _ _ zero_le_one

end ThalamicRelay
