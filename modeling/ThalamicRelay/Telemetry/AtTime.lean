import ThalamicRelay.Telemetry.Mapping

set_option autoImplicit false

namespace ThalamicRelay

open BinaryFloat

namespace TelemetrySample

def fromRaw (signal : SignalId) (raw : Option F32) (observedAt : Nat) (source : TelemetrySource)
    (now : Nat) : TelemetrySample :=
  fromRawWithStaleAfter signal raw observedAt source now (signalSpec signal).staleAfterMs

def atTime (sample : TelemetrySample) (now : Nat) : TelemetrySample :=
  if sample.value.isNone then sample
  else fromRaw sample.signal sample.value sample.observedAt sample.source now

end TelemetrySample

def AgedReading (signal : SignalId) (raw : Option F32) (observedAt now : Nat) : Prop :=
  ∃ value ∈ raw, value.isFinite = true ∧
    ¬ (value < (signalSpec signal).min ∨ (signalSpec signal).max < value) ∧ observedAt ≤ now

theorem from_raw_aged {signal : SignalId} {raw : Option F32} {observedAt now : Nat}
    (aged : AgedReading signal raw observedAt now) (source : TelemetrySource) (staleAfterMs : Nat) :
    TelemetrySample.fromRawWithStaleAfter signal raw observedAt source now staleAfterMs =
      { signal := signal
        value := raw
        observedAt := observedAt
        source := source
        validity := if staleAfterMs ≤ now - observedAt then .stale else .valid
        unit := (signalSpec signal).unit } := by
  obtain ⟨value, present, number, inside, past⟩ := aged
  have read : raw = some value := by simpa using present
  have future : ¬ now < observedAt := by omega
  subst read
  simp only [TelemetrySample.fromRawWithStaleAfter, if_neg future, number, Bool.true_eq_false,
    if_false, if_neg inside]
  split <;> rfl

theorem from_raw_again {signal : SignalId} {raw : Option F32} {observedAt now : Nat}
    (unaged : ¬ AgedReading signal raw observedAt now) (source : TelemetrySource)
    (first second : Nat) :
    let sample := TelemetrySample.fromRawWithStaleAfter signal raw observedAt source now first
    sample.value.isNone = false →
      TelemetrySample.fromRawWithStaleAfter signal sample.value observedAt source now second =
        sample := by
  intro sample kept
  cases raw with
  | none =>
    have gone : sample.value = none := by
      by_cases future : now < observedAt <;>
        simp [sample, TelemetrySample.fromRawWithStaleAfter, future]
    simp [gone] at kept
  | some value =>
    by_cases number : value.isFinite = true
    · by_cases future : now < observedAt
      · simp [sample, TelemetrySample.fromRawWithStaleAfter, number, future]
      · have outside : value < (signalSpec signal).min ∨ (signalSpec signal).max < value := by
          by_contra inside
          exact unaged ⟨value, rfl, number, inside, by omega⟩
        simp [sample, TelemetrySample.fromRawWithStaleAfter, number, future, outside]
    · have gone : sample.value = none := by
        by_cases future : now < observedAt <;>
          simp [sample, TelemetrySample.fromRawWithStaleAfter, future, number]
      simp [gone] at kept

namespace RawTelemetry

def Disputed (raw : RawTelemetry) (now cadenceMs : Nat) (signal : SignalId) : Prop :=
  AgedReading signal (raw.value signal) (raw.sourceUnixMs.getD now) now ∧
    ¬ ((signalSpec signal).staleAfterMs ≤ now - raw.sourceUnixMs.getD now ↔
      staleAfterMs signal cadenceMs ≤ now - raw.sourceUnixMs.getD now)

theorem disputed_safety {raw : RawTelemetry} {now cadenceMs : Nat} {signal : SignalId}
    (disputed : raw.Disputed now cadenceMs signal) :
    (signalSpec signal).signalClass.includesSafety = true := by
  by_contra other
  apply disputed.2
  rw [staleAfterMs, if_neg other]

theorem not_disputed_default (raw : RawTelemetry) (now : Nat) (signal : SignalId) :
    ¬ raw.Disputed now defaultAcquisitionCadenceMs signal := by
  intro disputed
  have same : (signalSpec signal).staleAfterMs =
      staleAfterMs signal defaultAcquisitionCadenceMs := by
    cases signal <;> decide
  exact disputed.2 (by rw [same])

theorem sample_atTime (raw : RawTelemetry) (now cadenceMs : Nat) (signal : SignalId) :
    (raw.sample now cadenceMs signal).atTime now = raw.sample now cadenceMs signal ↔
      ¬ raw.Disputed now cadenceMs signal := by
  by_cases aged : AgedReading signal (raw.value signal) (raw.sourceUnixMs.getD now) now
  · have present : (raw.value signal).isNone = false := by
      obtain ⟨value, read, _⟩ := aged
      simp [show raw.value signal = some value by simpa using read]
    simp only [sample, from_raw_aged aged, TelemetrySample.atTime, TelemetrySample.fromRaw,
      present, Bool.false_eq_true, if_false, Disputed, aged, true_and, not_not]
    by_cases inventory : (signalSpec signal).staleAfterMs ≤ now - raw.sourceUnixMs.getD now <;>
      by_cases cadence : staleAfterMs signal cadenceMs ≤ now - raw.sourceUnixMs.getD now <;>
      simp [inventory, cadence]
  · have undisputed : ¬ raw.Disputed now cadenceMs signal := fun disputed => aged disputed.1
    simp only [undisputed, not_false_eq_true, iff_true, TelemetrySample.atTime]
    split
    next => rfl
    next kept =>
      apply from_raw_again aged raw.source
      simpa [sample, Option.isSome_iff_ne_none] using kept

end RawTelemetry

theorem mem_samples {raw : RawTelemetry} {now cadenceMs : Nat} {clock : SampleClock}
    {sample : TelemetrySample}
    (member : sample ∈ (assessWithClock raw now cadenceMs clock).1.samples) :
    sample = raw.sample now cadenceMs sample.signal := by
  simp only [TelemetryFrame.samples, List.mem_cons, List.not_mem_nil, or_false] at member
  rcases member with rfl | rfl | rfl | rfl | rfl | rfl | rfl | rfl <;> rfl

theorem at_time_same_sample_iff (raw : RawTelemetry) (now cadenceMs : Nat) (clock : SampleClock)
    (sample : TelemetrySample)
    (member : sample ∈ (assessWithClock raw now cadenceMs clock).1.samples) :
    sample.atTime now = sample ↔ ¬ raw.Disputed now cadenceMs sample.signal := by
  have exactly := raw.sample_atTime now cadenceMs sample.signal
  rwa [← mem_samples member] at exactly

theorem at_time_same_sample_clock_reading :
    let clock := SampleClock.withSessionId "session"
    let raw := RawTelemetry.nvmlTempPower 0 (.finite 60) (.finite 150)
    let sample := (assessWithClock raw 2000 1000 clock).1.gpuClockMhz
    sample.atTime 2000 = sample := by
  intro clock raw sample
  apply (at_time_same_sample_iff raw 2000 1000 clock sample ?_).mpr
  next =>
    intro disputed
    exact absurd (RawTelemetry.disputed_safety disputed) (by decide)
  next => simp [TelemetryFrame.samples, sample]

-- One sample of each kind: a slow tick's goes stale and a fast tick's comes back.
theorem at_time_stales_and_revives :
    let clock := SampleClock.withSessionId "session"
    let raw := RawTelemetry.nvmlTempPower 0 (.finite 60) (.finite 150)
    let slow := (assessWithClock raw 2000 1000 clock).1
    let fast := (assessWithClock raw 500 10 clock).1
    (slow.gpuTempC ∈ slow.samples ∧ slow.gpuTempC.validity = .valid ∧
      (slow.gpuTempC.atTime 2000).validity = .stale ∧
      slow.gpuTempC.atTime 2000 ≠ slow.gpuTempC) ∧
    fast.gpuTempC ∈ fast.samples ∧ fast.gpuTempC.validity = .stale ∧
      (fast.gpuTempC.atTime 500).validity = .valid ∧
      fast.gpuTempC.atTime 500 ≠ fast.gpuTempC := by
  intro clock raw slow fast
  have valid : slow.gpuTempC.validity = .valid := by decide
  have staled : (slow.gpuTempC.atTime 2000).validity = .stale := by decide
  have stale : fast.gpuTempC.validity = .stale := by decide
  have revived : (fast.gpuTempC.atTime 500).validity = .valid := by decide
  constructor
  next =>
    have changed : slow.gpuTempC.atTime 2000 ≠ slow.gpuTempC := by
      intro same
      simp [same, valid] at staled
    exact ⟨List.mem_cons_self, valid, staled, changed⟩
  next =>
    have changed : fast.gpuTempC.atTime 500 ≠ fast.gpuTempC := by
      intro same
      simp [same, stale] at revived
    exact ⟨List.mem_cons_self, stale, revived, changed⟩

end ThalamicRelay
