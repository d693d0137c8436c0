import ThalamicRelay.Shared.BinaryFloat
import ThalamicRelay.Shared.Saturating
import ThalamicRelay.Telemetry.Time

set_option autoImplicit false

namespace ThalamicRelay

open BinaryFloat Saturating

abbrev F32 := BinaryFloat.Value

-- A decimal literal that binary32 does not hold exactly.
def f32 (decimal : ℚ) : F32 := binary32.round decimal

inductive TelemetrySource
  | nvml
  | softwareFallback
  | nvmlUnavailable
  deriving DecidableEq, Repr

inductive SampleValidity
  | valid
  | missing
  | invalid
  | stale
  deriving DecidableEq, Repr

inductive Unit
  | celsius
  | watt
  | volt
  | megahertz
  | percent
  deriving DecidableEq, Repr

inductive SignalClass
  | runtimeInput
  | safetyOnly
  | observabilityOnly
  | both
  deriving DecidableEq, Repr

def SignalClass.includesSafety : SignalClass → Bool
  | .safetyOnly | .both => true
  | .runtimeInput | .observabilityOnly => false

inductive Normalization
  | identity
  | linear (min max : F32)
  deriving DecidableEq, Repr

inductive SignalId
  | gpuTempC
  | vramTempC
  | powerW
  | vddcrGfxV
  | gpuClockMhz
  | memClockMhz
  | fanSpeedPct
  | memUtilPct
  deriving DecidableEq, Repr

def defaultAcquisitionCadenceMs : Nat := 100

def safetyStaleAfterMs : Nat := 2000

def observabilityStaleAfterMs : Nat := 5000

def safetyEvalTicks : Nat := 10

structure SignalSpec where
  name : String
  unit : Unit
  min : F32
  max : F32
  signalClass : SignalClass
  normalization : Normalization
  staleAfterMs : Nat
  deriving DecidableEq, Repr

def signalSpec : SignalId → SignalSpec
  | .gpuTempC =>
    { name := "gpu_temp_c", unit := .celsius, min := .finite 0, max := .finite 125
      signalClass := .both
      normalization := .linear (.finite 0) (.finite 100)
      staleAfterMs := safetyStaleAfterMs }
  | .vramTempC =>
    { name := "vram_temp_c", unit := .celsius, min := .finite 0, max := .finite 125
      signalClass := .observabilityOnly
      normalization := .linear (.finite 0) (.finite 100)
      staleAfterMs := observabilityStaleAfterMs }
  | .powerW =>
    { name := "power_w", unit := .watt, min := .finite 0, max := .finite 2000
      signalClass := .both
      normalization := .linear (.finite 0) (.finite 350)
      staleAfterMs := safetyStaleAfterMs }
  | .vddcrGfxV =>
    { name := "vddcr_gfx_v", unit := .volt, min := f32 (4 / 10), max := .finite (3 / 2)
      signalClass := .observabilityOnly
      normalization := .linear (.finite (1 / 2)) (f32 (12 / 10))
      staleAfterMs := observabilityStaleAfterMs }
  | .gpuClockMhz =>
    { name := "gpu_clock_mhz", unit := .megahertz, min := .finite 0, max := .finite 3000
      signalClass := .runtimeInput
      normalization := .linear (.finite 0) (.finite 2500)
      staleAfterMs := observabilityStaleAfterMs }
  | .memClockMhz =>
    { name := "mem_clock_mhz", unit := .megahertz, min := .finite 0, max := .finite 12000
      signalClass := .observabilityOnly
      normalization := .linear (.finite 0) (.finite 10000)
      staleAfterMs := observabilityStaleAfterMs }
  | .fanSpeedPct =>
    { name := "fan_speed_pct", unit := .percent, min := .finite 0, max := .finite 100
      signalClass := .observabilityOnly
      normalization := .linear (.finite 0) (.finite 100)
      staleAfterMs := observabilityStaleAfterMs }
  | .memUtilPct =>
    { name := "mem_util_pct", unit := .percent, min := .finite 0, max := .finite 100
      signalClass := .runtimeInput
      normalization := .linear (.finite 0) (.finite 100)
      staleAfterMs := observabilityStaleAfterMs }

def staleAfterMs (signal : SignalId) (acquisitionCadenceMs : Nat) : Nat :=
  if (signalSpec signal).signalClass.includesSafety then
    multiply u64Max
      (multiply u64Max (if acquisitionCadenceMs = 0 then 1 else acquisitionCadenceMs)
        safetyEvalTicks) 2
  else (signalSpec signal).staleAfterMs

theorem staleAfterMs_safety (signal : SignalId) (cadenceMs : Nat)
    (safety : (signalSpec signal).signalClass.includesSafety = true) :
    staleAfterMs signal cadenceMs = min (20 * max cadenceMs 1) u64Max := by
  have cadence : (if cadenceMs = 0 then 1 else cadenceMs) = max cadenceMs 1 := by
    split_ifs <;> omega
  rw [staleAfterMs, if_pos safety, multiply_multiply _ _ _ _ (by decide), cadence, multiply,
    safetyEvalTicks, Nat.mul_comm]

structure TelemetrySample where
  signal : SignalId
  value : Option F32
  observedAt : Nat
  source : TelemetrySource
  validity : SampleValidity
  unit : Unit
  deriving DecidableEq, Repr

def TelemetrySample.fromRawWithStaleAfter (signal : SignalId) (raw : Option F32)
    (observedAt : Nat) (source : TelemetrySource) (now : Nat)
    (staleAfterMs : Nat) : TelemetrySample :=
  let spec := signalSpec signal
  let (value, validity) : Option F32 × SampleValidity :=
    if now < observedAt then
      match raw with
      | none => (none, .missing)
      | some v => if v.isFinite = false then (none, .invalid) else (some v, .invalid)
    else
      let ageMs := now - observedAt
      match raw with
      | none => (none, .missing)
      | some v =>
        if v.isFinite = false then (none, .invalid)
        else if v < spec.min ∨ spec.max < v then (some v, .invalid)
        else if staleAfterMs ≤ ageMs then (some v, .stale)
        else (some v, .valid)
  { signal := signal
    value := value
    observedAt := observedAt
    source := source
    validity := validity
    unit := spec.unit }

structure RawTelemetry where
  sourceUnixMs : Option Nat
  timestampOrigin : TimestampOrigin
  source : TelemetrySource
  gpuTempC : Option F32
  vramTempC : Option F32
  powerW : Option F32
  vddcrGfxV : Option F32
  gpuClockMhz : Option F32
  memClockMhz : Option F32
  fanSpeedPct : Option F32
  memUtilPct : Option F32
  deriving DecidableEq, Repr

namespace RawTelemetry

def softwareFallback (observedAt : Nat) : RawTelemetry where
  sourceUnixMs := some observedAt
  timestampOrigin := .simulated
  source := .softwareFallback
  gpuTempC := some (.finite 35)
  vramTempC := none
  powerW := some (.finite 25)
  vddcrGfxV := some (f32 (7 / 10))
  gpuClockMhz := some (.finite 210)
  memClockMhz := some (.finite 405)
  fanSpeedPct := some (.finite 30)
  memUtilPct := some (.finite 0)

def nvmlUnavailable (observedAt : Nat) : RawTelemetry where
  sourceUnixMs := some observedAt
  timestampOrigin := .liveAcquire
  source := .nvmlUnavailable
  gpuTempC := none
  vramTempC := none
  powerW := none
  vddcrGfxV := none
  gpuClockMhz := none
  memClockMhz := none
  fanSpeedPct := none
  memUtilPct := none

def value (raw : RawTelemetry) : SignalId → Option F32
  | .gpuTempC => raw.gpuTempC
  | .vramTempC => raw.vramTempC
  | .powerW => raw.powerW
  | .vddcrGfxV => raw.vddcrGfxV
  | .gpuClockMhz => raw.gpuClockMhz
  | .memClockMhz => raw.memClockMhz
  | .fanSpeedPct => raw.fanSpeedPct
  | .memUtilPct => raw.memUtilPct

def nvmlTempPower (now : Nat) (temp power : F32) : RawTelemetry where
  sourceUnixMs := some now
  timestampOrigin := .liveAcquire
  source := .nvml
  gpuTempC := some temp
  vramTempC := some (.finite 72)
  powerW := some power
  vddcrGfxV := some (f32 (91 / 100))
  gpuClockMhz := some (.finite 1500)
  memClockMhz := some (.finite 6000)
  fanSpeedPct := some (.finite 40)
  memUtilPct := some (.finite 0)

end RawTelemetry

structure TelemetryFrame where
  sessionId : String
  batchId : Nat
  sourceUnixMs : Option Nat
  receivedAtUnixMs : Nat
  timestampOrigin : TimestampOrigin
  sourceTimeStatus : SourceTimeStatus
  acquiredAt : Nat
  source : TelemetrySource
  acquisitionCadenceMs : Nat
  gpuTempC : TelemetrySample
  vramTempC : TelemetrySample
  powerW : TelemetrySample
  vddcrGfxV : TelemetrySample
  gpuClockMhz : TelemetrySample
  memClockMhz : TelemetrySample
  fanSpeedPct : TelemetrySample
  memUtilPct : TelemetrySample
  deriving DecidableEq, Repr

def TelemetryFrame.fromRawWithClock (raw : RawTelemetry) (now : Nat) (cadenceMs : Nat)
    (clock : SampleClock) : TelemetryFrame × SampleClock :=
  let (timing, clock) := clock.stamp raw.sourceUnixMs now raw.timestampOrigin
  let observedAt := raw.sourceUnixMs.getD now
  let sample := fun id =>
    TelemetrySample.fromRawWithStaleAfter id (raw.value id) observedAt raw.source now
      (staleAfterMs id cadenceMs)
  ({ sessionId := timing.sessionId
     batchId := timing.batchId
     sourceUnixMs := timing.sourceUnixMs
     receivedAtUnixMs := timing.receivedAtUnixMs
     timestampOrigin := timing.timestampOrigin
     sourceTimeStatus := timing.sourceTimeStatus
     acquiredAt := timing.receivedAtUnixMs
     source := raw.source
     acquisitionCadenceMs := max cadenceMs 1
     gpuTempC := sample .gpuTempC
     vramTempC := sample .vramTempC
     powerW := sample .powerW
     vddcrGfxV := sample .vddcrGfxV
     gpuClockMhz := sample .gpuClockMhz
     memClockMhz := sample .memClockMhz
     fanSpeedPct := sample .fanSpeedPct
     memUtilPct := sample .memUtilPct },
   clock)

def assessWithClock (raw : RawTelemetry) (now : Nat) (cadenceMs : Nat)
    (clock : SampleClock) : TelemetryFrame × SampleClock :=
  TelemetryFrame.fromRawWithClock raw now cadenceMs clock

end ThalamicRelay
