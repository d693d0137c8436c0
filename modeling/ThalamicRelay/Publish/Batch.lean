import ThalamicRelay.Telemetry.Mapping

set_option autoImplicit false

namespace ThalamicRelay

open BinaryFloat Saturating

def sourceIdentity : String := "vahtisiru"

-- The wire types of corpus-ipc with the fields that the publisher sets.
structure BatchMetadata where
  processingLatencyNs : Option Nat
  source : Option String
  custom : List (String × String)
  deriving DecidableEq, Repr

structure StimulusBatch where
  sessionId : Option String
  batchId : Nat
  timestamp : Nat
  values : List F32
  validMask : Option (List Bool)
  metadata : Option BatchMetadata
  deriving DecidableEq, Repr

inductive IpcMessage
  | stimuli (batch : StimulusBatch)
  deriving DecidableEq, Repr

def unixMsToNs (unixMs : Nat) : Nat :=
  multiply u64Max unixMs 1000000

def sourceName : TelemetrySource → String
  | .nvml => "nvml"
  | .softwareFallback => "software_fallback"
  | .nvmlUnavailable => "nvml_unavailable"

def validityName : SampleValidity → String
  | .valid => "valid"
  | .missing => "missing"
  | .invalid => "invalid"
  | .stale => "stale"

def joinCommas (names : List String) : String :=
  String.intercalate "," names

def splitCommas (text : String) : List String :=
  (text.toList.splitOn ',').map String.ofList

namespace MappedStimulus

def wireValue (stimulus : MappedStimulus) : F32 :=
  match stimulus.validity, stimulus.normalized with
  | .valid, some value => value
  | _, _ => .finite 0

def wireMask (stimulus : MappedStimulus) : Bool :=
  match stimulus.validity, stimulus.normalized with
  | .valid, some _ => true
  | _, _ => false

end MappedStimulus

def mappingToStimulusBatch (mapping : SensoryMapping) (sessionId : Option String)
    (batchId : Nat) : StimulusBatch where
  sessionId := sessionId
  batchId := batchId
  timestamp := unixMsToNs mapping.emittedAtUnixMs
  values := mapping.stimuli.map (·.wireValue)
  validMask := some (mapping.stimuli.map (·.wireMask))
  metadata := some
    { processingLatencyNs := none
      source := some sourceIdentity
      custom :=
        [("acquisition_source", sourceName mapping.acquisitionSource),
          ("acquisition_cadence_ms", toString mapping.acquisitionCadenceMs),
          ("channels", joinCommas (mapping.stimuli.map (·.name))),
          ("validity", joinCommas (mapping.stimuli.map fun stimulus =>
            validityName stimulus.validity)),
          ("stale_after_ms", joinCommas (mapping.stimuli.map fun stimulus =>
            toString stimulus.staleAfterMs))] }

def StimulusBatch.custom (batch : StimulusBatch) (key : String) : Option String :=
  batch.metadata.bind fun metadata => metadata.custom.lookup key

def StimulusBatch.splitCustom (batch : StimulusBatch) (key : String) : Option (List String) :=
  (batch.custom key).map splitCommas

theorem splitCommas_join {names : List String} (nonempty : names ≠ [])
    (plain : ∀ name ∈ names, ',' ∉ name.toList) : splitCommas (joinCommas names) = names := by
  have split := String.toList_split_intercalate plain
  rw [String.toList_split_char, if_neg nonempty] at split
  exact split

theorem custom_joined (mapping : SensoryMapping) (sessionId : Option String) (batchId : Nat) :
    let batch := mappingToStimulusBatch mapping sessionId batchId
    batch.custom "channels" = some (joinCommas (mapping.stimuli.map (·.name))) ∧
    batch.custom "validity" =
      some (joinCommas (mapping.stimuli.map fun stimulus => validityName stimulus.validity)) ∧
    batch.custom "stale_after_ms" =
      some (joinCommas (mapping.stimuli.map fun stimulus => toString stimulus.staleAfterMs)) := by
  simp [StimulusBatch.custom, mappingToStimulusBatch, List.lookup_cons]

theorem digits_plain (n : Nat) : ',' ∉ (toString n).toList := by
  intro member
  have digit : ','.isDigit = true := by
    refine Nat.isDigit_of_mem_toDigits (b := 10) (n := n) (by decide) (by decide) ?_
    simpa using member
  exact absurd digit (by decide)

theorem validityName_plain (validity : SampleValidity) :
    ',' ∉ (validityName validity).toList := by
  cases validity <;> decide

theorem name_plain (signal : SignalId) : ',' ∉ (signalSpec signal).name.toList := by
  cases signal <;> decide

def Normalization.scaled (normalization : Normalization) (q : ℚ) : ℚ :=
  match normalization with
  | .linear (.finite low) (.finite high) => max 0 (min 1 ((q - low) / (high - low)))
  | _ => q

section Emission

variable {signal : SignalId} (raw : RawTelemetry) (now cadenceMs emitted : Nat)

theorem runtimeInputs_bounded (input : signal ∈ runtimeInputs) :
    ∃ low high, Bounded signal low high := by
  simp only [runtimeInputs, List.mem_cons, List.not_mem_nil, or_false] at input
  rcases input with rfl | rfl | rfl | rfl <;> exact ⟨_, _, rfl, rfl⟩

theorem runtimeInputs_scaled (input : signal ∈ runtimeInputs) (q : ℚ) :
    (signalSpec signal).normalization.apply .finite (.finite q) =
      .finite ((signalSpec signal).normalization.scaled q) := by
  simp only [runtimeInputs, List.mem_cons, List.not_mem_nil, or_false] at input
  rcases input with rfl | rfl | rfl | rfl <;> exact apply_exact (by norm_num) q

def RawTelemetry.stimulus (signal : SignalId) : MappedStimulus :=
  .fromSample .finite (raw.mapped now cadenceMs emitted signal) (max cadenceMs 1)
    (staleAfterMs signal cadenceMs)

theorem mapped_signal (signal : SignalId) :
    (raw.mapped now cadenceMs emitted signal).signal = signal := by
  simp only [RawTelemetry.mapped, atTimeFrom_signal, sample_signal]

theorem stimulus_name (signal : SignalId) :
    (raw.stimulus now cadenceMs emitted signal).name = (signalSpec signal).name := by
  simp only [RawTelemetry.stimulus, MappedStimulus.fromSample, mapped_signal]

theorem stimulus_validity (input : signal ∈ runtimeInputs) :
    (raw.stimulus now cadenceMs emitted signal).validity = .valid ↔
      (raw.validReading now cadenceMs emitted signal).isSome = true := by
  obtain ⟨low, high, bounded⟩ := runtimeInputs_bounded input
  simp only [RawTelemetry.stimulus, MappedStimulus.fromSample]
  cases reading : raw.validReading now cadenceMs emitted signal with
  | none => simpa using mapped_invalid bounded raw now cadenceMs emitted reading
  | some q => simpa using (mapped_valid bounded raw now cadenceMs emitted reading).1

theorem stimulus_invalid (input : signal ∈ runtimeInputs)
    (unread : raw.validReading now cadenceMs emitted signal = none) :
    (raw.stimulus now cadenceMs emitted signal).wireMask = false ∧
      (raw.stimulus now cadenceMs emitted signal).wireValue = .finite 0 := by
  have invalid : (raw.stimulus now cadenceMs emitted signal).validity ≠ .valid := by
    simp [stimulus_validity raw now cadenceMs emitted input, unread]
  simp only [MappedStimulus.wireMask, MappedStimulus.wireValue]
  cases validity : (raw.stimulus now cadenceMs emitted signal).validity with
  | valid => exact absurd validity invalid
  | missing | invalid | stale => exact ⟨rfl, rfl⟩

theorem stimulus_valid (input : signal ∈ runtimeInputs) {q : ℚ}
    (reading : raw.validReading now cadenceMs emitted signal = some q) :
    (raw.stimulus now cadenceMs emitted signal).wireMask = true ∧
      (raw.stimulus now cadenceMs emitted signal).wireValue =
        .finite ((signalSpec signal).normalization.scaled q) := by
  obtain ⟨low, high, bounded⟩ := runtimeInputs_bounded input
  obtain ⟨valid, value⟩ := mapped_valid bounded raw now cadenceMs emitted reading
  have normalized : (raw.stimulus now cadenceMs emitted signal).normalized =
      some (.finite ((signalSpec signal).normalization.scaled q)) := by
    simp [RawTelemetry.stimulus, MappedStimulus.fromSample, TelemetrySample.normalized, valid,
      value, mapped_signal, runtimeInputs_scaled input]
  have validity : (raw.stimulus now cadenceMs emitted signal).validity = .valid := valid
  simp only [MappedStimulus.wireMask, MappedStimulus.wireValue, validity, normalized, and_self]

theorem stimulus_wire (input : signal ∈ runtimeInputs) :
    (raw.stimulus now cadenceMs emitted signal).wireMask =
        (raw.validReading now cadenceMs emitted signal).isSome ∧
      (raw.stimulus now cadenceMs emitted signal).wireValue =
        match raw.validReading now cadenceMs emitted signal with
        | some q => .finite ((signalSpec signal).normalization.scaled q)
        | none => .finite 0 := by
  cases reading : raw.validReading now cadenceMs emitted signal with
  | none => exact stimulus_invalid raw now cadenceMs emitted input reading
  | some q => exact stimulus_valid raw now cadenceMs emitted input reading

theorem validReading_sample (input : signal ∈ runtimeInputs)
    (initially : (raw.sample now cadenceMs signal).validity ≠ .valid) :
    raw.validReading now cadenceMs emitted signal = none := by
  obtain ⟨low, high, bounded⟩ := runtimeInputs_bounded input
  cases reading : raw.validReading now cadenceMs emitted signal with
  | none => rfl
  | some q =>
    have same : raw.mapped now cadenceMs emitted signal = raw.sample now cadenceMs signal := by
      simp [RawTelemetry.mapped, TelemetrySample.atTimeFrom, initially]
    have valid := (mapped_valid bounded raw now cadenceMs emitted reading).1
    rw [same] at valid
    exact absurd valid initially

theorem only_valid_readings_emitted (clock : SampleClock) (sessionId : Option String)
    (batchId : Nat) :
    let frame := (assessWithClock raw now cadenceMs clock).1
    let batch := mappingToStimulusBatch (frame.toSensoryMappingAt .finite emitted) sessionId batchId
    let reading := raw.validReading now cadenceMs emitted
    batch.splitCustom "channels" =
      some (runtimeInputs.map fun signal => (signalSpec signal).name) ∧
    batch.splitCustom "stale_after_ms" =
      some (runtimeInputs.map fun signal => toString (staleAfterMs signal cadenceMs)) ∧
    (∃ validity : SignalId → SampleValidity,
      batch.splitCustom "validity" =
        some (runtimeInputs.map fun signal => validityName (validity signal)) ∧
      ∀ signal ∈ runtimeInputs, validity signal = .valid ↔ (reading signal).isSome = true) ∧
    batch.validMask = some (runtimeInputs.map fun signal => (reading signal).isSome) ∧
    batch.values =
      runtimeInputs.map (fun signal =>
        match reading signal with
        | some q => .finite ((signalSpec signal).normalization.scaled q)
        | none => .finite 0) ∧
    (∀ signal ∈ runtimeInputs, ∀ later, emitted ≤ later →
      (raw.validReading now cadenceMs later signal).isSome = true →
        (reading signal).isSome = true) ∧
    (∀ signal ∈ runtimeInputs, (raw.sample now cadenceMs signal).validity ≠ .valid →
      reading signal = none) := by
  intro frame batch reading
  have stimuli : (frame.toSensoryMappingAt .finite emitted).stimuli =
      runtimeInputs.map (raw.stimulus now cadenceMs emitted) :=
    assess_stimuli .finite raw now cadenceMs clock emitted
  obtain ⟨channels, validity, stale⟩ :=
    custom_joined (frame.toSensoryMappingAt .finite emitted) sessionId batchId
  rw [stimuli, List.map_map] at channels validity stale
  have split {field : SignalId → String} (plain : ∀ signal, ',' ∉ (field signal).toList) :
      splitCommas (joinCommas (runtimeInputs.map field)) = runtimeInputs.map field := by
    refine splitCommas_join (by simp [runtimeInputs]) ?_
    simpa using fun signal _ => plain signal
  refine ⟨?_, ?_, ⟨fun signal => (raw.stimulus now cadenceMs emitted signal).validity, ?_,
    fun signal input => stimulus_validity raw now cadenceMs emitted input⟩, ?_, ?_, ?_,
    fun signal input => validReading_sample raw now cadenceMs emitted input⟩
  · simp only [batch, StimulusBatch.splitCustom, channels, Option.map_some, Function.comp_def,
      stimulus_name, split name_plain]
  · simp only [batch, StimulusBatch.splitCustom, stale, Option.map_some, Function.comp_def]
    exact congrArg some (split fun signal => digits_plain _)
  · simp only [batch, StimulusBatch.splitCustom, validity, Option.map_some, Function.comp_def,
      split fun signal => validityName_plain _]
  · simp only [batch, mappingToStimulusBatch, stimuli, List.map_map, Option.some.injEq]
    exact List.map_congr_left fun signal input =>
      (stimulus_wire raw now cadenceMs emitted input).1
  · simp only [batch, mappingToStimulusBatch, stimuli, List.map_map]
    exact List.map_congr_left fun signal input =>
      (stimulus_wire raw now cadenceMs emitted input).2
  · intro signal input later ordered valid
    obtain ⟨q, valid⟩ := Option.isSome_iff_exists.mp valid
    exact Option.isSome_iff_exists.mpr
      ⟨q, validReading_antitone raw now cadenceMs ordered signal valid⟩

end Emission

end ThalamicRelay
