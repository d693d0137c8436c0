import ThalamicRelay.Telemetry.AtTime

set_option autoImplicit false

namespace ThalamicRelay

open BinaryFloat Saturating

structure Assessment where
  raw : RawTelemetry
  now : Nat
  cadenceMs : Nat
  deriving DecidableEq, Repr

def SampleClock.assess (clock : SampleClock) (input : Assessment) : TelemetryFrame × SampleClock :=
  assessWithClock input.raw input.now input.cadenceMs clock

def SampleClock.assessAll (clock : SampleClock) : List Assessment → List TelemetryFrame
  | [] => []
  | input :: later => (clock.assess input).1 :: (clock.assess input).2.assessAll later

/-- The basis of the next comparison: a flagged source time counts as any other. -/
def SampleClock.mostRecentSource (clock : SampleClock) (earlier : List Assessment) : Option Nat :=
  (earlier.filterMap fun input => input.raw.sourceUnixMs).getLast?.or clock.lastSourceUnixMs

def SourceTimeStatus.against (src : Nat) : Option Nat → SourceTimeStatus
  | none => .inOrder
  | some prev => if src < prev then .backward else if src = prev then .duplicate else .inOrder

theorem mostRecentSource_cons (clock : SampleClock) (input : Assessment)
    (earlier : List Assessment) :
    clock.mostRecentSource (input :: earlier) =
      (clock.assess input).2.mostRecentSource earlier := by
  cases source : input.raw.sourceUnixMs with
  | none =>
    simp [SampleClock.mostRecentSource, SampleClock.assess, assessWithClock,
      TelemetryFrame.fromRawWithClock, SampleClock.stamp, source]
  | some src =>
    simp only [SampleClock.mostRecentSource, SampleClock.assess, assessWithClock,
      TelemetryFrame.fromRawWithClock, SampleClock.stamp, source, List.filterMap_cons,
      List.getLast?_cons]
    cases (earlier.filterMap fun input => input.raw.sourceUnixMs).getLast? <;> rfl

theorem from_raw_future (signal : SignalId) (raw : Option F32) {observedAt now : Nat}
    (future : now < observedAt) (source : TelemetrySource) (staleAfterMs : Nat) :
    let sample :=
      TelemetrySample.fromRawWithStaleAfter signal raw observedAt source now staleAfterMs
    sample.validity ≠ .valid ∧ sample.validity ≠ .stale := by
  cases raw with
  | none => simp [TelemetrySample.fromRawWithStaleAfter, future]
  | some value =>
    by_cases number : value.isFinite = false <;>
      simp [TelemetrySample.fromRawWithStaleAfter, future, number]

def Unusable (signal : SignalId) (raw : Option F32) : Prop :=
  ∃ value ∈ raw, value.isFinite = false ∨ value < (signalSpec signal).min ∨
    (signalSpec signal).max < value

theorem staleAfterMs_pos (signal : SignalId) (cadenceMs : Nat) :
    0 < staleAfterMs signal cadenceMs := by
  by_cases safety : (signalSpec signal).signalClass.includesSafety = true
  · rw [staleAfterMs_safety signal cadenceMs safety]
    have room : 0 < u64Max := by decide
    omega
  · rw [staleAfterMs, if_neg safety]
    cases signal <;> decide

theorem from_raw_now (signal : SignalId) (raw : Option F32) (source : TelemetrySource)
    (now cadenceMs : Nat) :
    let sample := TelemetrySample.fromRawWithStaleAfter signal raw now source now
      (staleAfterMs signal cadenceMs)
    sample.validity ≠ .stale ∧ (sample.validity = .invalid ↔ Unusable signal raw) := by
  have young : ¬ staleAfterMs signal cadenceMs = 0 := (staleAfterMs_pos signal cadenceMs).ne'
  cases raw with
  | none => simp [TelemetrySample.fromRawWithStaleAfter, Unusable]
  | some value =>
    by_cases number : value.isFinite = false
    · simp [TelemetrySample.fromRawWithStaleAfter, Unusable, number]
    by_cases outside : value < (signalSpec signal).min ∨ (signalSpec signal).max < value
    · simp [TelemetrySample.fromRawWithStaleAfter, Unusable, number, outside]
    · simp [TelemetrySample.fromRawWithStaleAfter, Unusable, number, outside, young]

structure TimesAgree (clock : SampleClock) (earlier : List Assessment) (input : Assessment)
    (frame : TelemetryFrame) : Prop where
  session : frame.sessionId = clock.sessionId
  -- A new clock has 0 here, and each frame takes the next number.
  batch : frame.batchId = clock.nextBatchId + earlier.length
  missing : frame.sourceTimeStatus = .missing ↔ input.raw.sourceUnixMs = none
  future : frame.sourceTimeStatus = .future ↔ ∃ src ∈ input.raw.sourceUnixMs, input.now < src
  compared : ∀ src ∈ input.raw.sourceUnixMs, src ≤ input.now →
    frame.sourceTimeStatus = .against src (clock.mostRecentSource earlier)
  futureChannels : frame.sourceTimeStatus = .future →
    ∀ sample ∈ frame.samples, sample.validity ≠ .valid ∧ sample.validity ≠ .stale
  missingChannels : input.raw.sourceUnixMs = none →
    ∀ sample ∈ frame.samples, sample.validity ≠ .stale ∧
      (sample.validity = .invalid ↔ Unusable sample.signal (input.raw.value sample.signal))

theorem against_present (src : Nat) (last : Option Nat) :
    SourceTimeStatus.against src last ≠ .missing ∧ SourceTimeStatus.against src last ≠ .future := by
  cases last with
  | none => simp [SourceTimeStatus.against]
  | some prev =>
    simp only [SourceTimeStatus.against]
    split_ifs <;> simp

theorem classify_past {src now : Nat} (past : src ≤ now) (last : Option Nat) :
    SourceTimeStatus.classify (some src) now last = .against src last := by
  simp only [SourceTimeStatus.classify, if_neg (Nat.not_lt.mpr past)]
  cases last <;> rfl

theorem classify_missing {source last : Option Nat} {now : Nat} :
    SourceTimeStatus.classify source now last = .missing ↔ source = none := by
  cases source with
  | none => simp [SourceTimeStatus.classify]
  | some src =>
    by_cases ahead : now < src
    next => simp [SourceTimeStatus.classify, ahead]
    next => simp [classify_past (Nat.le_of_not_lt ahead), against_present]

theorem classify_future {source last : Option Nat} {now : Nat} :
    SourceTimeStatus.classify source now last = .future ↔ ∃ src ∈ source, now < src := by
  cases source with
  | none => simp [SourceTimeStatus.classify]
  | some src =>
    by_cases ahead : now < src
    next => simp [SourceTimeStatus.classify, ahead]
    next => simp [classify_past (Nat.le_of_not_lt ahead), against_present, ahead]

theorem assess_agrees (clock : SampleClock) (input : Assessment) :
    TimesAgree clock [] input (clock.assess input).1 := by
  have status : (clock.assess input).1.sourceTimeStatus =
      SourceTimeStatus.classify input.raw.sourceUnixMs input.now clock.lastSourceUnixMs := rfl
  have channel : ∀ sample ∈ (clock.assess input).1.samples,
      sample = input.raw.sample input.now input.cadenceMs sample.signal :=
    fun sample member => mem_samples member
  constructor
  case session => rfl
  case batch => rfl
  case missing => rw [status, classify_missing]
  case future => rw [status, classify_future]
  case compared =>
    intro src source past
    rw [status, Option.mem_def.mp source, classify_past past]
    rfl
  case futureChannels =>
    intro future sample member
    rw [status, classify_future] at future
    obtain ⟨src, source, ahead⟩ := future
    have later := from_raw_future sample.signal (input.raw.value sample.signal) ahead
      input.raw.source (staleAfterMs sample.signal input.cadenceMs)
    have made := channel sample member
    simp only [RawTelemetry.sample, Option.mem_def.mp source, Option.getD_some] at made
    rwa [← made] at later
  case missingChannels =>
    intro source sample member
    have now := from_raw_now sample.signal (input.raw.value sample.signal) input.raw.source
      input.now input.cadenceMs
    have made := channel sample member
    simp only [RawTelemetry.sample, source, Option.getD_none] at made
    rwa [← made] at now

theorem TimesAgree.after {clock : SampleClock} {first input : Assessment}
    {earlier : List Assessment} {frame : TelemetryFrame}
    (agree : TimesAgree (clock.assess first).2 earlier input frame) :
    TimesAgree clock (first :: earlier) input frame := by
  have next : (clock.assess first).2.nextBatchId = clock.nextBatchId + 1 := rfl
  constructor
  case session => exact agree.session
  case batch =>
    rw [agree.batch, next, List.length_cons]
    omega
  case missing => exact agree.missing
  case future => exact agree.future
  case compared => simpa only [mostRecentSource_cons] using agree.compared
  case futureChannels => exact agree.futureChannels
  case missingChannels => exact agree.missingChannels

theorem sample_times_agree (clock : SampleClock) (earlier later : List Assessment)
    (input : Assessment) :
    ∃ frame, (clock.assessAll (earlier ++ input :: later))[earlier.length]? = some frame ∧
      TimesAgree clock earlier input frame := by
  induction earlier generalizing clock with
  | nil => exact ⟨(clock.assess input).1, rfl, assess_agrees clock input⟩
  | cons first earlier inductionHypothesis =>
    obtain ⟨frame, stamped, agree⟩ := inductionHypothesis (clock.assess first).2
    refine ⟨frame, ?_, agree.after⟩
    simpa [SampleClock.assessAll] using stamped

end ThalamicRelay
