import ThalamicRelay.Supervisor.VerdictAge

set_option autoImplicit false

namespace ThalamicRelay

open BinaryFloat Saturating

inductive SmokeError
  | target (error : TargetError)
  | other (message : String)
  deriving DecidableEq

/-- What the read-only check meets, in the order in which it asks. -/
structure HardwareSmoke where
  list : Except String (Except String PUnit)
  target : Except TargetError GpuTarget
  read : NvmlRead
  now : Nat
  clock : SampleClock
  currentW : Option UInt32
  defaultW : Option UInt32

def TelemetrySource.debug : TelemetrySource → String
  | .nvml => "Nvml"
  | .softwareFallback => "SoftwareFallback"
  | .nvmlUnavailable => "NvmlUnavailable"

def SampleValidity.debug : SampleValidity → String
  | .valid => "Valid"
  | .missing => "Missing"
  | .invalid => "Invalid"
  | .stale => "Stale"

def requireHardwareSmokeSample (label : String) (sample : TelemetrySample) :
    Except SmokeError PUnit :=
  match sample.validity with
  | .valid =>
    if (sample.value.map Value.isFinite).getD false then .ok ()
    else .error (.other (label ++ " has no finite NVML value"))
  | validity =>
    .error (.other (label ++ " is not valid NVML telemetry (" ++ validity.debug ++ ")"))

namespace HardwareSmoke

def listed (smoke : HardwareSmoke) : Except SmokeError PUnit :=
  match smoke.list with
  | .error error =>
    .error (.other ("could not execute `timeout -k 2s 3s nvidia-smi -L`: " ++ error))
  | .ok (.error status) =>
    .error (.other ("`nvidia-smi -L` exited with " ++ status ++
      "; NVIDIA driver/device unavailable"))
  | .ok (.ok _) => .ok ()

def sampled (smoke : HardwareSmoke) (target : GpuTarget) : Except SmokeError PUnit :=
  let raw := HardwareBridge.acquireRaw ⟨some target⟩ false smoke.read
  if raw.source ≠ .nvml then
    .error (.other ("resolved GPU " ++ String.ofList target.uuid ++
      " did not produce NVML telemetry (source: " ++ raw.source.debug ++ ")"))
  else do
    let frame := (assessWithClock raw smoke.now 100 smoke.clock).1
    requireHardwareSmokeSample "GPU temperature" frame.gpuTempC
    requireHardwareSmokeSample "GPU board power" frame.powerW

def limited (smoke : HardwareSmoke) (target : GpuTarget) : Except SmokeError PUnit :=
  match smoke.currentW, smoke.defaultW with
  | none, _ =>
    .error (.other ("current power limit could not be read from UUID " ++
      String.ofList target.uuid))
  | some _, none =>
    .error (.other ("default power limit could not be read from UUID " ++
      String.ofList target.uuid))
  | some currentW, some defaultW =>
    if currentW = 0 ∨ defaultW = 0 then
      .error (.other ("NVML returned non-positive power limits for " ++
        String.ofList target.uuid ++ ": current=" ++ toString currentW ++ " W default=" ++
        toString defaultW ++ " W"))
    else .ok ()

/-- The printed lines are left out. -/
def runGpuHardwareSmoke (smoke : HardwareSmoke) : Except SmokeError PUnit := do
  smoke.listed
  let target ← smoke.target.mapError .target
  smoke.sampled target
  smoke.limited target

end HardwareSmoke

theorem requireHardwareSmokeSample_ok {label : String} {sample : TelemetrySample} :
    requireHardwareSmokeSample label sample = .ok () ↔ ∃ q, Usable sample (.finite q) := by
  unfold requireHardwareSmokeSample
  cases validity : sample.validity with
  | valid =>
    cases value : sample.value with
    | none =>
      simp only [Option.map_none, Option.getD_none, Bool.false_eq_true, if_false, reduceCtorEq,
        false_iff, not_exists]
      intro q usable
      simpa [value] using usable.present
    | some v =>
      constructor
      next =>
        intro passed
        have number : v.isFinite = true := by simpa using passed
        obtain ⟨q, rfl⟩ := Value.eq_finite_of_isFinite number
        exact ⟨q, validity, value⟩
      next =>
        rintro ⟨q, usable⟩
        rw [usable.present] at value
        obtain rfl := Option.some.inj value
        simp [Value.isFinite]
  | missing | invalid | stale =>
    simp only [reduceCtorEq, false_iff, not_exists]
    intro q usable
    simpa [validity] using usable.valid

def GpuSensors.InRange (sensors : GpuSensors) : Prop :=
  (∃ t, sensors.temperature = some t ∧ t ≤ 125) ∧ ∃ p, sensors.powerUsage = some p ∧ p ≤ 2000000

section Samples

variable {sensors : GpuSensors} {observedAt now cadenceMs : Nat} (clock : SampleClock)

theorem usable_temperature :
    (∃ q, Usable (assessWithClock (HardwareBridge.sampled sensors observedAt) now cadenceMs
      clock).1.gpuTempC (.finite q)) ↔
      (∃ t, sensors.temperature = some t ∧ t ≤ 125) ∧ observedAt ≤ now ∧
        now - observedAt < min (20 * max cadenceMs 1) u64Max := by
  simp only [assess_usable_temp, HardwareBridge.sampled, Option.getD_some]
  constructor
  next =>
    rintro ⟨_, q, same, reading, _, bounded, past, fresh⟩
    obtain ⟨t, found, number⟩ := Option.map_eq_some_iff.mp reading
    have below : asF32 t ≤ .finite (125 : ℕ) := by
      rw [number]
      exact bounded
    exact ⟨⟨t, found, (asF32_le t (by decide)).mp below⟩, past, fresh⟩
  next =>
    rintro ⟨⟨t, found, bounded⟩, past, fresh⟩
    have below := (asF32_le t (show 125 + 1 < 2 ^ 24 by decide)).mpr bounded
    obtain ⟨q, number, nonneg, _⟩ := asF32_finite t
    rw [number] at below
    exact ⟨q, q, rfl, by rw [found, Option.map_some, number], nonneg, below, past, fresh⟩

theorem usable_power :
    (∃ q, Usable (assessWithClock (HardwareBridge.sampled sensors observedAt) now cadenceMs
      clock).1.powerW (.finite q)) ↔
      (∃ p, sensors.powerUsage = some p ∧ p ≤ 2000000) ∧ observedAt ≤ now ∧
        now - observedAt < min (20 * max cadenceMs 1) u64Max := by
  simp only [assess_usable_power, HardwareBridge.sampled, Option.getD_some]
  constructor
  next =>
    rintro ⟨_, q, same, reading, _, bounded, past, fresh⟩
    obtain ⟨p, found, number⟩ := Option.map_eq_some_iff.mp reading
    have below : wattsOfMilliwatts p ≤ .finite 2000 := by
      rw [number]
      exact bounded
    exact ⟨⟨p, found, (wattsOfMilliwatts_le p).mp below⟩, past, fresh⟩
  next =>
    rintro ⟨⟨p, found, bounded⟩, past, fresh⟩
    have below := (wattsOfMilliwatts_le p).mpr bounded
    obtain ⟨q, number, nonneg⟩ := wattsOfMilliwatts_finite p
    rw [number] at below
    exact ⟨q, q, rfl, by rw [found, Option.map_some, number], nonneg, below, past, fresh⟩

end Samples

namespace HardwareSmoke

variable {smoke : HardwareSmoke}

theorem runGpuHardwareSmoke_ok :
    smoke.runGpuHardwareSmoke = .ok () ↔
      smoke.listed = .ok () ∧ ∃ target, smoke.target = .ok target ∧
        smoke.sampled target = .ok () ∧ smoke.limited target = .ok () := by
  unfold runGpuHardwareSmoke
  cases smoke.listed with
  | error => simp [bind, Except.bind]
  | ok _ =>
    cases smoke.target with
    | error => simp [bind, Except.bind, Except.mapError]
    | ok target =>
      cases sampled : smoke.sampled target with
      | error => simp [bind, Except.bind, Except.mapError, sampled]
      | ok _ => simp [bind, Except.bind, Except.mapError, sampled]

theorem sequence_ok (first second : Except SmokeError PUnit) :
    (do first; second) = .ok () ↔ first = .ok () ∧ second = .ok () := by
  cases first with
  | error => simp [bind, Except.bind]
  | ok _ => simp [bind, Except.bind]

theorem sampled_ok {target : GpuTarget} :
    smoke.sampled target = .ok () ↔
      ∃ sensors, smoke.read.sensors target = some sensors ∧ sensors.InRange ∧
        smoke.read.observedAt ≤ smoke.now ∧ smoke.now - smoke.read.observedAt < 2000 := by
  unfold HardwareSmoke.sampled
  simp only [HardwareBridge.acquireRaw_sensors, Option.bind_some]
  cases found : smoke.read.sensors target with
  | none => simp [RawTelemetry.nvmlUnavailable]
  | some sensors =>
    have live : ¬ (HardwareBridge.sampled sensors smoke.read.observedAt).source ≠ .nvml := by
      simp [HardwareBridge.sampled]
    simp only [Option.map_some, Option.getD_some, if_neg live, sequence_ok,
      requireHardwareSmokeSample_ok, usable_temperature, usable_power, Option.some.injEq]
    have limit : min (20 * max 100 1) u64Max = 2000 := by decide
    rw [limit]
    constructor
    next =>
      rintro ⟨⟨temperature, past, fresh⟩, power, _⟩
      exact ⟨sensors, rfl, ⟨temperature, power⟩, past, fresh⟩
    next =>
      rintro ⟨_, rfl, ⟨temperature, power⟩, past, fresh⟩
      exact ⟨⟨temperature, past, fresh⟩, power, past, fresh⟩

end HardwareSmoke

-- The first frame is judged whatever it is.
theorem Startup.first_verdict (startup : Startup) (input : Iteration) :
    lastKind (startup.run [input]).log =
      some (classifyFrameWithPolicy (input.acquisition.assess startup.cli
        startup.initial.sampleClock).1 startup.policy).kind := by
  have core := startup.initial_core
  have attempt : startup.initial.attempt = { slots := .empty, pending := none } :=
    congrArg RelayCore.attempt core
  have policy : startup.initial.machine.policy = startup.policy := (startup.inv []).samePolicy
  have pending : startup.initial.attempt.pending = none := by rw [attempt]
  have begun := Supervisor.begin_nothing input.retryGateFree pending
  have idle : (startup.initial.ready startup.cli input).completeFinished startup.cli input =
      (startup.initial.ready startup.cli input, .clear) := by
    apply Supervisor.completeFinished_idle
    intro slot
    left
    have same : (startup.initial.ready startup.cli input).attempt = startup.initial.attempt := by
      simp only [Supervisor.ready, begun]
      rfl
    rw [same, attempt]
    cases slot <;> rfl
  have first : shouldEvaluateTick (startup.initial.ready startup.cli input).stepCount
      (startup.initial.telemetry startup.cli input).source = true := by
    simp [Supervisor.ready_stepCount, startup.initial_unjudged.2, shouldEvaluateTick]
  have reached : startup.run [input] = startup.initial.iterate startup.cli input := rfl
  rw [reached, Supervisor.iterate_eq, idle]
  simp only [Supervisor.recordAcquired, Supervisor.dispatch_lastKind, Supervisor.evaluateTick,
    TickFlags.clear, Bool.false_eq_true, if_false, first, if_true]
  rw [← policy, ← Supervisor.ready_machine startup.cli startup.initial input]
  rfl

def AssessmentKind.Measured (kind : AssessmentKind) : Prop :=
  kind = .ok ∨ kind = .warn ∨ kind = .critical

section Verdicts

variable {sensors : GpuSensors} {observedAt now cadenceMs : Nat} {policy : SafetyPolicy}

theorem measured_of_inRange (clock : SampleClock) (range : sensors.InRange)
    (past : observedAt ≤ now) (fresh : now - observedAt < min (20 * max cadenceMs 1) u64Max)
    (young : now - observedAt < policy.config.maxSampleAgeMs)
    (interval : max cadenceMs 1 ≤ policy.config.maxAcquisitionIntervalMs)
    (limits : policy.powerLimitsW ≠ none) :
    (classifyFrameWithPolicy (assessWithClock (HardwareBridge.sampled sensors observedAt) now
      cadenceMs clock).1 policy).kind.Measured := by
  obtain ⟨t, temperature⟩ := (usable_temperature clock).mpr ⟨range.1, past, fresh⟩
  obtain ⟨p, power⟩ := (usable_power clock).mpr ⟨range.2, past, fresh⟩
  obtain ⟨⟨warn, critical⟩, known⟩ := Option.ne_none_iff_exists'.mp limits
  have real : (HardwareBridge.sampled sensors observedAt).source ≠ .softwareFallback := by
    simp [HardwareBridge.sampled]
  have current : ¬ outdated (assessWithClock (HardwareBridge.sampled sensors observedAt) now
      cadenceMs clock).1 policy := by
    rw [assess_outdated]
    simp only [HardwareBridge.sampled, Option.getD_some]
    omega
  rw [classify_usable policy real temperature power, if_neg current, known]
  exact thresholdKind_cases _ _ _ _ _

theorem inRange_of_measured {read : NvmlRead} {target : GpuTarget} (clock : SampleClock)
    (measured : (classifyFrameWithPolicy (assessWithClock
      (HardwareBridge.acquireRaw ⟨some target⟩ false read) now cadenceMs clock).1
        policy).kind.Measured) :
    ∃ sensors, read.sensors target = some sensors ∧ sensors.InRange ∧ read.observedAt ≤ now ∧
      now - read.observedAt < min (20 * max cadenceMs 1) u64Max := by
  have real := HardwareBridge.acquireRaw_real ⟨some target⟩ read
  by_cases verified : ∃ temp power warn critical, Verified
      (HardwareBridge.acquireRaw ⟨some target⟩ false read) now cadenceMs policy temp power warn
        critical
  next =>
    obtain ⟨temp, power, warn, critical, verified⟩ := verified
    rw [HardwareBridge.acquireRaw_sensors, Option.bind_some] at verified
    cases found : read.sensors target with
    | none =>
      have absent := verified.temperature.1
      simp [found, RawTelemetry.nvmlUnavailable] at absent
    | some sensors =>
      simp only [found, Option.map_some, Option.getD_some] at verified
      obtain ⟨⟨reading, range⟩, ⟨board, extent⟩, past, fresh, _⟩ := verified
      have temperature := (assess_usable_temp _ now cadenceMs clock _).mpr
        ⟨temp, rfl, reading, range.1, range.2, past, fresh⟩
      have watts := (assess_usable_power _ now cadenceMs clock _).mpr
        ⟨power, rfl, board, extent.1, extent.2, past, fresh⟩
      obtain ⟨hot, since⟩ := (usable_temperature clock).mp ⟨temp, temperature⟩
      exact ⟨sensors, rfl, ⟨hot, ((usable_power clock).mp ⟨power, watts⟩).1⟩, since⟩
  next =>
    rcases unverified_kind clock real verified with kind | kind | kind <;>
      simp [AssessmentKind.Measured, kind] at measured

end Verdicts

namespace HardwareSmoke

open HardwareBridge in
theorem predicts_first_verdict (smoke : HardwareSmoke) (target : GpuTarget)
    (identified : smoke.target = .ok target) {line : CommandLine} {generatedSessionId : String}
    {startup : Startup} (real : line.forceSoftwareOnly = false)
    (started : line.run generatedSessionId smoke.currentW smoke.defaultW = .ok startup)
    (input : Iteration)
    (served : input.acquisition.result = .ok (acquireRaw ⟨some target⟩ false smoke.read)) :
    ∃ kind, lastKind (startup.run [input]).log = some kind ∧
      (smoke.runGpuHardwareSmoke = .ok () → smoke.read.observedAt ≤ input.acquisition.assessedAt →
        input.acquisition.assessedAt - smoke.read.observedAt <
          min (20 * line.stepIntervalMs) startup.policy.config.maxSampleAgeMs →
        kind.Measured) ∧
      (kind.Measured → line.stepIntervalMs ≤ 100 → input.acquisition.assessedAt = smoke.now →
        smoke.sampled target = .ok ()) := by
  obtain ⟨sameCli, interval, _⟩ := CommandLine.run_timing started
  have ticking := line.ticking
  have assessed : input.acquisition.assess startup.cli startup.initial.sampleClock =
      assessWithClock (acquireRaw ⟨some target⟩ false smoke.read) input.acquisition.assessedAt
        line.stepIntervalMs startup.initial.sampleClock := by
    simp [Acquisition.assess, Acquisition.acquireRawWithTimeout, sameCli, real, served]
  refine ⟨_, startup.first_verdict input, ?_, ?_⟩
  next =>
    intro passed past young
    obtain ⟨_, found, same, sampled, limited⟩ := runGpuHardwareSmoke_ok.mp passed
    obtain rfl := Except.ok.inj (identified.symm.trans same)
    obtain ⟨sensors, reached, range, _⟩ := sampled_ok.mp sampled
    have known : startup.policy.powerLimitsW ≠ none := by
      intro unavailable
      have unset := ((line.run_iff generatedSessionId _ _).2 startup started).mp unavailable
      have absent : smoke.defaultW = none := by simpa [real] using unset.2.2
      unfold HardwareSmoke.limited at limited
      rw [absent] at limited
      cases current : smoke.currentW <;> simp [current] at limited
    have bound := startup.policy.ordered.age.2
    simp only [safetyStaleAfterMs] at bound
    have raw : acquireRaw ⟨some target⟩ false smoke.read =
        HardwareBridge.sampled sensors smoke.read.observedAt := by
      simp [acquireRaw_sensors, reached]
    rw [assessed, raw]
    apply measured_of_inRange _ range past _ (by omega) (by omega) known
    simp only [u64Max]
    omega
  next =>
    intro measured paced instant
    rw [assessed] at measured
    obtain ⟨sensors, reached, range, past, fresh⟩ := inRange_of_measured _ measured
    rw [instant] at past fresh
    exact sampled_ok.mpr ⟨sensors, reached, range, past, by omega⟩

def passing : HardwareSmoke where
  list := .ok (.ok ())
  target := .ok HardwareBridge.testTarget
  read := HardwareBridge.workload 200000
  now := 1700000000000
  clock := .withSessionId "smoke"
  currentW := some 300
  defaultW := some 300

theorem predicts_first_verdict_passing :
    ∃ startup : Startup, CommandLine.run {} "test" (some 300) (some 300) = .ok startup ∧
      ∃ kind, lastKind (startup.run [.reading
        { result := .ok (HardwareBridge.acquireRaw ⟨some HardwareBridge.testTarget⟩ false
            (HardwareBridge.workload 200000))
          readAt := 1700000000000
          assessedAt := 1700000000050 }]).log = some kind ∧ kind.Measured := by
  obtain ⟨startup, started⟩ := CommandLine.started_default
  obtain ⟨_, _, age⟩ := CommandLine.run_timing started
  let sensors : GpuSensors := ⟨some 60, some 200000, none, none, none, none⟩
  have range : sensors.InRange := ⟨⟨60, rfl, by decide⟩, 200000, rfl, by decide⟩
  have sampled : passing.sampled HardwareBridge.testTarget = .ok () :=
    sampled_ok.mpr ⟨sensors, rfl, range, by decide, by decide⟩
  have passed : passing.runGpuHardwareSmoke = .ok () :=
    runGpuHardwareSmoke_ok.mpr ⟨rfl, HardwareBridge.testTarget, rfl, sampled, rfl⟩
  obtain ⟨kind, last, predicted, _⟩ := passing.predicts_first_verdict HardwareBridge.testTarget rfl
    rfl started (.reading
      { result := .ok (HardwareBridge.acquireRaw ⟨some HardwareBridge.testTarget⟩ false
          (HardwareBridge.workload 200000))
        readAt := 1700000000000
        assessedAt := 1700000000050 }) rfl
  refine ⟨startup, started, kind, last, predicted passed (by decide) ?_⟩
  have age : 10 * 100 ≤ startup.policy.config.maxSampleAgeMs := age
  have elapsed : 1700000000050 - passing.read.observedAt = 50 := rfl
  simp only [Iteration.reading, elapsed]
  omega

end HardwareSmoke

end ThalamicRelay
