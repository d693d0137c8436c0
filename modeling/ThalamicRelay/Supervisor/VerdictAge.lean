import ThalamicRelay.Supervisor.Launch
import ThalamicRelay.Supervisor.Response

set_option autoImplicit false

namespace ThalamicRelay

def lastJudgedAt : List Event → Option Nat
  | [] => none
  | .offered frame :: .evaluated _ _ :: _ => some frame.acquiredAt
  | _ :: older => lastJudgedAt older

-- Between iterations the frame of every evaluation has been offered.
def Unoffered (log : List Event) : Prop :=
  ∃ kind snap older, log = .evaluated kind snap :: older

theorem lastJudgedAt_offered (frame : TelemetryFrame) {log : List Event}
    (settled : ¬ Unoffered log) : lastJudgedAt (.offered frame :: log) = lastJudgedAt log := by
  cases log with
  | nil => rfl
  | cons event older =>
    cases event with
    | evaluated kind snap => exact absurd ⟨kind, snap, older, rfl⟩ settled
    | seeded | recorded | offered | spawned => simp [lastJudgedAt]

namespace Supervisor

structure Judging (start : Nat) (before after : Supervisor) (judged : Bool) : Prop where
  settled : ¬ Unoffered after.log
  stepCount : after.stepCount = before.stepCount
  fresh : judged = true → ∃ instant, lastJudgedAt after.log = some instant ∧ start ≤ instant
  kept : judged = false → lastJudgedAt after.log = lastJudgedAt before.log

variable {start : Nat}

theorem Judging.same {before s after : Supervisor} {judged : Bool}
    (judging : Judging start before s judged) (log : after.log = s.log)
    (count : after.stepCount = s.stepCount) : Judging start before after judged where
  settled := log ▸ judging.settled
  stepCount := count.trans judging.stepCount
  fresh := log ▸ judging.fresh
  kept := log ▸ judging.kept

theorem dispatch_judging {before s : Supervisor} {judged : Bool}
    (judging : Judging start before s judged) (gateFree due : Bool) :
    Judging start before (s.dispatch gateFree due) judged := by
  have log : (s.dispatch gateFree due).log = s.log ∨
      ∃ snap, (s.dispatch gateFree due).log = .spawned snap :: s.log := by
    simp only [dispatch]
    split
    next => exact .inr ⟨_, rfl⟩
    next => exact .inl rfl
  rcases log with same | ⟨snap, spawned⟩
  next => exact judging.same same (dispatch_stepCount s gateFree due)
  next =>
    constructor
    case settled => simp [spawned, Unoffered]
    case stepCount => simpa using judging.stepCount
    case fresh => simpa [spawned, lastJudgedAt] using judging.fresh
    case kept => simpa [spawned, lastJudgedAt] using judging.kept

theorem evaluate_judging (cli : Cli) {before s : Supervisor}
    (count : s.stepCount = before.stepCount) {acquisition : Acquisition} (clock : SampleClock)
    (recent : start ≤ acquisition.assessedAt) :
    Judging start before (s.evaluateThenTryPublish (acquisition.assess cli clock).1).2 true where
  settled := by simp [evaluateThenTryPublish, note, Unoffered]
  stepCount := count
  fresh := fun _ => ⟨acquisition.assessedAt, rfl, recent⟩
  kept := by simp

theorem recordActuator_judging {before s : Supervisor} {judged : Bool}
    (judging : Judging start before s judged) (outcome : ActuatorOutcome) :
    Judging start before (s.recordActuator outcome) judged where
  settled := by simp [recordActuator, note, storeSafety, Unoffered]
  stepCount := judging.stepCount
  fresh := by simpa [recordActuator, note, storeSafety, lastJudgedAt] using judging.fresh
  kept := by simpa [recordActuator, note, storeSafety, lastJudgedAt] using judging.kept

theorem reassess_judging (cli : Cli) {before s : Supervisor}
    (count : s.stepCount = before.stepCount) (outcome : ActuatorOutcome) {acquisition : Acquisition}
    (recent : start ≤ acquisition.assessedAt) :
    Judging start before (s.reassessAfterActuation cli outcome acquisition) true :=
  (evaluate_judging cli (s := (s.recordActuator outcome).acquire cli acquisition |>.2) count
    s.sampleClock recent).same rfl rfl

theorem completeActuation_judging (cli : Cli) {before s : Supervisor} {flags : TickFlags}
    (slot : Slot)
    (judging : Judging start before s flags.evaluatedThisIter) (finished : Option TaskResult)
    {reassessment : Acquisition} (recent : start ≤ reassessment.assessedAt) :
    Judging start before
      (completeActuation cli slot slot.succeeded slot.failed s flags finished reassessment).1
      (completeActuation cli slot slot.succeeded slot.failed s flags finished
        reassessment).2.evaluatedThisIter := by
  have completion := completeActuation_completion cli slot s flags finished reassessment
  generalize completeActuation cli slot slot.succeeded slot.failed s flags finished reassessment =
    done at completion ⊢
  cases completion with
  | nothing => exact judging
  | succeeded occupied =>
    exact reassess_judging cli (s := s.emptied slot) judging.stepCount _ recent
  | failed error occupied =>
    have taken : Judging start before (s.emptied slot) flags.evaluatedThisIter :=
      judging.same rfl rfl
    exact recordActuator_judging taken _

theorem evaluateTick_judging (cli : Cli) {before s : Supervisor} {flags : TickFlags}
    (judging : Judging start before s flags.evaluatedThisIter) {acquisition : Acquisition}
    (clock : SampleClock) (recent : start ≤ acquisition.assessedAt) :
    let telemetry := (acquisition.assess cli clock).1
    Judging start before (s.evaluateTick flags telemetry).1
      (flags.evaluatedThisIter || shouldEvaluateTick s.stepCount telemetry.source) := by
  intro telemetry
  simp only [evaluateTick]
  cases judged : flags.evaluatedThisIter with
  | true =>
    rw [judged] at judging
    simpa using judging
  | false =>
    rw [judged] at judging
    cases due : shouldEvaluateTick s.stepCount telemetry.source with
    | true =>
      simp only [Bool.false_eq_true, if_false, if_true, Bool.false_or]
      exact (evaluate_judging cli judging.stepCount clock recent).same rfl rfl
    | false =>
      simp only [Bool.false_eq_true, if_false, Bool.false_or]
      constructor
      case settled => simp [note, Unoffered]
      case stepCount => exact judging.stepCount
      case fresh => simp
      case kept =>
        intro skipped
        exact (lastJudgedAt_offered telemetry judging.settled).trans (judging.kept skipped)

end Supervisor

namespace Iteration

/-- The environment's order inside an iteration: reassessments come after the frame's read. -/
def Ordered (input : Iteration) : Prop :=
  ∀ slot, input.acquisition.assessedAt ≤ (input.reassessment slot).assessedAt

def Within (period : Nat) (first second : Iteration) : Prop :=
  second.acquisition.assessedAt ≤ first.acquisition.assessedAt + period

instance (period : Nat) (first second : Iteration) : Decidable (Within period first second) :=
  inferInstanceAs (Decidable (_ ≤ _))

end Iteration

namespace Supervisor

theorem iterate_judging (cli : Cli) {s : Supervisor} (settled : ¬ Unoffered s.log)
    {input : Iteration} (ordered : input.Ordered) :
    ∃ judged, Judging input.acquisition.assessedAt { s with stepCount := s.stepCount + 1 }
        (s.iterate cli input) judged ∧
      (judged = false → s.stepCount ≠ 0 ∧ (s.stepCount + 1) % 10 ≠ 0) := by
  let counted : Supervisor := { s with stepCount := s.stepCount + 1 }
  have start : Judging input.acquisition.assessedAt counted counted false := by
    constructor
    case settled => exact settled
    case stepCount => rfl
    case fresh => simp
    case kept => exact fun _ => rfl
  have begun :
      Judging input.acquisition.assessedAt counted (s.begin input.retryGateFree) false := by
    simp only [begin, retryPending]
    split
    next => exact dispatch_judging start _ _
    next => exact start
  have ready : Judging input.acquisition.assessedAt counted (s.ready cli input)
      TickFlags.clear.evaluatedThisIter := begun.same rfl rfl
  have braked := completeActuation_judging cli .brake ready input.brakeFinished
    (ordered .brake)
  have released := completeActuation_judging cli .release braked input.releaseFinished
    (ordered .release)
  have judged := evaluateTick_judging cli released (s.begin input.retryGateFree).sampleClock le_rfl
  refine ⟨_, (dispatch_judging judged _ _).same rfl rfl, ?_⟩
  intro skipped
  have count := released.stepCount
  simp only [Bool.or_eq_false_iff, shouldEvaluateTick, count, decide_eq_false_iff_not, not_or]
    at skipped
  exact ⟨fun first => skipped.2.1 (by simp [counted, first]), skipped.2.2.1⟩

structure Standing (period now : Nat) (s : Supervisor) : Prop where
  settled : ¬ Unoffered s.log
  young : ∃ instant, lastJudgedAt s.log = some instant ∧ now ≤ instant + s.stepCount % 10 * period

theorem standing_iterate (cli : Cli) {s : Supervisor} {period : Nat} (settled : ¬ Unoffered s.log)
    {input : Iteration} (ordered : input.Ordered)
    (paced : s.stepCount = 0 ∨
      ∃ now, Standing period now s ∧ input.acquisition.assessedAt ≤ now + period) :
    Standing period input.acquisition.assessedAt (s.iterate cli input) := by
  obtain ⟨judged, judging, skipped⟩ := iterate_judging cli settled ordered
  refine ⟨judging.settled, ?_⟩
  cases judged with
  | true =>
    obtain ⟨instant, latest, recent⟩ := judging.fresh rfl
    exact ⟨instant, latest, le_add_right recent⟩
  | false =>
    obtain ⟨later, between⟩ := skipped rfl
    obtain ⟨now, standing, within⟩ := paced.resolve_left later
    obtain ⟨instant, latest, recent⟩ := standing.young
    have next : (s.stepCount + 1) % 10 = s.stepCount % 10 + 1 := by omega
    refine ⟨instant, (judging.kept rfl).trans latest, ?_⟩
    rw [judging.stepCount, next, Nat.add_mul, Nat.one_mul]
    omega

end Supervisor

namespace Startup

theorem initial_unjudged (startup : Startup) :
    ¬ Unoffered startup.initial.log ∧ startup.initial.stepCount = 0 := by
  simp only [initial, Supervisor.seedStartupBrake]
  split
  next => exact ⟨by simp [Supervisor.storeSafety, Supervisor.note, Unoffered], rfl⟩
  all_goals exact ⟨by simp [Supervisor.fresh, Unoffered], rfl⟩

theorem standing_run (startup : Startup) {period : Nat} (earlier : List Iteration)
    (last : Iteration) (ordered : ∀ input ∈ earlier ++ [last], input.Ordered)
    (paced : (earlier ++ [last]).IsChain (Iteration.Within period)) :
    (startup.run (earlier ++ [last])).Standing period last.acquisition.assessedAt := by
  rw [run_snoc]
  induction earlier using List.reverseRecOn generalizing last with
  | nil =>
    obtain ⟨settled, zero⟩ := startup.initial_unjudged
    exact Supervisor.standing_iterate _ settled (ordered last (by simp)) (.inl zero)
  | append_singleton older previous ih =>
    rw [List.isChain_append] at paced
    obtain ⟨before, _, within⟩ := paced
    have standing := ih previous
      (fun input member => ordered input (List.mem_append_left _ member)) before
    rw [← run_snoc] at standing
    refine Supervisor.standing_iterate _ standing.settled (ordered last (by simp)) (.inr ?_)
    exact ⟨_, standing, within previous (by simp) last (by simp)⟩

end Startup

namespace CommandLine

variable {line : CommandLine} {generatedSessionId : String} {currentW defaultW : Option UInt32}
  {startup : Startup}

theorem run_timing (started : line.run generatedSessionId currentW defaultW = .ok startup) :
    startup.cli = line.toCli ∧
      line.stepIntervalMs ≤ startup.policy.config.maxAcquisitionIntervalMs ∧
      10 * line.stepIntervalMs ≤ startup.policy.config.maxSampleAgeMs := by
  obtain ⟨config, policy, prepared, resolved, rfl⟩ := run_ok.mp started
  obtain ⟨_, _, _, interval, age⟩ := prepare_ok prepared
  rw [← (SafetyPolicyConfig.resolve_ok resolved).1] at interval age
  exact ⟨rfl, interval, age⟩

theorem verdict_young (started : line.run generatedSessionId currentW defaultW = .ok startup)
    (period : Nat) (slack : 9 * period < 10 * line.stepIntervalMs) (earlier : List Iteration)
    (last : Iteration) (ordered : ∀ input ∈ earlier ++ [last], input.Ordered)
    (paced : (earlier ++ [last]).IsChain (Iteration.Within period)) :
    ∃ judged, lastJudgedAt (startup.run (earlier ++ [last])).log = some judged ∧
      last.acquisition.assessedAt - judged < startup.policy.config.maxSampleAgeMs := by
  obtain ⟨_, _, age⟩ := run_timing started
  obtain ⟨judged, latest, young⟩ := (startup.standing_run earlier last ordered paced).young
  refine ⟨judged, latest, ?_⟩
  have few : (startup.run (earlier ++ [last])).stepCount % 10 ≤ 9 := by omega
  have bound := Nat.mul_le_mul_right period few
  omega

def overrunning (count : Nat) : List Iteration :=
  (List.range count).map fun index =>
    .reading { Acquisition.nvml (.finite 65) (.finite 200) with
      assessedAt := 1700000000000 + 110 * index }

theorem verdict_young_default :
    ∃ startup : Startup, CommandLine.run {} "test" (some 300) (some 300) = .ok startup ∧
      ∃ judged, lastJudgedAt (startup.run (overrunning 26)).log = some judged ∧
        1700000000000 + 110 * 25 - judged < startup.policy.config.maxSampleAgeMs := by
  obtain ⟨startup, started⟩ := started_default
  have paced : (overrunning 26).IsChain (Iteration.Within 110) := by decide +kernel
  have ordered : ∀ input ∈ overrunning 26, input.Ordered := by
    intro input member slot
    obtain ⟨index, _, rfl⟩ := List.mem_map.mp member
    cases slot <;> exact le_rfl
  exact ⟨startup, started, verdict_young started 110 (by decide) (overrunning 25) _ ordered paced⟩

end CommandLine

end ThalamicRelay
