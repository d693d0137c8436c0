import ThalamicRelay.Supervisor.Iteration

set_option autoImplicit false

namespace ThalamicRelay

open Saturating Transition

def Acquisition.kind (acquisition : Acquisition) (cli : Cli) (policy : SafetyPolicy) :
    AssessmentKind :=
  (classifyFrameWithPolicy (acquisition.assess cli (.withSessionId "")).1 policy).kind

theorem Acquisition.kind_assess {m : SafetyMachine} {policy : SafetyPolicy}
    (same : m.policy = policy) (cli : Cli) (acquisition : Acquisition) (clock : SampleClock) :
    m.kindOf (acquisition.assess cli clock).1 = acquisition.kind cli policy := by
  rw [← same]
  rfl

namespace RelayCore

theorem step_log (c : RelayCore) (label : CoreStep) : c.log <:+ (c.step label).log := by
  cases label with
  | offered frame => exact List.suffix_cons _ _
  | evaluated frame => exact ⟨[_, _], rfl⟩
  | succeeded slot frame =>
    simp only [step]
    split
    next => exact ⟨[_, _, _], rfl⟩
    next => exact List.suffix_rfl
  | failed slot error =>
    simp only [step]
    split
    next => exact List.suffix_cons _ _
    next => exact List.suffix_rfl
  | dispatched gateFree due =>
    simp only [step, dispatch]
    split
    next => exact List.suffix_cons _ _
    next => exact List.suffix_rfl

theorem Steps.log {policy : SafetyPolicy} {before after : RelayCore}
    (steps : Steps policy before after) : before.log <:+ after.log := by
  obtain ⟨labels, run⟩ := steps
  refine run.invariant (fun c => before.log <:+ c.log) ?_ List.suffix_rfl
  rintro middle label last earlier rfl
  exact earlier.trans (step_log middle label)

end RelayCore

namespace SafetyMachine

variable {m : SafetyMachine} {frame : TelemetryFrame}

theorem evaluate_hazard (hazard : (m.kindOf frame).failsClosed = true)
    (unclaimed : m.brakeEngaged = false) :
    (m.evaluate frame).1.intent = .apply ∧ (m.evaluate frame).2.snapshot.intent = .apply := by
  have demanded (justReleased : Bool) : m.demand (m.kindOf frame) justReleased = true := by
    cases kind : m.kindOf frame <;> simp_all [demand, AssessmentKind.failsClosed]
  rw [evaluate_intent, snapshot_intent, evaluate_desiredFromLastPolicy, evaluate_brakeEngaged,
    demanded, demanded, unclaimed]
  exact ⟨rfl, rfl⟩

theorem evaluate_recovered (good : m.kindOf frame = .ok) (claimed : m.brakeEngaged = true)
    (streak : m.policy.config.releaseOkStreak ≤ (m.evaluate frame).2.okCount) :
    (m.evaluate frame).1.intent = .release ∧
      (m.evaluate frame).2.snapshot.intent = .release := by
  rw [evaluate_okCount, good] at streak
  have undemanded (justReleased : Bool) : m.demand .ok justReleased = false := by
    simp [demand, streak]
  rw [evaluate_intent, snapshot_intent, evaluate_desiredFromLastPolicy, evaluate_brakeEngaged,
    good, undemanded, undemanded, claimed]
  exact ⟨rfl, rfl⟩

end SafetyMachine

namespace Supervisor

variable {cli : Cli} {s : Supervisor} {target : BrakeIntent} {input : Iteration}

def Spawns (cli : Cli) (target : BrakeIntent) (s : Supervisor) (input : Iteration) : Prop :=
  ∃ newer, (s.iterate cli input).log = newer ++ s.log ∧
    ∃ snap, .spawned snap ∈ newer ∧ snap.intent = target

structure Waiting (target : BrakeIntent) (s : Supervisor) : Prop where
  slots : s.attempt.slots.isEmpty = true
  claim : s.machine.brakeEngaged = decide (target = .release)

structure Armed (target : BrakeIntent) (s : Supervisor) : Prop extends Waiting target s where
  pending : s.attempt.pending = some target
  wanted : s.machine.snapshot.intent = target

theorem Waiting.intent (waiting : Waiting target s) (actuates : target ≠ .none)
    (wanted : s.machine.snapshot.intent ≠ .none) : s.machine.snapshot.intent = target := by
  have claim := waiting.claim
  rw [SafetyMachine.snapshot_intent] at wanted ⊢
  rw [claim] at wanted ⊢
  cases target with
  | none => exact absurd rfl actuates
  | apply | release =>
    cases desired : s.machine.desiredFromLastPolicy <;> simp_all [SafetySnapshot.intentFrom]

-- With both slots empty a dispatch that asks can be refused by the gate only.
theorem dispatch_waiting (gateFree due : Bool) (empty : s.attempt.slots.isEmpty = true) :
    ((s.dispatch gateFree due).log = .spawned s.machine.snapshot :: s.log ∧
      s.machine.snapshot.intent ≠ .none) ∨
    ((s.dispatch gateFree due).log = s.log ∧
      (s.dispatch gateFree due).attempt.slots = s.attempt.slots ∧
      (due = true ∨ s.attempt.pending = some s.machine.snapshot.intent →
        s.machine.snapshot.intent ≠ .none →
        (s.dispatch gateFree due).attempt.pending = some s.machine.snapshot.intent ∧
          gateFree = false)) := by
  by_cases asked : due = true ∨ s.attempt.pending = some s.machine.snapshot.intent
  next =>
    simp only [dispatch, dispatch_attempted _ _ asked]
    rcases spawnIntent_cases s.machine.snapshot (tryEnter gateFree) s.attempt.slots with
      ⟨_, occupied⟩ | ⟨_, ⟨same, none⟩ | ⟨same, _, busy⟩ | ⟨_, _, ⟨apply, same⟩ | ⟨release, same⟩⟩⟩
    next => simp [empty] at occupied
    next =>
      right
      simp only [same]
      exact ⟨rfl, rfl, fun _ wanted => absurd none wanted⟩
    next =>
      right
      have refused : gateFree = false := by
        cases gateFree with
        | false => rfl
        | true => simp [tryEnter] at busy
      simp only [same]
      exact ⟨rfl, rfl, fun _ _ => ⟨rfl, refused⟩⟩
    next =>
      left
      simp only [same]
      exact ⟨rfl, by simp [apply]⟩
    next =>
      left
      simp only [same]
      exact ⟨rfl, by simp [release]⟩
  next =>
    right
    rw [not_or, Bool.not_eq_true] at asked
    simp only [dispatch, dispatch_idle s.machine.snapshot (tryEnter gateFree) asked]
    refine ⟨rfl, rfl, fun again => ?_⟩
    simp [asked] at again

-- Only the first of the two dispatches of an iteration can act before the frame is judged.
theorem begin_waiting (waiting : Waiting target s) (actuates : target ≠ .none) (gateFree : Bool) :
    (∃ snap, (s.begin gateFree).log = .spawned snap :: s.log ∧ snap.intent = target) ∨
    ((s.begin gateFree).log = s.log ∧ (s.begin gateFree).attempt.slots = s.attempt.slots ∧
      (Armed target s → (s.begin gateFree).attempt.pending = some target ∧
        (target = .apply → gateFree = false))) := by
  simp only [begin, retryPending]
  let counted : Supervisor := { s with stepCount := s.stepCount + 1 }
  by_cases asked : s.attempt.pending = some .apply
  next =>
    rw [if_pos asked]
    rcases dispatch_waiting (s := counted) gateFree false waiting.slots with
      ⟨spawned, wanted⟩ | ⟨log, slots, refused⟩
    next => exact .inl ⟨_, spawned, waiting.intent actuates wanted⟩
    next =>
      refine .inr ⟨log, slots, fun armed => ?_⟩
      have wanted : counted.machine.snapshot.intent = target := armed.wanted
      rw [wanted] at refused
      obtain ⟨pending, busy⟩ := refused (.inr armed.pending) actuates
      exact ⟨pending, fun _ => busy⟩
  next =>
    rw [if_neg asked]
    refine .inr ⟨rfl, rfl, fun armed => ⟨armed.pending, fun apply => ?_⟩⟩
    exact absurd (armed.pending.trans (congrArg some apply)) asked

theorem begun_steps {policy : SafetyPolicy} (cli : Cli) (s : Supervisor) (input : Iteration) :
    RelayCore.Steps policy (s.begin input.retryGateFree).core (s.iterate cli input).core := by
  let braked := (s.ready cli input).completeBrake cli .clear input
  let released := braked.1.completeRelease cli braked.2 input
  let judged := released.1.evaluateTick released.2 (s.telemetry cli input)
  have first : RelayCore.Steps policy (s.begin input.retryGateFree).core braked.1.core := by
    rw [← acquire_core cli (s.begin input.retryGateFree) input.acquisition]
    exact completeActuation_steps .brake (s.ready cli input) _ _ _
  have second : RelayCore.Steps policy braked.1.core released.1.core :=
    completeActuation_steps .release braked.1 _ _ _
  have third : RelayCore.Steps policy released.1.core judged.1.core :=
    evaluateTick_steps released.1 _ _
  have fourth : RelayCore.Steps policy judged.1.core (s.iterate cli input).core := by
    rw [iterate, recordAcquired_core, dispatch_core]
    exact .one policy _ (.dispatched input.dispatchGateFree judged.2.dispatchDue)
  exact first.trans (second.trans (third.trans fourth))

@[simp] theorem dispatch_stepCount (s : Supervisor) (gateFree due : Bool) :
    (s.dispatch gateFree due).stepCount = s.stepCount := by
  simp only [dispatch]
  split <;> rfl

@[simp] theorem begin_stepCount (s : Supervisor) (gateFree : Bool) :
    (s.begin gateFree).stepCount = s.stepCount + 1 := by
  simp only [begin, retryPending]
  split
  next => exact dispatch_stepCount _ _ _
  next => rfl

theorem ready_stepCount (cli : Cli) (s : Supervisor) (input : Iteration) :
    (s.ready cli input).stepCount = s.stepCount + 1 :=
  begin_stepCount s input.retryGateFree

@[simp] theorem evaluateTick_stepCount (s : Supervisor) (flags : TickFlags)
    (telemetry : TelemetryFrame) : (s.evaluateTick flags telemetry).1.stepCount = s.stepCount := by
  simp only [evaluateTick]
  split
  next => rfl
  next => split <;> rfl

theorem completeActuation_stepCount (cli : Cli) (slot : Slot) (s : Supervisor) (flags : TickFlags)
    (finished : Option TaskResult) (reassessment : Acquisition) :
    (completeActuation cli slot slot.succeeded slot.failed s flags finished
      reassessment).1.stepCount = s.stepCount := by
  have completion := completeActuation_completion cli slot s flags finished reassessment
  generalize completeActuation cli slot slot.succeeded slot.failed s flags finished reassessment =
    done at completion ⊢
  cases completion <;> rfl

theorem completed_stepCount (cli : Cli) (s : Supervisor) (input : Iteration) :
    ((s.ready cli input).completeFinished cli input).1.stepCount = s.stepCount + 1 := by
  rw [← ready_stepCount cli s input,
    ← completeActuation_stepCount cli .brake (s.ready cli input) .clear input.brakeFinished
      input.brakeReassessment]
  exact completeActuation_stepCount cli .release _ _ _ _

theorem iterate_stepCount (cli : Cli) (s : Supervisor) (input : Iteration) :
    (s.iterate cli input).stepCount = s.stepCount + 1 := by
  rw [← completed_stepCount cli s input, iterate]
  exact (dispatch_stepCount _ _ _).trans (evaluateTick_stepCount _ _ _)

def evaluates (cli : Cli) (s : Supervisor) (input : Iteration) : Bool :=
  shouldEvaluateTick (s.stepCount + 1) (s.telemetry cli input).source

def judged (cli : Cli) (s : Supervisor) (input : Iteration) : SafetyMachine :=
  if s.evaluates cli input then (s.machine.evaluate (s.telemetry cli input)).2 else s.machine

def Due (cli : Cli) (s : Supervisor) (input : Iteration) : Prop :=
  s.evaluates cli input = true ∧
    shouldDispatchIntent (s.stepCount + 1) s.machine.snapshot.intent
      (s.machine.evaluate (s.telemetry cli input)).1.intent false = true

theorem evaluateTick_clear (cli : Cli) (s : Supervisor) (input : Iteration) :
    let tick := (s.ready cli input).evaluateTick .clear (s.telemetry cli input)
    tick.1.machine = s.judged cli input ∧ (tick.2.dispatchDue = true ↔ s.Due cli input) := by
  intro tick
  have machine := ready_machine cli s input
  have evaluated : s.evaluates cli input =
      shouldEvaluateTick (s.ready cli input).stepCount (s.telemetry cli input).source := by
    rw [ready_stepCount, evaluates]
  by_cases evaluates : s.evaluates cli input = true
  next =>
    have judges : shouldEvaluateTick (s.ready cli input).stepCount
        (s.telemetry cli input).source = true := by rw [← evaluated, evaluates]
    simp only [tick, evaluateTick, TickFlags.clear, judged, Due, if_pos judges, evaluates,
      Bool.false_eq_true, if_false, if_true, true_and]
    rw [← machine, ← ready_stepCount cli s input]
    exact ⟨rfl, Iff.rfl⟩
  next =>
    have skips : ¬ shouldEvaluateTick (s.ready cli input).stepCount
        (s.telemetry cli input).source = true := by rwa [← evaluated]
    simp only [tick, evaluateTick, TickFlags.clear, judged, Due, if_neg skips, Bool.false_eq_true,
      if_false, evaluates, false_and, iff_self, and_true]
    exact machine

theorem judged_brakeEngaged (cli : Cli) (s : Supervisor) (input : Iteration) :
    (s.judged cli input).brakeEngaged = s.machine.brakeEngaged := by
  simp only [judged]
  split
  next => exact SafetyMachine.evaluate_brakeEngaged _ _
  next => rfl

theorem judged_policy (cli : Cli) (s : Supervisor) (input : Iteration) :
    (s.judged cli input).policy = s.machine.policy := by
  simp only [judged]
  split
  next => exact SafetyMachine.evaluate_policy _ _
  next => rfl

theorem iterate_waiting (waiting : Waiting target s) (actuates : target ≠ .none)
    (cli : Cli) (input : Iteration) :
    Spawns cli target s input ∨
    (Waiting target (s.iterate cli input) ∧
      (s.iterate cli input).machine = s.judged cli input ∧
      (s.iterate cli input).stepCount = s.stepCount + 1 ∧
      (Armed target s → target = .apply → input.retryGateFree = false) ∧
      ((s.judged cli input).snapshot.intent = target → s.Due cli input ∨ Armed target s →
        Armed target (s.iterate cli input) ∧ input.dispatchGateFree = false)) := by
  have begun : RelayCore.Steps s.machine.policy _ _ := begun_steps cli s input
  have grown := begun.log
  rcases begin_waiting waiting actuates input.retryGateFree with
    ⟨snap, spawned, same⟩ | ⟨log, slots, kept⟩
  next =>
    obtain ⟨newer, split⟩ := grown
    have appended : newer ++ (s.begin input.retryGateFree).log = (s.iterate cli input).log := split
    rw [spawned] at appended
    refine .inl ⟨newer ++ [.spawned snap], by simp [← appended], snap, by simp, same⟩
  next =>
    have completed : (s.ready cli input).completeFinished cli input =
        (s.ready cli input, .clear) := by
      apply completeFinished_idle
      intro slot
      have empty : (s.ready cli input).attempt.slots.isEmpty = true := by
        rw [← waiting.slots, ← slots]
        rfl
      exact .inl (Slots.isEmpty_iff_get.mp empty slot)
    let tick := (s.ready cli input).evaluateTick .clear (s.telemetry cli input)
    obtain ⟨machine, due⟩ := evaluateTick_clear cli s input
    have reached : s.iterate cli input =
        (tick.1.dispatch input.dispatchGateFree tick.2.dispatchDue).recordAcquired
          (s.telemetry cli input) := by
      rw [iterate_eq, completed]
    have attempt : tick.1.attempt = (s.begin input.retryGateFree).attempt :=
      evaluateTick_attempt _ _ _
    have claim : (s.judged cli input).brakeEngaged = decide (target = .release) :=
      (judged_brakeEngaged cli s input).trans waiting.claim
    have quiet : Waiting target tick.1 :=
      ⟨by rw [attempt, slots]; exact waiting.slots, by rw [machine]; exact claim⟩
    have stepped : (s.iterate cli input).stepCount = s.stepCount + 1 := by
      rw [reached, recordAcquired, dispatch_stepCount, evaluateTick_stepCount, ready_stepCount]
    have after : (s.iterate cli input).machine = s.judged cli input := by
      rw [reached, recordAcquired, dispatch_machine, machine]
    rcases dispatch_waiting input.dispatchGateFree tick.2.dispatchDue quiet.slots with
      ⟨spawned, wanted⟩ | ⟨_, same, refused⟩
    next =>
      left
      have before : s.log <:+ tick.1.log := by
        rw [← log]
        have evaluated : RelayCore.Steps s.machine.policy (s.ready cli input).core tick.1.core :=
          evaluateTick_steps (s.ready cli input) .clear (s.telemetry cli input)
        exact evaluated.log
      obtain ⟨newer, split⟩ := before
      refine ⟨.spawned tick.1.machine.snapshot :: newer, ?_, _, by simp,
        quiet.intent actuates wanted⟩
      rw [reached, List.cons_append, split]
      exact spawned
    next =>
      right
      have waits : Waiting target (s.iterate cli input) := by
        refine ⟨?_, by rw [after]; exact claim⟩
        rw [reached, recordAcquired, same]
        exact quiet.slots
      refine ⟨waits, after, stepped, fun armed => (kept armed).2, fun wanted asked => ?_⟩
      rw [← machine] at wanted
      have asks : tick.2.dispatchDue = true ∨
          tick.1.attempt.pending = some tick.1.machine.snapshot.intent := by
        rw [wanted]
        refine asked.imp due.mpr (fun armed => ?_)
        rw [attempt]
        exact (kept armed).1
      rw [wanted] at refused asks
      obtain ⟨pending, busy⟩ := refused asks actuates
      refine ⟨⟨waits, ?_, by rw [after, ← machine]; exact wanted⟩, busy⟩
      rw [reached]
      exact pending

theorem cadence_evaluates (cli : Cli) {s : Supervisor} (input : Iteration)
    (cadence : (s.stepCount + 1) % 10 = 0) : s.evaluates cli input = true := by
  simp [evaluates, shouldEvaluateTick, cadence]

theorem cadence_due {cli : Cli} {s : Supervisor} {input : Iteration}
    (cadence : (s.stepCount + 1) % 10 = 0)
    (wanted : (s.machine.evaluate (s.telemetry cli input)).1.intent ≠ .none) :
    s.Due cli input := by
  refine ⟨cadence_evaluates cli input cadence, ?_⟩
  simp [shouldDispatchIntent, wanted, cadence]

theorem kindOf_telemetry {policy : SafetyPolicy} (same : s.machine.policy = policy) (cli : Cli)
    (input : Iteration) :
    s.machine.kindOf (s.telemetry cli input) = input.acquisition.kind cli policy :=
  Acquisition.kind_assess same cli input.acquisition _

structure Persuades (policy : SafetyPolicy) (target : BrakeIntent) (kinds : AssessmentKind → Prop)
    (needed : Nat) (progress : SafetyMachine → Nat) : Prop where
  actuates : target ≠ .none
  positive : 0 < needed
  counts : ∀ (m : SafetyMachine) (frame : TelemetryFrame), m.policy = policy →
    m.brakeEngaged = decide (target = .release) → kinds (m.kindOf frame) →
    min (progress m + 1) needed ≤ progress (m.evaluate frame).2
  decides : ∀ (m : SafetyMachine) (frame : TelemetryFrame), m.policy = policy →
    m.brakeEngaged = decide (target = .release) → kinds (m.kindOf frame) →
    needed ≤ progress (m.evaluate frame).2 →
    (m.evaluate frame).1.intent = target ∧ (m.evaluate frame).2.snapshot.intent = target

section Persuasion

variable {policy : SafetyPolicy} {kinds : AssessmentKind → Prop} {needed : Nat}
  {progress : SafetyMachine → Nat}

/-- A supervisor that has waited through some iterations from the step count first; the cadence
steps among them are counted, and after enough of them the target has been asked for. -/
structure Underway (policy : SafetyPolicy) (target : BrakeIntent) (needed : Nat)
    (progress : SafetyMachine → Nat) (first waited : Nat) (s : Supervisor) : Prop
    extends Waiting target s where
  policy : s.machine.policy = policy
  stepCount : s.stepCount = first + waited
  counted : min ((first + waited) / 10 - first / 10) needed ≤ progress s.machine
  asked : first / 10 + needed ≤ (first + waited) / 10 → Armed target s

theorem underway_iterate (persuades : Persuades policy target kinds needed progress)
    {first waited : Nat} (underway : Underway policy target needed progress first waited s)
    (good : kinds (input.acquisition.kind cli policy)) :
    Spawns cli target s input ∨
    (Underway policy target needed progress first (waited + 1) (s.iterate cli input) ∧
      (first / 10 + needed ≤ (first + waited + 1) / 10 → input.dispatchGateFree = false) ∧
      (first / 10 + needed ≤ (first + waited) / 10 → target = .apply →
        input.retryGateFree = false)) := by
  have kind : kinds (s.machine.kindOf (s.telemetry cli input)) := by
    rw [kindOf_telemetry underway.policy cli input]
    exact good
  have counts := persuades.counts s.machine (s.telemetry cli input) underway.policy
    underway.claim kind
  have decides := persuades.decides s.machine (s.telemetry cli input) underway.policy
    underway.claim kind
  have counted := underway.counted
  have count := underway.stepCount
  have positive := persuades.positive
  rcases iterate_waiting underway.toWaiting persuades.actuates cli input with
    spawns | ⟨waits, machine, stepped, retried, refused⟩
  next => exact .inl spawns
  next =>
    have judges : s.evaluates cli input = true →
        s.judged cli input = (s.machine.evaluate (s.telemetry cli input)).2 := by
      intro evaluates
      rw [judged, if_pos evaluates]
    have asks (late : first / 10 + needed ≤ (first + waited + 1) / 10) :
        (s.judged cli input).snapshot.intent = target ∧ (s.Due cli input ∨ Armed target s) := by
      by_cases cadence : (s.stepCount + 1) % 10 = 0
      next =>
        obtain ⟨now, later⟩ := decides (by omega)
        refine ⟨?_, .inl (cadence_due cadence (by rw [now]; exact persuades.actuates))⟩
        rw [judges (cadence_evaluates cli input cadence)]
        exact later
      next =>
        have armed := underway.asked (by omega)
        refine ⟨?_, .inr armed⟩
        by_cases evaluates : s.evaluates cli input = true
        next =>
          rw [judges evaluates]
          exact (decides (by omega)).2
        next =>
          rw [judged, if_neg evaluates]
          exact armed.wanted
    refine .inr ⟨⟨waits, ?_, by omega, ?_, ?_⟩, ?_, ?_⟩
    next => rw [machine, judged_policy, underway.policy]
    next =>
      rw [machine]
      by_cases evaluates : s.evaluates cli input = true
      next =>
        rw [judges evaluates]
        omega
      next =>
        have between : (s.stepCount + 1) % 10 ≠ 0 := fun cadence =>
          evaluates (cadence_evaluates cli input cadence)
        rw [judged, if_neg evaluates]
        omega
    next =>
      intro late
      obtain ⟨wanted, asked⟩ := asks late
      exact (refused wanted asked).1
    next =>
      intro late
      obtain ⟨wanted, asked⟩ := asks late
      exact (refused wanted asked).2
    next =>
      intro late
      exact retried (underway.asked late)

theorem persuaded_spawns (persuades : Persuades policy target kinds needed progress)
    (samePolicy : s.machine.policy = policy) (waiting : Waiting target s) {window : List Iteration}
    (enough : 10 * needed ≤ window.length)
    (good : ∀ input ∈ window, kinds (input.acquisition.kind cli policy))
    (gate : (∀ input ∈ window.take (10 * needed), input.dispatchGateFree = true) ∨
      ∃ input ∈ window.drop (10 * needed), input.dispatchGateFree = true ∨
        (target = .apply ∧ input.retryGateFree = true)) :
    System.SomeStep (iterate cli) (Spawns cli target) s window := by
  have positive := persuades.positive
  have initially : Underway policy target needed progress s.stepCount 0 s :=
    ⟨waiting, samePolicy, rfl, by omega, fun late => by omega⟩
  rw [← List.take_append_drop (10 * needed) window, System.someStep_append]
  have taken : (window.take (10 * needed)).length = 10 * needed := by simpa using enough
  have late : s.stepCount / 10 + needed ≤ (s.stepCount + 10 * needed) / 10 := by omega
  rcases gate with free | opened
  next =>
    have early (input : Iteration) (member : input ∈ window.take (10 * needed)) :
        kinds (input.acquisition.kind cli policy) ∧ input.dispatchGateFree = true :=
      ⟨good input (List.mem_of_mem_take member), free input member⟩
    have each (waited : Nat) (now : Supervisor) (input : Iteration)
        (waits : Underway policy target needed progress s.stepCount waited now ∧
          ¬ s.stepCount / 10 + needed ≤ (s.stepCount + waited) / 10)
        (allowed : kinds (input.acquisition.kind cli policy) ∧ input.dispatchGateFree = true) :
        Spawns cli target now input ∨
          (Underway policy target needed progress s.stepCount (waited + 1)
            (now.iterate cli input) ∧
          ¬ s.stepCount / 10 + needed ≤ (s.stepCount + (waited + 1)) / 10) := by
      rcases underway_iterate persuades waits.1 allowed.1 with spawns | ⟨still, refused, _⟩
      next => exact .inl spawns
      next =>
        refine .inr ⟨still, fun reached => ?_⟩
        rw [refused reached] at allowed
        exact absurd allowed.2 (by decide)
    rcases System.served_or_waits _ each ⟨initially, by omega⟩ early with served | ⟨_, unreached⟩
    next => exact .inl served
    next =>
      rw [taken, Nat.zero_add] at unreached
      exact absurd late unreached
  next =>
    have each (waited : Nat) (now : Supervisor) (input : Iteration)
        (underway : Underway policy target needed progress s.stepCount waited now)
        (allowed : kinds (input.acquisition.kind cli policy)) :
        Spawns cli target now input ∨
          Underway policy target needed progress s.stepCount (waited + 1)
            (now.iterate cli input) := by
      rcases underway_iterate persuades underway allowed with spawns | ⟨still, _⟩
      next => exact .inl spawns
      next => exact .inr still
    have opening (waited : Nat) (now : Supervisor) (input : Iteration)
        (waits : Underway policy target needed progress s.stepCount waited now ∧
          s.stepCount / 10 + needed ≤ (s.stepCount + waited) / 10)
        (allowed : kinds (input.acquisition.kind cli policy)) :
        Spawns cli target now input ∨
          ((Underway policy target needed progress s.stepCount (waited + 1)
            (now.iterate cli input) ∧
          s.stepCount / 10 + needed ≤ (s.stepCount + (waited + 1)) / 10) ∧
          ¬ (input.dispatchGateFree = true ∨
            (target = .apply ∧ input.retryGateFree = true))) := by
      have reached := waits.2
      rcases underway_iterate persuades waits.1 allowed with spawns | ⟨still, refused, retried⟩
      next => exact .inl spawns
      next =>
        refine .inr ⟨⟨still, by omega⟩, ?_⟩
        rintro (free | ⟨apply, free⟩)
        next =>
          rw [refused (by omega)] at free
          exact absurd free (by decide)
        next =>
          rw [retried reached apply] at free
          exact absurd free (by decide)
    have before (input : Iteration) (member : input ∈ window.take (10 * needed)) :
        kinds (input.acquisition.kind cli policy) := good input (List.mem_of_mem_take member)
    have after (input : Iteration) (member : input ∈ window.drop (10 * needed)) :
        kinds (input.acquisition.kind cli policy) := good input (List.mem_of_mem_drop member)
    rcases System.served_or_waits _ each initially before with served | waits
    next => exact .inl served
    next =>
      rw [taken, Nat.zero_add] at waits
      exact .inr (System.served_at _ opening ⟨waits, late⟩ after opened)

end Persuasion

theorem hazard_persuades (policy : SafetyPolicy) :
    Persuades policy .apply (fun kind => kind.failsClosed = true) 1
      (fun m => if m.snapshot.intent = .apply then 1 else 0) where
  actuates := by decide
  positive := by decide
  counts := by
    intro m frame _ unclaimed hazard
    have applies := (SafetyMachine.evaluate_hazard hazard unclaimed).2
    simp [applies]
  decides := by
    intro m frame _ unclaimed hazard _
    exact SafetyMachine.evaluate_hazard hazard unclaimed

theorem recovery_persuades {policy : SafetyPolicy}
    (u32 : policy.config.releaseOkStreak ≤ u32Max) :
    Persuades policy .release (fun kind => kind = .ok) policy.config.releaseOkStreak
      SafetyMachine.okCount where
  actuates := by decide
  positive := policy.ordered.streak
  counts := by
    intro m frame _ claimed good
    have claimed : m.brakeEngaged = true := claimed
    rw [SafetyMachine.evaluate_okCount, good]
    simp only [SafetyMachine.nextOkCount, claimed, and_self, if_true, increment]
    omega
  decides := by
    intro m frame same claimed good enough
    have claimed : m.brakeEngaged = true := claimed
    rw [← same] at enough
    exact SafetyMachine.evaluate_recovered good claimed enough

end Supervisor

namespace Startup

theorem hazard_answered (startup : Startup) (earlier window : List Iteration)
    (idle : (startup.run earlier).attempt.slots.isEmpty = true)
    (unclaimed : (startup.run earlier).machine.brakeEngaged = false)
    (enough : 10 ≤ window.length)
    (hazard : ∀ input ∈ window,
      (input.acquisition.kind startup.cli startup.policy).failsClosed = true)
    (gate : (∀ input ∈ window.take 10, input.dispatchGateFree = true) ∨
      ∃ input ∈ window.drop 10, input.dispatchGateFree = true ∨ input.retryGateFree = true) :
    System.SomeStep (Supervisor.iterate startup.cli) (Supervisor.Spawns startup.cli .apply)
      (startup.run earlier) window := by
  have same := (startup.inv earlier).samePolicy
  refine Supervisor.persuaded_spawns (Supervisor.hazard_persuades startup.policy) same
    ⟨idle, unclaimed⟩ enough hazard ?_
  simpa using gate

theorem recovery_answered (startup : Startup)
    (u32 : startup.policy.config.releaseOkStreak ≤ u32Max) (earlier window : List Iteration)
    (idle : (startup.run earlier).attempt.slots.isEmpty = true)
    (claimed : (startup.run earlier).machine.brakeEngaged = true)
    (enough : 10 * startup.policy.config.releaseOkStreak ≤ window.length)
    (healthy : ∀ input ∈ window, input.acquisition.kind startup.cli startup.policy = .ok)
    (gate : (∀ input ∈ window.take (10 * startup.policy.config.releaseOkStreak),
        input.dispatchGateFree = true) ∨
      ∃ input ∈ window.drop (10 * startup.policy.config.releaseOkStreak),
        input.dispatchGateFree = true) :
    System.SomeStep (Supervisor.iterate startup.cli) (Supervisor.Spawns startup.cli .release)
      (startup.run earlier) window := by
  have same := (startup.inv earlier).samePolicy
  refine Supervisor.persuaded_spawns (Supervisor.recovery_persuades u32) same
    ⟨idle, claimed⟩ enough healthy ?_
  simpa using gate

theorem hazard_answered_hot :
    let startup := { leftover .testPolicy with currentW := some 400 }
    let window := List.replicate 10 (Iteration.reading (.nvml (.finite 90) (.finite 200)))
    System.SomeStep (Supervisor.iterate startup.cli) (Supervisor.Spawns startup.cli .apply)
      startup.initial window := by
  intro startup window
  have hot : (Acquisition.nvml (.finite 90) (.finite 200)).kind startup.cli startup.policy =
      .critical := by decide +kernel
  refine hazard_answered startup [] window (by decide +kernel) (by decide +kernel) (by decide) ?_
    (.inl ?_)
  next =>
    intro input member
    rw [List.eq_of_mem_replicate member]
    exact congrArg AssessmentKind.failsClosed hot
  next =>
    intro input member
    rw [List.eq_of_mem_replicate (List.mem_of_mem_take member)]
    rfl

theorem recovery_answered_leftover :
    let startup := leftover .testPolicy
    System.SomeStep (Supervisor.iterate startup.cli) (Supervisor.Spawns startup.cli .release)
      startup.initial (List.replicate 30 Iteration.cool) := by
  intro startup
  have cool : (Acquisition.nvml (.finite 65) (.finite 200)).kind startup.cli startup.policy =
      .ok := by decide +kernel
  refine recovery_answered startup (by decide) [] _ (by decide +kernel) (by decide +kernel)
    (by decide) ?_ (.inl ?_)
  next =>
    intro input member
    rw [List.eq_of_mem_replicate member]
    exact cool
  next =>
    intro input member
    rw [List.eq_of_mem_replicate (List.mem_of_mem_take member)]
    rfl

end Startup

end ThalamicRelay
