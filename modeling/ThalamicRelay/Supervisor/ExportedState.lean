import ThalamicRelay.Supervisor.TransitionRate

set_option autoImplicit false

namespace ThalamicRelay

open Saturating

/-- The exported state is the machine's own, its totals included. -/
structure ExportedFully (metrics : RelayMetrics) (m : SafetyMachine) : Prop where
  state : metrics.safetyState = m.snapshot.state
  policyState : metrics.policyState = m.snapshot.policyState
  brakeEngaged : metrics.brakeEngaged = m.snapshot.brakeEngaged
  hysteresisOkCount : metrics.hysteresisOkCount = m.snapshot.hysteresisOkCount
  transitions : m.transitionsTotal = metrics.safetyTransitionsTotal
  failures : m.actuatorFailuresTotal = metrics.safetyActuatorFailuresTotal

theorem Exported.fully {metrics : RelayMetrics} {m : SafetyMachine}
    (exported : Exported metrics m) (transitions : metrics.safetyTransitionsTotal ≤ u64Max)
    (failures : metrics.safetyActuatorFailuresTotal ≤ u64Max) : ExportedFully metrics m where
  state := exported.state
  policyState := exported.policyState
  brakeEngaged := exported.brakeEngaged
  hysteresisOkCount := exported.hysteresisOkCount
  transitions := exported.transitions.trans (Nat.min_eq_left transitions)
  failures := exported.failures.trans (Nat.min_eq_left failures)

namespace RelayMetrics

structure Precedes (before after : RelayMetrics) : Prop where
  transitions : before.safetyTransitionsTotal ≤ after.safetyTransitionsTotal
  failures : before.safetyActuatorFailuresTotal ≤ after.safetyActuatorFailuresTotal

variable {first second third : RelayMetrics}

theorem Precedes.refl (metrics : RelayMetrics) : metrics.Precedes metrics :=
  ⟨le_rfl, le_rfl⟩

theorem Precedes.trans (before : first.Precedes second) (after : second.Precedes third) :
    first.Precedes third :=
  ⟨before.transitions.trans after.transitions, before.failures.trans after.failures⟩

theorem precedes_recorded (metrics : RelayMetrics) (snap : SafetySnapshot) :
    metrics.Precedes (metrics.recordSafetySnapshot snap) :=
  ⟨Nat.le_add_right _ _, Nat.le_add_right _ _⟩

theorem counted_evaluate (metrics : RelayMetrics) (m : SafetyMachine) (frame : TelemetryFrame) :
    (metrics.recordSafetySnapshot (m.evaluate frame).1).safetyTransitionsTotal ≤
        metrics.safetyTransitionsTotal + 1 ∧
      (metrics.recordSafetySnapshot (m.evaluate frame).1).safetyActuatorFailuresTotal =
        metrics.safetyActuatorFailuresTotal := by
  refine ⟨?_, rfl⟩
  simp only [recordSafetySnapshot]
  split <;> omega

theorem counted_recordActuator (metrics : RelayMetrics) (m : SafetyMachine)
    (outcome : ActuatorOutcome) :
    let after := metrics.recordSafetySnapshot (m.recordActuator outcome).1
    after.safetyTransitionsTotal ≤ metrics.safetyTransitionsTotal + 1 ∧
      after.safetyActuatorFailuresTotal ≤ metrics.safetyActuatorFailuresTotal + 1 := by
  simp only [recordSafetySnapshot]
  constructor
  all_goals split <;> omega

theorem counted_succeeded (metrics : RelayMetrics) (m : SafetyMachine) (slot : Slot) :
    (metrics.recordSafetySnapshot (m.recordActuator slot.succeeded).1).safetyActuatorFailuresTotal =
      metrics.safetyActuatorFailuresTotal := by
  cases slot <;> rfl

end RelayMetrics

namespace Supervisor

variable {cli : Cli} {policy : SafetyPolicy} {s : Supervisor} {input : Iteration}

theorem CompletionStored.precedes {slot : Slot} {reassessment : Acquisition}
    {stores : List Supervisor} {last : Supervisor}
    (stored : CompletionStored cli slot s reassessment stores last) :
    s.metrics.Precedes last.metrics ∧ ∀ store ∈ stores, store.metrics.Precedes last.metrics := by
  cases stored with
  | nothing => exact ⟨.refl _, by simp⟩
  | failed error => exact ⟨RelayMetrics.precedes_recorded _ _, by simp [RelayMetrics.Precedes.refl]⟩
  | succeeded =>
    let recorded := (s.emptied slot).recordActuator slot.succeeded
    let last := (s.emptied slot).reassessAfterActuation cli slot.succeeded reassessment
    have first : s.metrics.Precedes recorded.metrics := RelayMetrics.precedes_recorded _ _
    have second : recorded.metrics.Precedes last.metrics := RelayMetrics.precedes_recorded _ _
    refine ⟨first.trans second, ?_⟩
    simp only [List.mem_cons, List.not_mem_nil, or_false]
    rintro store (rfl | rfl)
    next => exact second
    next => exact .refl _

theorem evaluateTick_precedes (s : Supervisor) (flags : TickFlags) (telemetry : TelemetryFrame) :
    s.metrics.Precedes (s.evaluateTick flags telemetry).1.metrics ∧
      ∀ stored ∈ s.evaluationStores flags telemetry,
        stored.metrics.Precedes (s.evaluateTick flags telemetry).1.metrics := by
  constructor
  next =>
    simp only [evaluateTick]
    split_ifs
    next => exact .refl _
    next => exact RelayMetrics.precedes_recorded _ _
    next => exact .refl _
  next =>
    intro stored member
    simp only [evaluationStores] at member
    split_ifs at member
    next => contradiction
    next =>
      rw [List.mem_singleton.mp member]
      exact .refl _
    next => contradiction

theorem stores_precede (cli : Cli) (s : Supervisor) (input : Iteration) :
    ∀ stored ∈ s.stores cli input, stored.metrics.Precedes (s.iterate cli input).metrics := by
  obtain ⟨_, brake⟩ := (brake_stored cli (s.ready cli input) .clear input).precedes
  obtain ⟨completed, release⟩ := (release_stored cli
    ((s.ready cli input).completeBrake cli .clear input).1
    ((s.ready cli input).completeBrake cli .clear input).2 input).precedes
  obtain ⟨judged, evaluation⟩ := ((s.ready cli input).completeFinished cli input).1
    |>.evaluateTick_precedes ((s.ready cli input).completeFinished cli input).2
      (s.telemetry cli input)
  have ending (metrics : RelayMetrics) (before : metrics.Precedes
      ((((s.ready cli input).completeFinished cli input).1.evaluateTick
        ((s.ready cli input).completeFinished cli input).2 (s.telemetry cli input)).1).metrics) :
      metrics.Precedes (s.iterate cli input).metrics := by
    rw [iterate_eq]
    simp only [recordAcquired, dispatch_metrics]
    exact ⟨before.transitions, before.failures⟩
  intro stored member
  simp only [stores, List.mem_append] at member
  rcases member with (first | second) | third
  next => exact ending _ (((brake stored first).trans completed).trans judged)
  next => exact ending _ ((release stored second).trans judged)
  next => exact ending _ (evaluation stored third)

theorem recorded_metrics (s : Supervisor) (slot : Slot) (outcome : ActuatorOutcome) :
    ((s.emptied slot).recordActuator outcome).metrics =
      s.metrics.recordSafetySnapshot (s.machine.recordActuator outcome).1 := rfl

theorem evaluateTick_counted (s : Supervisor) (flags : TickFlags) (telemetry : TelemetryFrame) :
    (s.evaluateTick flags telemetry).1.metrics.safetyTransitionsTotal ≤
        s.metrics.safetyTransitionsTotal + 1 ∧
      (s.evaluateTick flags telemetry).1.metrics.safetyActuatorFailuresTotal =
        s.metrics.safetyActuatorFailuresTotal := by
  simp only [evaluateTick]
  split_ifs
  next => exact ⟨Nat.le_succ _, rfl⟩
  next => exact RelayMetrics.counted_evaluate s.metrics s.machine telemetry
  next => exact ⟨Nat.le_succ _, rfl⟩

-- At most one worker is joined, so at most one failure is counted.
def joinable (s : Supervisor) : Nat :=
  if s.attempt.slots.isEmpty = true then 0 else 1

theorem joinable_le (s : Supervisor) : s.joinable ≤ 1 := by
  unfold joinable
  split <;> omega

theorem iterate_counted (core : RelayCore.Inv policy s.core) (cli : Cli) (input : Iteration) :
    (s.iterate cli input).metrics.safetyTransitionsTotal ≤ s.metrics.safetyTransitionsTotal + 3 ∧
      (s.iterate cli input).metrics.safetyActuatorFailuresTotal ≤
        s.metrics.safetyActuatorFailuresTotal + (s.ready cli input).joinable := by
  have joined := completeFinished_joined core cli input
  have begun : (s.ready cli input).metrics = s.metrics := begin_metrics s input.retryGateFree
  rw [iterate_eq]
  simp only [recordAcquired, dispatch_metrics]
  generalize (s.ready cli input).completeFinished cli input = done at joined
  obtain ⟨transitions, failures⟩ := done.1.evaluateTick_counted done.2 (s.telemetry cli input)
  have completed : done.1.metrics.safetyTransitionsTotal ≤ s.metrics.safetyTransitionsTotal + 2 ∧
      done.1.metrics.safetyActuatorFailuresTotal ≤ s.metrics.safetyActuatorFailuresTotal +
        (s.ready cli input).joinable := by
    cases joined with
    | nothing idle =>
      rw [begun]
      omega
    | succeeded slot occupied finished =>
      let ready := s.ready cli input
      let recorded := (ready.emptied slot).recordActuator slot.succeeded
      let frame := ((input.reassessment slot).assess cli ready.sampleClock).1
      have outcome := RelayMetrics.counted_recordActuator s.metrics ready.machine slot.succeeded
      have unfailed := RelayMetrics.counted_succeeded s.metrics ready.machine slot
      have verdict := RelayMetrics.counted_evaluate recorded.metrics recorded.machine frame
      rw [recorded_metrics, begun] at verdict
      have reassessed : ((ready.emptied slot).reassessAfterActuation cli slot.succeeded
          (input.reassessment slot)).metrics =
          recorded.metrics.recordSafetySnapshot (recorded.machine.evaluate frame).1 := rfl
      rw [recorded_metrics, begun] at reassessed
      rw [reassessed]
      omega
    | failed slot result error occupied finished failure =>
      have outcome := RelayMetrics.counted_recordActuator s.metrics (s.ready cli input).machine
        (slot.failed error)
      rw [recorded_metrics, begun, joinable, if_neg (by simp [Slots.get_isEmpty occupied])]
      omega
  omega

theorem joined_stamped {done : Supervisor × TickFlags} (joined : Joined cli s input done) :
    (s.ready cli input).sampleClock.nextBatchId ≤ done.1.sampleClock.nextBatchId := by
  cases joined with
  | nothing idle => exact le_rfl
  | succeeded slot occupied finished => exact Nat.le_succ _
  | failed slot result error occupied finished failure => exact le_rfl

theorem iterate_stamped (core : RelayCore.Inv policy s.core) (cli : Cli) (input : Iteration) :
    s.sampleClock.nextBatchId + 1 ≤ (s.iterate cli input).sampleClock.nextBatchId := by
  have joined := joined_stamped (completeFinished_joined core cli input)
  have stamped := ready_batch cli s input
  rw [iterate_eq]
  simp only [recordAcquired, dispatch_sampleClock, evaluateTick_sampleClock]
  omega

theorem joinInFlight_counted (s : Supervisor) (slot : Slot) (join : InFlightJoin) :
    (s.joinInFlight slot join).metrics.safetyTransitionsTotal ≤
        s.metrics.safetyTransitionsTotal + 1 ∧
      (s.joinInFlight slot join).metrics.safetyActuatorFailuresTotal ≤
        s.metrics.safetyActuatorFailuresTotal + 1 := by
  simp only [joinInFlight]
  split_ifs
  next =>
    cases join.outcome slot with
    | none => exact ⟨Nat.le_succ _, Nat.le_succ _⟩
    | some outcome => exact RelayMetrics.counted_recordActuator s.metrics s.machine outcome
  next => exact ⟨Nat.le_succ _, Nat.le_succ _⟩

theorem shutdown_counted (s : Supervisor) (reason : ShutdownReason) (join : InFlightJoin) :
    let after := (s.performOrderlyShutdown reason join).2
    after.metrics.safetyTransitionsTotal ≤ s.metrics.safetyTransitionsTotal + 1 ∧
      after.metrics.safetyActuatorFailuresTotal ≤ s.metrics.safetyActuatorFailuresTotal + 1 := by
  simp only [performOrderlyShutdown]
  split
  next => exact ⟨Nat.le_succ _, Nat.le_succ _⟩
  next => exact joinInFlight_counted _ .brake join
  next => exact joinInFlight_counted _ .release join

end Supervisor

namespace Startup

theorem initial_attempt (startup : Startup) :
    startup.initial.attempt = { slots := .empty, pending := none } := by
  unfold initial Supervisor.seedStartupBrake
  split <;> rfl

theorem initial_totals (startup : Startup) :
    startup.initial.metrics.safetyTransitionsTotal = 0 ∧
      startup.initial.metrics.safetyActuatorFailuresTotal = 0 := by
  unfold initial Supervisor.seedStartupBrake
  split <;> exact ⟨rfl, rfl⟩

theorem initial_poised (startup : Startup) : startup.initial.Poised startup.policy where
  core := startup.inv []
  overlay := by
    have unseeded := SafetyMachine.overlay_start startup.policy false
    unfold initial Supervisor.seedStartupBrake
    split
    next => exact SafetyMachine.overlay_start startup.policy true
    all_goals exact unseeded
  waiting := by
    intro intent waits
    rw [initial_attempt] at waits
    contradiction

theorem run_poised (startup : Startup) (inputs : List Iteration) :
    (startup.run inputs).Poised startup.policy := by
  induction inputs using List.reverseRecOn with
  | nil => exact startup.initial_poised
  | append_singleton inputs input ih =>
    rw [run_snoc]
    exact Supervisor.iterate_poised ih startup.cli input

theorem run_paid (startup : Startup) (inputs : List Iteration)
    (genuine : ∀ input ∈ inputs, input.acquisition.FromBridge) :
    5 * (startup.run inputs).metrics.safetyTransitionsTotal + (startup.run inputs).pressure +
        inputs.length ≤
      5 * (startup.run inputs).sampleClock.nextBatchId + 7 + 8 * cadences inputs.length := by
  induction inputs using List.reverseRecOn with
  | nil =>
    show 5 * startup.initial.metrics.safetyTransitionsTotal + startup.initial.pressure + 0 ≤ _
    have bounds := startup.initial.pressure_bounds
    rw [startup.initial_totals.1]
    omega
  | append_singleton inputs input ih =>
    have before := ih fun input member => genuine input (by simp [member])
    have paid := Supervisor.iterate_paid startup.cli (startup.run_poised inputs)
      (genuine input (by simp))
    rw [← run_snoc, run_stepCount] at paid
    have counted := cadences_succ inputs.length
    rw [List.length_append, List.length_singleton]
    omega

theorem run_counted (startup : Startup) (inputs : List Iteration) :
    (startup.run inputs).metrics.safetyTransitionsTotal ≤ 3 * inputs.length ∧
      (startup.run inputs).metrics.safetyActuatorFailuresTotal ≤ inputs.length - 1 ∧
      inputs.length ≤ (startup.run inputs).sampleClock.nextBatchId := by
  induction inputs using List.reverseRecOn with
  | nil =>
    obtain ⟨transitions, failures⟩ := startup.initial_totals
    exact ⟨transitions.le, failures.le, Nat.zero_le _⟩
  | append_singleton inputs input ih =>
    have core := startup.inv inputs
    have counted := Supervisor.iterate_counted core startup.cli input
    have stamped := Supervisor.iterate_stamped core startup.cli input
    rw [← run_snoc] at counted stamped
    rw [List.length_append, List.length_singleton]
    by_cases first : inputs = []
    next =>
      subst first
      have idle : ((startup.run []).ready startup.cli input).attempt.slots.isEmpty = true := by
        have begun : (startup.initial.begin input.retryGateFree).attempt.slots.isEmpty = true := by
          simp only [Supervisor.begin, Supervisor.retryPending, initial_attempt]
          rfl
        exact begun
      rw [Supervisor.joinable, if_pos idle] at counted
      simp only [List.length_nil] at ih ⊢
      omega
    next =>
      have nonempty := List.length_pos_iff.mpr first
      have once := ((startup.run inputs).ready startup.cli input).joinable_le
      omega

-- No more transitions than stamps: the margin is for what one more iteration may count.
theorem run_unsaturated (startup : Startup) (inputs : List Iteration)
    (genuine : ∀ input ∈ inputs, input.acquisition.FromBridge)
    (stamped : (startup.run inputs).sampleClock.nextBatchId ≤ u64Max) :
    (startup.run inputs).metrics.safetyTransitionsTotal + 3 ≤ u64Max ∧
      (startup.run inputs).metrics.safetyActuatorFailuresTotal + 1 ≤ u64Max := by
  have paid := startup.run_paid inputs genuine
  have bounds := (startup.run inputs).pressure_bounds
  obtain ⟨transitions, failures, length⟩ := startup.run_counted inputs
  have regular : cadences inputs.length ≤ inputs.length / 10 + 1 := by
    unfold cadences
    split <;> omega
  unfold u64Max at stamped ⊢
  omega

theorem exported_state_follows (startup : Startup) (inputs : List Iteration) (input : Iteration)
    (reason : ShutdownReason) (join : InFlightJoin)
    (genuine : ∀ input ∈ inputs, input.acquisition.FromBridge)
    (stamped : (startup.run inputs).sampleClock.nextBatchId ≤ u64Max) :
    let s := startup.run inputs
    let stopped := (s.performOrderlyShutdown reason join).2
    ExportedFully s.metrics s.machine ∧
      (∀ stored ∈ s.stores startup.cli input, ExportedFully stored.metrics stored.machine) ∧
      (s.iterate startup.cli input).log.countP Event.mutates =
        s.log.countP Event.mutates + (s.stores startup.cli input).length ∧
      ExportedFully stopped.metrics stopped.machine := by
  intro s stopped
  have synced : s.Synced := startup.synced_run inputs
  obtain ⟨transitions, failures⟩ : s.metrics.safetyTransitionsTotal + 3 ≤ u64Max ∧
      s.metrics.safetyActuatorFailuresTotal + 1 ≤ u64Max :=
    startup.run_unsaturated inputs genuine stamped
  refine ⟨?_, ?_, Supervisor.iterate_mutations startup.cli s input, ?_⟩
  next => exact Exported.fully synced (by omega) (by omega)
  next =>
    intro stored member
    have exported := Supervisor.synced_stores startup.cli synced input stored member
    have before := Supervisor.stores_precede startup.cli s input stored member
    have counted := Supervisor.iterate_counted (s := s) (startup.inv inputs) startup.cli input
    have once := (s.ready startup.cli input).joinable_le
    refine exported.fully (before.transitions.trans ?_) (before.failures.trans ?_) <;> omega
  next =>
    have exported := Supervisor.synced_shutdown synced reason join
    obtain ⟨once, failed⟩ := s.shutdown_counted reason join
    refine exported.fully (once.trans ?_) (failed.trans ?_) <;> omega

theorem exported_state_follows_leftover :
    let startup := leftover .testPolicy
    let refused := { measured with releaseFinished := some (.err (.commandFailed "sudo denied")) }
    let released := { measured with releaseFinished := some .ok }
    let s := startup.run (List.replicate 30 refused)
    let stopped := (s.performOrderlyShutdown .sigterm (.failed "sudo denied")).2
    (s.attempt.slots.releaseTask.isSome = true ∧ s.machine.actuatorFailuresTotal = 1 ∧
        (s.stores startup.cli released).length = 2 ∧ stopped.machine.actuatorFailuresTotal = 2) ∧
      ExportedFully s.metrics s.machine ∧
        (∀ stored ∈ s.stores startup.cli released, ExportedFully stored.metrics stored.machine) ∧
        (s.iterate startup.cli released).log.countP Event.mutates =
          s.log.countP Event.mutates + (s.stores startup.cli released).length ∧
        ExportedFully stopped.metrics stopped.machine := by
  intro startup refused released
  have genuine : ∀ input ∈ List.replicate 30 refused, input.acquisition.FromBridge := by
    intro input member
    obtain rfl := List.eq_of_mem_replicate member
    rintro raw reading
    exact ⟨_, _, (Except.ok.inj reading).symm⟩
  refine ⟨by decide +kernel, ?_⟩
  exact exported_state_follows startup (List.replicate 30 refused) released .sigterm
    (.failed "sudo denied") genuine (by decide +kernel)

end Startup

end ThalamicRelay
