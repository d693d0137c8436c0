import ThalamicRelay.Safety.Unverified
import ThalamicRelay.Supervisor.Shutdown

set_option autoImplicit false

namespace ThalamicRelay

open Saturating

structure Exported (metrics : RelayMetrics) (m : SafetyMachine) : Prop where
  state : metrics.safetyState = m.snapshot.state
  policyState : metrics.policyState = m.snapshot.policyState
  brakeEngaged : metrics.brakeEngaged = m.snapshot.brakeEngaged
  hysteresisOkCount : metrics.hysteresisOkCount = m.snapshot.hysteresisOkCount
  transitions : m.transitionsTotal = min metrics.safetyTransitionsTotal u64Max
  failures : m.actuatorFailuresTotal = min metrics.safetyActuatorFailuresTotal u64Max

def Event.mutates : Event → Bool
  | .recorded _ | .evaluated _ _ => true
  | .seeded | .offered _ | .spawned _ => false

-- Every mutation ends in compose_and_store; its reply carries all that the metrics copy.
theorem exported_composed {metrics : RelayMetrics} {m : SafetyMachine} (desired failed : Bool)
    (transitions : m.transitionsTotal = min metrics.safetyTransitionsTotal u64Max)
    (failures : m.actuatorFailuresTotal =
      min (metrics.safetyActuatorFailuresTotal + if failed then 1 else 0) u64Max) :
    Exported (metrics.recordSafetySnapshot (m.composeAndStore desired failed).1)
      (m.composeAndStore desired failed).2 where
  state := rfl
  policyState := rfl
  brakeEngaged := rfl
  hysteresisOkCount := rfl
  transitions := by
    simp only [SafetyMachine.composeAndStore, RelayMetrics.recordSafetySnapshot, transitions]
    split_ifs <;> simp_all [increment_min]
  failures := failures

theorem exported_evaluate {metrics : RelayMetrics} {m : SafetyMachine}
    (exported : Exported metrics m) (frame : TelemetryFrame) :
    Exported (metrics.recordSafetySnapshot (m.evaluate frame).1) (m.evaluate frame).2 := by
  simp only [SafetyMachine.evaluate, SafetyMachine.policyFor_eq]
  exact exported_composed _ _ exported.transitions exported.failures

theorem exported_recordActuator {metrics : RelayMetrics} {m : SafetyMachine}
    (exported : Exported metrics m) (outcome : ActuatorOutcome) :
    Exported (metrics.recordSafetySnapshot (m.recordActuator outcome).1)
      (m.recordActuator outcome).2 := by
  cases outcome with
  | applied | released => exact exported_composed _ _ exported.transitions exported.failures
  | applyFailed error | releaseFailed error =>
    refine exported_composed _ _ exported.transitions ?_
    simp only [exported.failures, increment_min, if_true]

namespace Supervisor

variable {cli : Cli} {s : Supervisor}

def Synced (s : Supervisor) : Prop :=
  Exported s.metrics s.machine

theorem synced_recordActuator (synced : s.Synced) (outcome : ActuatorOutcome) :
    (s.recordActuator outcome).Synced :=
  exported_recordActuator synced outcome

theorem synced_evaluate (synced : s.Synced) (frame : TelemetryFrame) :
    ((s.evaluateThenTryPublish frame).2.storeSafety (s.evaluateThenTryPublish frame).1).Synced :=
  exported_evaluate synced frame

theorem synced_reassess (synced : s.Synced) (outcome : ActuatorOutcome)
    (reassessment : Acquisition) :
    (s.reassessAfterActuation cli outcome reassessment).Synced := by
  simp only [reassessAfterActuation]
  exact synced_evaluate (synced_recordActuator synced outcome) _

theorem synced_of_same {after : Supervisor} (synced : s.Synced)
    (machine : after.machine = s.machine) (metrics : after.metrics = s.metrics) : after.Synced := by
  simp only [Synced, machine, metrics]
  exact synced

theorem dispatch_metrics (s : Supervisor) (gateFree due : Bool) :
    (s.dispatch gateFree due).metrics = s.metrics := by
  simp only [dispatch]
  split <;> rfl

theorem begin_metrics (s : Supervisor) (gateFree : Bool) :
    (s.begin gateFree).metrics = s.metrics := by
  simp only [begin, retryPending]
  split
  · exact dispatch_metrics _ _ _
  · rfl

theorem synced_begin (synced : s.Synced) (gateFree : Bool) : (s.begin gateFree).Synced :=
  synced_of_same synced (begin_machine s gateFree) (begin_metrics s gateFree)

theorem synced_emptied (synced : s.Synced) (slot : Slot) : (s.emptied slot).Synced := synced

def completionStores (cli : Cli) (slot : Slot) (s : Supervisor) (finished : Option TaskResult)
    (reassessment : Acquisition) : List Supervisor :=
  match s.attempt.slots.get slot, finished with
  | some _, some result =>
    let s := s.emptied slot
    match result with
    | .ok =>
      [s.recordActuator slot.succeeded, s.reassessAfterActuation cli slot.succeeded reassessment]
    | .err error => [s.recordActuator (slot.failed error.toString)]
    | .panicked message => [s.recordActuator (slot.failed message)]
  | _, _ => []

def evaluationStores (s : Supervisor) (flags : TickFlags) (telemetry : TelemetryFrame) :
    List Supervisor :=
  if flags.evaluatedThisIter then []
  else if shouldEvaluateTick s.stepCount telemetry.source then
    [(s.evaluateTick flags telemetry).1]
  else []

def stores (cli : Cli) (s : Supervisor) (input : Iteration) : List Supervisor :=
  let s' := s.ready cli input
  let (braked, flags) := s'.completeBrake cli .clear input
  let (released, flags) := braked.completeRelease cli flags input
  s'.completionStores cli .brake input.brakeFinished input.brakeReassessment ++
    braked.completionStores cli .release input.releaseFinished input.releaseReassessment ++
    released.evaluationStores flags (s.telemetry cli input)

inductive CompletionStored (cli : Cli) (slot : Slot) (s : Supervisor) (reassessment : Acquisition) :
    List Supervisor → Supervisor → Prop
  | nothing : CompletionStored cli slot s reassessment [] s
  | succeeded :
      CompletionStored cli slot s reassessment
        [(s.emptied slot).recordActuator slot.succeeded,
          (s.emptied slot).reassessAfterActuation cli slot.succeeded reassessment]
        ((s.emptied slot).reassessAfterActuation cli slot.succeeded reassessment)
  | failed (error : String) :
      CompletionStored cli slot s reassessment
        [(s.emptied slot).recordActuator (slot.failed error)]
        ((s.emptied slot).recordActuator (slot.failed error))

theorem completion_stored (cli : Cli) (slot : Slot) (s : Supervisor) (flags : TickFlags)
    (finished : Option TaskResult) (reassessment : Acquisition) :
    CompletionStored cli slot s reassessment
      (s.completionStores cli slot finished reassessment)
      (completeActuation cli slot slot.succeeded slot.failed s flags finished reassessment).1 := by
  simp only [completionStores, completeActuation]
  cases s.attempt.slots.get slot with
  | none => exact .nothing
  | some task =>
    cases finished with
    | none => exact .nothing
    | some result =>
      cases result with
      | ok => exact .succeeded
      | err error => exact .failed error.toString
      | panicked message => exact .failed message

theorem brake_stored (cli : Cli) (s : Supervisor) (flags : TickFlags) (input : Iteration) :
    CompletionStored cli .brake s input.brakeReassessment
      (s.completionStores cli .brake input.brakeFinished input.brakeReassessment)
      (s.completeBrake cli flags input).1 :=
  completion_stored cli .brake s flags input.brakeFinished input.brakeReassessment

theorem release_stored (cli : Cli) (s : Supervisor) (flags : TickFlags) (input : Iteration) :
    CompletionStored cli .release s input.releaseReassessment
      (s.completionStores cli .release input.releaseFinished input.releaseReassessment)
      (s.completeRelease cli flags input).1 :=
  completion_stored cli .release s flags input.releaseFinished input.releaseReassessment

section Completion

variable {slot : Slot} {reassessment : Acquisition} {stores : List Supervisor} {last : Supervisor}

theorem CompletionStored.synced (stored : CompletionStored cli slot s reassessment stores last)
    (synced : s.Synced) : last.Synced ∧ ∀ store ∈ stores, store.Synced := by
  have vacated := synced_emptied synced slot
  cases stored with
  | nothing => exact ⟨synced, by simp⟩
  | succeeded =>
    have recorded := synced_recordActuator vacated slot.succeeded
    have reassessed : ((s.emptied slot).reassessAfterActuation cli slot.succeeded
        reassessment).Synced := synced_reassess vacated slot.succeeded reassessment
    exact ⟨reassessed, by simp [recorded, reassessed]⟩
  | failed error =>
    have recorded := synced_recordActuator vacated (slot.failed error)
    exact ⟨recorded, by simp [recorded]⟩

theorem CompletionStored.mutations
    (stored : CompletionStored cli slot s reassessment stores last) :
    last.log.countP Event.mutates = s.log.countP Event.mutates + stores.length := by
  cases stored with
  | nothing => rfl
  | succeeded =>
    simp [recordActuator, reassessAfterActuation, acquire, evaluateThenTryPublish, storeSafety,
      note, emptied, Event.mutates, List.countP_cons]
  | failed error =>
    simp [recordActuator, storeSafety, note, emptied, Event.mutates, List.countP_cons]

end Completion

theorem synced_evaluateTick (synced : s.Synced) (flags : TickFlags) (telemetry : TelemetryFrame) :
    (s.evaluateTick flags telemetry).1.Synced := by
  simp only [evaluateTick]
  split_ifs
  · exact synced
  · exact synced_evaluate synced telemetry
  · exact synced

theorem dispatch_mutations (s : Supervisor) (gateFree due : Bool) :
    (s.dispatch gateFree due).log.countP Event.mutates = s.log.countP Event.mutates := by
  simp only [dispatch]
  split
  · simp [note, Event.mutates]
  · rfl

theorem begin_mutations (s : Supervisor) (gateFree : Bool) :
    (s.begin gateFree).log.countP Event.mutates = s.log.countP Event.mutates := by
  simp only [begin, retryPending]
  split
  · exact dispatch_mutations _ _ _
  · rfl

theorem synced_evaluationStores (synced : s.Synced) (flags : TickFlags)
    (telemetry : TelemetryFrame) :
    ∀ stored ∈ s.evaluationStores flags telemetry, stored.Synced := by
  simp only [evaluationStores]
  split_ifs
  · simp
  · simpa using synced_evaluateTick synced flags telemetry
  · simp

theorem evaluateTick_mutations (s : Supervisor) (flags : TickFlags) (telemetry : TelemetryFrame) :
    (s.evaluateTick flags telemetry).1.log.countP Event.mutates =
      s.log.countP Event.mutates + (s.evaluationStores flags telemetry).length := by
  simp only [evaluateTick, evaluationStores]
  split_ifs
  · rfl
  · simp [evaluateThenTryPublish, storeSafety, note, Event.mutates, List.countP_cons]
  · simp [note, Event.mutates]

theorem synced_ready (cli : Cli) (synced : s.Synced) (input : Iteration) :
    (s.ready cli input).Synced :=
  synced_begin synced input.retryGateFree

theorem synced_dispatch (synced : s.Synced) (gateFree due : Bool) :
    (s.dispatch gateFree due).Synced :=
  synced_of_same synced (dispatch_machine s gateFree due) (dispatch_metrics s gateFree due)

theorem synced_recordAcquired (synced : s.Synced) (telemetry : TelemetryFrame) :
    (s.recordAcquired telemetry).Synced :=
  ⟨synced.state, synced.policyState, synced.brakeEngaged, synced.hysteresisOkCount,
    synced.transitions, synced.failures⟩

theorem synced_stores (cli : Cli) (synced : s.Synced) (input : Iteration) :
    ∀ stored ∈ s.stores cli input, stored.Synced := by
  have ready := synced_ready cli synced input
  have braked := (brake_stored cli (s.ready cli input) .clear input).synced ready
  have released := (release_stored cli _ ((s.ready cli input).completeBrake cli .clear input).2
    input).synced braked.1
  intro stored member
  simp only [stores, List.mem_append] at member
  rcases member with (brake | release) | evaluation
  · exact braked.2 stored brake
  · exact released.2 stored release
  · exact synced_evaluationStores released.1 _ _ stored evaluation

theorem synced_iterate (cli : Cli) (synced : s.Synced) (input : Iteration) :
    (iterate cli s input).Synced := by
  rw [iterate_eq]
  have ready := synced_ready cli synced input
  have braked := (brake_stored cli (s.ready cli input) .clear input).synced ready
  have released := (release_stored cli _ ((s.ready cli input).completeBrake cli .clear input).2
    input).synced braked.1
  exact synced_recordAcquired (synced_dispatch (synced_evaluateTick released.1 _ _) _ _) _

theorem iterate_mutations (cli : Cli) (s : Supervisor) (input : Iteration) :
    (iterate cli s input).log.countP Event.mutates =
      s.log.countP Event.mutates + (s.stores cli input).length := by
  have acquired : (s.ready cli input).log.countP Event.mutates = s.log.countP Event.mutates :=
    begin_mutations s input.retryGateFree
  have braked := (brake_stored cli (s.ready cli input) .clear input).mutations
  have released := (release_stored cli ((s.ready cli input).completeBrake cli .clear input).1
    ((s.ready cli input).completeBrake cli .clear input).2 input).mutations
  have evaluated := evaluateTick_mutations
    ((s.ready cli input).completeFinished cli input).1
    ((s.ready cli input).completeFinished cli input).2 (s.telemetry cli input)
  rw [iterate_eq]
  simp only [recordAcquired, dispatch_mutations, stores, List.length_append]
  simp only [completeFinished] at *
  omega

theorem synced_joinInFlight (synced : s.Synced) (slot : Slot) (join : InFlightJoin) :
    (s.joinInFlight slot join).Synced := by
  simp only [joinInFlight]
  split_ifs
  · cases join.outcome slot with
    | none => exact synced_emptied synced slot
    | some outcome => exact synced_recordActuator (synced_emptied synced slot) outcome
  · exact synced

theorem synced_shutdown (synced : s.Synced) (reason : ShutdownReason) (join : InFlightJoin) :
    (s.performOrderlyShutdown reason join).2.Synced := by
  have planned (plan : ShutdownPlan) :
      Synced { s with metrics := s.metrics.recordShutdown plan } :=
    ⟨synced.state, synced.policyState, synced.brakeEngaged, synced.hysteresisOkCount,
      synced.transitions, synced.failures⟩
  simp only [performOrderlyShutdown]
  split
  · exact synced_emptied (synced_emptied (planned _) .brake) .release
  · exact synced_emptied (synced_joinInFlight (planned _) .brake join) .release
  · exact synced_emptied (synced_joinInFlight (planned _) .release join) .brake

theorem synced_seedStartupBrake (cli : Cli) (policy : SafetyPolicy) (generatedSessionId : String)
    (currentW defaultW : Option UInt32) :
    ((fresh cli policy generatedSessionId).seedStartupBrake currentW defaultW).Synced := by
  simp only [seedStartupBrake]
  split <;> exact ⟨rfl, rfl, rfl, rfl, rfl, rfl⟩

end Supervisor

namespace Startup

theorem synced_run (startup : Startup) (inputs : List Iteration) :
    (startup.run inputs).Synced := by
  refine (startup.run_reachable inputs).invariant Supervisor.Synced ?_ ?_
  · rintro s rfl
    exact Supervisor.synced_seedStartupBrake _ _ _ _ _
  · rintro s input after _ synced rfl
    exact Supervisor.synced_iterate startup.cli synced input

end Startup

end ThalamicRelay
