import ThalamicRelay.Supervisor.Iteration

set_option autoImplicit false

namespace ThalamicRelay

def Event.offeredFrame : Event → Option TelemetryFrame
  | .offered frame => some frame
  | .seeded | .recorded _ | .evaluated _ _ | .spawned _ => none

namespace Supervisor

variable {cli : Cli} {s before middle after : Supervisor}
  {frames earlier later : List TelemetryFrame}

def offers (s : Supervisor) : List TelemetryFrame :=
  s.log.reverse.filterMap Event.offeredFrame

@[simp] theorem note_offers (s : Supervisor) (event : Event) :
    (s.note event).offers = s.offers ++ event.offeredFrame.toList := by
  cases found : event.offeredFrame <;> simp [offers, note, found]

@[simp] theorem storeSafety_offers (s : Supervisor) (snap : SafetySnapshot) :
    (s.storeSafety snap).offers = s.offers := rfl

@[simp] theorem recordActuator_offers (s : Supervisor) (outcome : ActuatorOutcome) :
    (s.recordActuator outcome).offers = s.offers := by
  simp [recordActuator, offers, note, storeSafety, Event.offeredFrame]

@[simp] theorem evaluate_offers (s : Supervisor) (frame : TelemetryFrame) :
    (s.evaluateThenTryPublish frame).2.offers = s.offers ++ [frame] := by
  simp only [evaluateThenTryPublish, note_offers, Event.offeredFrame, Option.toList]
  simp [offers]

@[simp] theorem emptied_offers (s : Supervisor) (slot : Slot) :
    (s.emptied slot).offers = s.offers := rfl

@[simp] theorem dispatch_offers (s : Supervisor) (gateFree due : Bool) :
    (s.dispatch gateFree due).offers = s.offers := by
  simp only [dispatch]
  split
  next =>
    rw [note_offers]
    simp [Event.offeredFrame, offers]
  next => rfl

@[simp] theorem dispatch_sampleClock (s : Supervisor) (gateFree due : Bool) :
    (s.dispatch gateFree due).sampleClock = s.sampleClock := by
  simp only [dispatch]
  split <;> rfl

@[simp] theorem begin_offers (s : Supervisor) (gateFree : Bool) :
    (s.begin gateFree).offers = s.offers := by
  simp only [begin, retryPending]
  split
  next => exact dispatch_offers _ _ _
  next => rfl

@[simp] theorem begin_sampleClock (s : Supervisor) (gateFree : Bool) :
    (s.begin gateFree).sampleClock = s.sampleClock := by
  simp only [begin, retryPending]
  split
  next => exact dispatch_sampleClock _ _ _
  next => rfl

/-- Between the two states the loop offered these frames, stamped in their order. -/
structure Stamped (before after : Supervisor) (frames : List TelemetryFrame) : Prop where
  offers : after.offers = before.offers ++ frames
  session : after.sampleClock.sessionId = before.sampleClock.sessionId
  sessions : ∀ frame ∈ frames, frame.sessionId = before.sampleClock.sessionId
  ascending : frames.Pairwise (·.batchId < ·.batchId)
  lower : ∀ frame ∈ frames, before.sampleClock.nextBatchId ≤ frame.batchId
  upper : ∀ frame ∈ frames, frame.batchId < after.sampleClock.nextBatchId
  advance : before.sampleClock.nextBatchId ≤ after.sampleClock.nextBatchId

theorem Stamped.silent (offers : after.offers = before.offers)
    (clock : after.sampleClock = before.sampleClock) : Stamped before after [] where
  offers := by simpa using offers
  session := by rw [clock]
  sessions := by simp
  ascending := .nil
  lower := by simp
  upper := by simp
  advance := by rw [clock]

theorem Stamped.trans (first : Stamped before middle earlier)
    (second : Stamped middle after later) : Stamped before after (earlier ++ later) where
  offers := by rw [second.offers, first.offers, List.append_assoc]
  session := second.session.trans first.session
  sessions := by
    intro frame member
    cases List.mem_append.mp member with
    | inl old => exact first.sessions frame old
    | inr new => exact (second.sessions frame new).trans first.session
  ascending := by
    rw [List.pairwise_append]
    refine ⟨first.ascending, second.ascending, ?_⟩
    intro old member new found
    exact Nat.lt_of_lt_of_le (first.upper old member) (second.lower new found)
  lower := by
    intro frame member
    cases List.mem_append.mp member with
    | inl old => exact first.lower frame old
    | inr new => exact Nat.le_trans first.advance (second.lower frame new)
  upper := by
    intro frame member
    cases List.mem_append.mp member with
    | inl old => exact Nat.lt_of_lt_of_le (first.upper frame old) second.advance
    | inr new => exact second.upper frame new
  advance := Nat.le_trans first.advance second.advance

theorem Stamped.offer {acquisition : Acquisition}
    (offers : after.offers = before.offers ++ [(acquisition.assess cli before.sampleClock).1])
    (clock : after.sampleClock = (acquisition.assess cli before.sampleClock).2) :
    Stamped before after [(acquisition.assess cli before.sampleClock).1] where
  offers := offers
  session := by
    rw [clock]
    rfl
  sessions := fun frame member => by
    rw [List.mem_singleton.mp member]
    rfl
  ascending := List.pairwise_singleton _ _
  lower := fun frame member => by
    rw [List.mem_singleton.mp member]
    exact Nat.le_refl _
  upper := fun frame member => by
    rw [List.mem_singleton.mp member, clock]
    exact Nat.lt_succ_self _
  advance := by
    rw [clock]
    exact Nat.le_succ _

theorem stamped_acquire (cli : Cli) (s : Supervisor) (acquisition : Acquisition) :
    Stamped s (s.acquire cli acquisition).2 [] where
  offers := by simp [acquire, Supervisor.offers]
  session := rfl
  sessions := by simp
  ascending := .nil
  lower := by simp
  upper := by simp
  advance := Nat.le_succ _

theorem stamped_reassess (cli : Cli) (s : Supervisor) (outcome : ActuatorOutcome)
    (acquisition : Acquisition) :
    Stamped s (s.reassessAfterActuation cli outcome acquisition)
      [(acquisition.assess cli s.sampleClock).1] := by
  refine Stamped.offer ?_ rfl
  simp only [reassessAfterActuation, storeSafety_offers, evaluate_offers]
  congr 1
  exact recordActuator_offers s outcome

theorem stamped_complete (cli : Cli) (s : Supervisor) (flags : TickFlags) (slot : Slot)
    (finished : Option TaskResult) (reassessment : Acquisition) :
    let done := completeActuation cli slot slot.succeeded slot.failed s flags finished reassessment
    ∃ frames, Stamped s done.1 frames ∧
      (done.2.evaluatedThisIter = false → flags.evaluatedThisIter = false ∧
        done.1.offers = s.offers ∧ done.1.sampleClock = s.sampleClock) := by
  intro done
  have completion : Completion cli slot s flags reassessment done :=
    completeActuation_completion cli slot s flags finished reassessment
  clear_value done
  cases completion with
  | nothing => exact ⟨[], .silent rfl rfl, fun unset => ⟨unset, rfl, rfl⟩⟩
  | succeeded _ =>
    have vacated : Stamped s (s.emptied slot) [] := .silent rfl rfl
    have stamped := stamped_reassess cli (s.emptied slot) slot.succeeded reassessment
    exact ⟨_, vacated.trans stamped, fun unset => by contradiction⟩
  | failed error _ =>
    have quiet : ((s.emptied slot).recordActuator (slot.failed error)).offers = s.offers := by
      rw [recordActuator_offers, emptied_offers]
    exact ⟨[], .silent quiet rfl, fun unset => ⟨unset, quiet, rfl⟩⟩

theorem stamped_finished (s : Supervisor) (input : Iteration) :
    let done := s.completeFinished cli input
    ∃ frames, Stamped s done.1 frames ∧
      (done.2.evaluatedThisIter = false → done.1.offers = s.offers ∧
        done.1.sampleClock = s.sampleClock) := by
  obtain ⟨earlier, brake, quietBrake⟩ := stamped_complete cli s .clear .brake
    input.brakeFinished input.brakeReassessment
  obtain ⟨later, release, quietRelease⟩ := stamped_complete cli
    (s.completeBrake cli .clear input).1 (s.completeBrake cli .clear input).2 .release
    input.releaseFinished input.releaseReassessment
  refine ⟨earlier ++ later, brake.trans release, ?_⟩
  intro unset
  obtain ⟨unsetBrake, sameOffers, sameClock⟩ := quietRelease unset
  obtain ⟨_, offers, clock⟩ := quietBrake unsetBrake
  exact ⟨sameOffers.trans offers, sameClock.trans clock⟩

theorem evaluateTick_offers {flags : TickFlags} (unset : flags.evaluatedThisIter = false)
    (s : Supervisor) (telemetry : TelemetryFrame) :
    (s.evaluateTick flags telemetry).1.offers = s.offers ++ [telemetry] := by
  simp only [evaluateTick, unset, Bool.false_eq_true, if_false]
  split
  next => exact evaluate_offers s telemetry
  next => exact note_offers s (.offered telemetry)

theorem evaluateTick_sampleClock (s : Supervisor) (flags : TickFlags)
    (telemetry : TelemetryFrame) :
    (s.evaluateTick flags telemetry).1.sampleClock = s.sampleClock := by
  simp only [evaluateTick]
  split
  next => rfl
  next => split <;> rfl

-- A tick that was reassessed drops its own frame, which is older than the reassessed ones.
theorem stamped_iterate (cli : Cli) (s : Supervisor) (input : Iteration) :
    ∃ frames, Stamped s (s.iterate cli input) frames := by
  have started : Stamped s (s.begin input.retryGateFree) [] := .silent (by simp) (by simp)
  have ready : Stamped s (s.ready cli input) [] :=
    started.trans (stamped_acquire cli _ input.acquisition)
  obtain ⟨frames, completed, quiet⟩ := stamped_finished (s.ready cli input) input
  let done := (s.ready cli input).completeFinished cli input
  let judged := done.1.evaluateTick done.2 (s.telemetry cli input)
  have finish : Stamped judged.1 (s.iterate cli input) [] := by
    rw [iterate_eq]
    refine .silent ?_ ?_
    · exact dispatch_offers judged.1 input.dispatchGateFree judged.2.dispatchDue
    · exact dispatch_sampleClock judged.1 input.dispatchGateFree judged.2.dispatchDue
  cases evaluated : done.2.evaluatedThisIter with
  | true =>
    have same : judged = done := by
      simp [judged, evaluateTick, evaluated]
    rw [same] at finish
    exact ⟨_, (ready.trans completed).trans finish⟩
  | false =>
    obtain ⟨offers, clock⟩ := quiet evaluated
    have told : Stamped (s.begin input.retryGateFree) judged.1 [s.telemetry cli input] := by
      refine Stamped.offer ?_ ?_
      · rw [evaluateTick_offers evaluated, offers]
        rfl
      · rw [evaluateTick_sampleClock, clock]
        rfl
    exact ⟨_, (started.trans told).trans finish⟩

theorem iterate_idle_offers (s : Supervisor) {input : Iteration}
    (idle : ∀ slot, input.finished slot = none) :
    (s.iterate cli input).offers =
      s.offers ++ [(input.acquisition.assess cli s.sampleClock).1] := by
  have done : (s.ready cli input).completeFinished cli input = (s.ready cli input, .clear) :=
    completeFinished_idle cli input (fun slot => .inr (idle slot))
  have ready : (s.ready cli input).offers = s.offers := by
    exact begin_offers s input.retryGateFree
  have unset : TickFlags.clear.evaluatedThisIter = false := rfl
  rw [iterate_eq, done]
  refine (dispatch_offers _ _ _).trans ?_
  rw [evaluateTick_offers unset, ready]
  simp [telemetry, acquire]

end Supervisor

namespace Startup

theorem initial_offers (startup : Startup) : startup.initial.offers = [] := by
  unfold initial Supervisor.seedStartupBrake
  split <;> rfl

theorem initial_sampleClock (startup : Startup) :
    startup.initial.sampleClock = .withSessionId
      (if startup.cli.ipcSessionId = "" then startup.generatedSessionId
        else startup.cli.ipcSessionId) := by
  unfold initial Supervisor.seedStartupBrake
  split <;> rfl

theorem stamped_reachable (startup : Startup) {s : Supervisor}
    (reachable : startup.system.Reachable s) :
    Supervisor.Stamped startup.initial s s.offers := by
  refine reachable.invariant (fun s => Supervisor.Stamped startup.initial s s.offers) ?_ ?_
  · intro s initially
    obtain rfl := initially
    rw [initial_offers]
    exact .silent rfl rfl
  · intro before input after _ stamped step
    obtain rfl := step
    obtain ⟨frames, next⟩ := Supervisor.stamped_iterate startup.cli before input
    rw [next.offers]
    exact stamped.trans next

end Startup

end ThalamicRelay
