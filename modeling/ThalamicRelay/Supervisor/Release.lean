import ThalamicRelay.Supervisor.Iteration

set_option autoImplicit false

namespace ThalamicRelay

open History

def Event.isEvaluated : Event → Bool
  | .evaluated _ _ => true
  | .seeded | .recorded _ | .offered _ | .spawned _ => false

theorem Event.mark_counts {event : Event} (counts : event.mark = .counts) :
    event.isEvaluated = true := by
  cases event with
  | evaluated kind snap => rfl
  | seeded | offered | spawned => simp [mark] at counts
  | recorded outcome => cases outcome <;> simp [mark] at counts

theorem Event.mark_evaluated {kind : AssessmentKind} {snap : SafetySnapshot}
    (kept : Event.mark (.evaluated kind snap) ≠ .resets) :
    kind = .ok ∧ snap.brakeEngaged = true := by
  cases kind with
  | ok =>
    by_cases engaged : snap.brakeEngaged = true
    · exact ⟨rfl, engaged⟩
    · simp [mark, engaged] at kept
  | _ => simp [mark] at kept

namespace Startup

theorem release_authorized (startup : Startup) (inputs : List Iteration)
    (newer older : List Event) (snap : SafetySnapshot)
    (spawned : (startup.run inputs).log = newer ++ .spawned snap :: older)
    (release : snap.intent = .release) :
    snap.brakeEngaged = true ∧
    ∃ recent earlier, older = recent ++ earlier ∧
      (∀ event ∈ recent, event ≠ .seeded ∧ event ≠ .recorded .applied) ∧
      (∀ kind seen, .evaluated kind seen ∈ recent → kind = .ok ∧ seen.brakeEngaged = true) ∧
      startup.policy.config.releaseOkStreak ≤ recent.countP Event.isEvaluated := by
  have authorized := (startup.inv inputs).authorized newer _ older spawned
  obtain ⟨engaged, recent, earlier, split, kept, counted⟩ := authorized snap rfl release
  refine ⟨engaged, recent, earlier, split, ?_, ?_, ?_⟩
  · intro event member
    have unbroken := kept event member
    constructor
    · intro seeded
      exact unbroken (by rw [seeded]; rfl)
    · intro applied
      exact unbroken (by rw [applied]; rfl)
  · intro kind seen member
    exact Event.mark_evaluated (kept _ member)
  · refine counted.trans (List.countP_mono_left ?_)
    intro event _ counts
    exact Event.mark_counts (of_decide_eq_true counts)

def releasedFirst (log : List Event) : Bool :=
  match log with
  | .spawned snap :: _ => snap.intent = .release
  | _ => false

theorem release_authorized_leftover :
    ∃ snap older, ((leftover .eagerPolicy).run [.cool]).log = .spawned snap :: older ∧
      snap.intent = .release ∧ snap.brakeEngaged = true ∧ 1 ≤ older.countP Event.isEvaluated := by
  have spawned : releasedFirst ((leftover .eagerPolicy).run [.cool]).log = true := by
    decide +kernel
  cases split : ((leftover .eagerPolicy).run [.cool]).log with
  | nil => simp [split, releasedFirst] at spawned
  | cons event older =>
    rw [split] at spawned
    cases event with
    | spawned snap =>
      have release : snap.intent = .release := by simpa [releasedFirst] using spawned
      obtain ⟨engaged, recent, earlier, rfl, _, _, counted⟩ :=
        release_authorized (leftover .eagerPolicy) [.cool] [] older snap split release
      refine ⟨snap, _, rfl, release, engaged, ?_⟩
      rw [List.countP_append]
      have streak : (leftover .eagerPolicy).policy.config.releaseOkStreak = 1 := rfl
      omega
    | _ => simp [releasedFirst] at spawned

end Startup

-- The clock stamps the frame; the classification never reads the stamp.
theorem Acquisition.kindOf_assess (cli : Cli) (acquisition : Acquisition) (m : SafetyMachine)
    (first second : SampleClock) :
    m.kindOf (acquisition.assess cli first).1 = m.kindOf (acquisition.assess cli second).1 := rfl

theorem SafetyMachine.released_apply (m : SafetyMachine) (frame : TelemetryFrame) :
    ((m.recordActuator .released).2.evaluate frame).2.snapshot.intent = .apply ↔
      (m.kindOf frame).failsClosed = true := by
  rw [snapshot_intent, intentFrom_apply, evaluate_desiredFromLastPolicy, evaluate_brakeEngaged]
  have same : (m.recordActuator .released).2.kindOf frame = m.kindOf frame := rfl
  rw [same]
  cases m.kindOf frame <;> simp [demand, AssessmentKind.failsClosed]

theorem Supervisor.iterate_released (cli : Cli) {s : Supervisor} {input : Iteration}
    (exclusive : s.attempt.slots.Exclusive)
    (inFlight : s.attempt.slots.releaseTask.isSome = true)
    (completed : input.releaseFinished = some .ok) :
    let after := s.iterate cli input
    let frame := (input.releaseReassessment.assess cli (s.ready cli input).sampleClock).1
    lastKind after.log = some (s.machine.kindOf frame) ∧
    ((after.attempt.slots.brakeTask.isSome = true ∨ after.attempt.pending = some .apply) ↔
      (s.machine.kindOf frame).failsClosed = true) := by
  intro after frame
  have occupied : (s.attempt.slots.get .release).isSome = true := inFlight
  have slots := ready_slots_occupied cli input (Slots.get_isEmpty occupied)
  let done := ((s.ready cli input).emptied .release).reassessAfterActuation cli .released
    input.releaseReassessment
  have reached : after =
      (done.dispatch input.dispatchGateFree true).recordAcquired (s.telemetry cli input) :=
    iterate_succeeded exclusive occupied completed
  have machine : done.machine = ((s.machine.recordActuator .released).2.evaluate frame).2 := by
    rw [← ready_machine cli s input]
    rfl
  have empty : done.attempt.slots.isEmpty = true := by
    have taken : done.attempt.slots = (s.ready cli input).attempt.slots.take .release := rfl
    rw [taken, slots, exclusive.take_empty occupied]
    rfl
  constructor
  · have last : lastKind after.log = lastKind done.log := by
      rw [reached]
      exact dispatch_lastKind done input.dispatchGateFree true
    rw [last, ← ready_machine cli s input]
    rfl
  · have attempt : after.attempt = (dispatchDueOrPending done.machine.snapshot
        (tryEnter input.dispatchGateFree) true done.attempt).2 := by
      rw [reached]
      exact dispatch_attempt done input.dispatchGateFree true
    have spawns := dispatch_due_apply done.machine.snapshot (tryEnter input.dispatchGateFree) empty
    rw [← attempt, machine] at spawns
    exact spawns.trans (SafetyMachine.released_apply s.machine frame)

namespace Startup

theorem run_snoc (startup : Startup) (inputs : List Iteration) (input : Iteration) :
    startup.run (inputs ++ [input]) = (startup.run inputs).iterate startup.cli input := by
  simp only [run, List.foldl_append, List.foldl_cons, List.foldl_nil]

theorem released_reapplies_iff (startup : Startup) (inputs : List Iteration) (input : Iteration)
    (inFlight : (startup.run inputs).attempt.slots.releaseTask.isSome = true)
    (completed : input.releaseFinished = some .ok) :
    let before := startup.run inputs
    let after := startup.run (inputs ++ [input])
    let kind := before.machine.kindOf
      (input.releaseReassessment.assess startup.cli before.sampleClock).1
    lastKind after.log = some kind ∧
    ((kind = .warn ∨ kind.failsClosed = true →
      after.attempt.slots.brakeTask.isSome = true ∨ after.attempt.pending = some .apply) ↔
        kind ≠ .warn) := by
  intro before after kind
  have released := Supervisor.iterate_released startup.cli (startup.inv inputs).exclusive
    inFlight completed
  rw [← run_snoc] at released
  obtain ⟨last, reapplied⟩ := released
  have same : before.machine.kindOf (input.releaseReassessment.assess startup.cli
      (before.ready startup.cli input).sampleClock).1 = kind :=
    input.releaseReassessment.kindOf_assess startup.cli before.machine _ _
  rw [same] at reapplied
  refine ⟨last, ?_⟩
  rw [reapplied]
  cases kind <;> decide

def releaseCompletes (temp power : F32) : Iteration :=
  { Iteration.reading (.nvml temp power) with releaseFinished := some .ok }

-- The restored default limit stays in the warning band with no apply on its way.
theorem warm_release_not_reapplied :
    let before := (leftover .eagerPolicy).run [.cool]
    let after := (leftover .eagerPolicy).run [.cool, releaseCompletes (.finite 78) (.finite 200)]
    before.attempt.slots.releaseTask.isSome = true ∧ lastKind after.log = some .warn ∧
      ¬ (after.attempt.slots.brakeTask.isSome = true ∨ after.attempt.pending = some .apply) := by
  decide +kernel

theorem released_reapplies_hot :
    let after := (leftover .eagerPolicy).run [.cool, releaseCompletes (.finite 90) (.finite 200)]
    after.attempt.slots.brakeTask.isSome = true ∨ after.attempt.pending = some .apply := by
  intro after
  have inFlight :
      ((leftover .eagerPolicy).run [.cool]).attempt.slots.releaseTask.isSome = true := by
    decide +kernel
  have reapplies := released_reapplies_iff (leftover .eagerPolicy) [.cool]
    (releaseCompletes (.finite 90) (.finite 200)) inFlight rfl
  have hot : ((leftover .eagerPolicy).run [.cool]).machine.kindOf
      ((releaseCompletes (.finite 90) (.finite 200)).releaseReassessment.assess
        (leftover .eagerPolicy).cli ((leftover .eagerPolicy).run [.cool]).sampleClock).1 =
      .critical := by decide +kernel
  exact reapplies.2.mpr (by rw [hot]; decide) (.inr (by rw [hot]; rfl))

end Startup

end ThalamicRelay
