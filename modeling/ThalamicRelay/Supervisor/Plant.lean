import ThalamicRelay.Actuator.Hardware
import ThalamicRelay.Supervisor.Iteration

set_option autoImplicit false

namespace ThalamicRelay

open Transition

/-- The supervisor, the device it is the only writer of, and what the worker in flight has already
returned. -/
structure Plant where
  supervisor : Supervisor
  limits : PowerLimits
  outcome : Option TaskResult

/-- The worker may run before the loop looks for finished tasks and be collected later. The two
finished fields of the iteration are not read: the worker decides them. -/
structure PlantInput where
  iteration : Iteration
  attempt : Option Attempt
  collected : Bool

structure Installation where
  cli : Cli
  policy : SafetyPolicy
  generatedSessionId : String
  limits : PowerLimits
  currentReadable : Bool
  defaultReadable : Bool

def Installation.startup (site : Installation) : Startup where
  cli := site.cli
  policy := site.policy
  generatedSessionId := site.generatedSessionId
  currentW := PowerLimits.query site.currentReadable site.limits.currentW
  defaultW := PowerLimits.query site.defaultReadable site.limits.defaultW

namespace Plant

def slots (p : Plant) (input : PlantInput) : Slots ActuationTask :=
  (p.supervisor.begin input.iteration.retryGateFree).attempt.slots

def work (p : Plant) (input : PlantInput) : Option TaskResult × PowerLimits :=
  match p.outcome, input.attempt with
  | none, some attempt =>
    if (p.slots input).brakeTask.isSome then
      let (result, limits) := p.limits.applyEmergencyBrake attempt
      (some result, limits)
    else if (p.slots input).releaseTask.isSome then
      let (result, limits) := p.limits.releaseEmergencyBrake attempt
      (some result, limits)
    else (none, p.limits)
  | outcome, _ => (outcome, p.limits)

def finished (p : Plant) (input : PlantInput) : Option TaskResult :=
  if input.collected then (p.work input).1 else none

def iteration (p : Plant) (input : PlantInput) : Iteration :=
  { input.iteration with
    brakeFinished := if (p.slots input).brakeTask.isSome then p.finished input else none
    releaseFinished := if (p.slots input).releaseTask.isSome then p.finished input else none }

def step (cli : Cli) (p : Plant) (input : PlantInput) : Plant where
  supervisor := p.supervisor.iterate cli (p.iteration input)
  limits := (p.work input).2
  outcome := if (p.finished input).isSome then none else (p.work input).1

end Plant

namespace Installation

def initial (site : Installation) : Plant where
  supervisor := site.startup.initial
  limits := site.limits
  outcome := none

def system (site : Installation) : System Plant PlantInput :=
  .ofFunction (fun p => p = site.initial) (Plant.step site.cli)

def refinesSupervisor (site : Installation) : Simulation site.system site.startup.system where
  relation := fun p s => p.supervisor = s
  initial := by
    intro p first
    exact ⟨p.supervisor, by rw [first]; rfl, rfl⟩
  step := by
    intro before input after image same stepped
    refine ⟨[before.iteration input], after.supervisor, .single ?_, rfl⟩
    rw [← same, ← stepped]
    rfl

end Installation

namespace Plant

def AmbiguousRelease (p : Plant) (input : PlantInput) : Prop :=
  (p.slots input).releaseTask.isSome = true ∧ p.outcome = none ∧
  ∃ attempt, input.attempt = some attempt ∧ attempt.command.Ambiguous ∧
    attempt.targetResolved = true ∧
    ∃ limitW, planBrakeRelease (PowerLimits.query attempt.currentReadable p.limits.currentW)
      (PowerLimits.query attempt.defaultReadable p.limits.defaultW) = .ok limitW

structure Inv (p : Plant) : Prop where
  braked : p.supervisor.machine.brakeEngaged = true → p.outcome ≠ some .ok → p.limits.Braked
  applied : p.supervisor.attempt.slots.brakeTask.isSome = true → p.outcome = some .ok →
    p.limits.Braked
  quiet : p.supervisor.attempt.slots.isEmpty = true → p.outcome = none

structure Worked (p : Plant) (input : PlantInput) : Prop where
  braked : p.supervisor.machine.brakeEngaged = true → (p.work input).1 ≠ some .ok →
    (p.work input).2.Braked
  applied : (p.slots input).brakeTask.isSome = true → (p.work input).1 = some .ok →
    (p.work input).2.Braked
  quiet : (p.slots input).isEmpty = true → (p.work input).1 = none

variable {policy : SafetyPolicy}

theorem slots_isEmpty {p : Plant} {input : PlantInput} (empty : (p.slots input).isEmpty = true) :
    p.supervisor.attempt.slots.isEmpty = true := by
  by_contra occupied
  rw [Bool.not_eq_true] at occupied
  rw [slots, Supervisor.begin_slots_occupied _ occupied, occupied] at empty
  exact absurd empty (by decide)

theorem worked_earlier {p : Plant} {input : PlantInput} (inv : Inv p)
    (same : p.work input = (p.outcome, p.limits)) : Worked p input := by
  have quiet : (p.slots input).isEmpty = true → p.outcome = none :=
    fun empty => inv.quiet (slots_isEmpty empty)
  constructor
  · rw [same]
    exact inv.braked
  · rw [same]
    intro task done
    cases occupied : p.supervisor.attempt.slots.isEmpty with
    | true =>
      rw [inv.quiet occupied] at done
      exact absurd done (by simp)
    | false =>
      rw [slots, Supervisor.begin_slots_occupied _ occupied] at task
      exact inv.applied task done
  · rw [same]
    exact quiet

theorem worked_applying (cli : Cli) {p : Plant} {input : PlantInput} (attempt : Attempt)
    (core : RelayCore.Inv policy p.supervisor.core)
    (applying : (p.slots input).brakeTask.isSome = true)
    (result : p.work input =
      (some (p.limits.applyEmergencyBrake attempt).1, (p.limits.applyEmergencyBrake attempt).2)) :
    Worked p input := by
  have begun := Supervisor.ready_inv core cli (p.iteration input)
  constructor
  · intro engaged _
    have free := begun.applying applying
    have same : p.supervisor.machine.brakeEngaged = false := by
      rw [← Supervisor.ready_machine cli p.supervisor (p.iteration input)]
      exact free
    rw [same] at engaged
    exact absurd engaged (by decide)
  · intro _ done
    rw [result] at done ⊢
    exact PowerLimits.apply_braked (Option.some.inj done)
  · intro empty
    rw [(Slots.isEmpty_iff.mp empty).1] at applying
    exact absurd applying (by decide)

theorem worked_releasing (cli : Cli) {p : Plant} {input : PlantInput} {attempt : Attempt}
    (core : RelayCore.Inv policy p.supervisor.core) (inv : Inv p)
    (clean : ¬ p.AmbiguousRelease input)
    (releasing : (p.slots input).releaseTask.isSome = true) (outcome : p.outcome = none)
    (attempted : input.attempt = some attempt)
    (result : p.work input =
      (some (p.limits.releaseEmergencyBrake attempt).1,
        (p.limits.releaseEmergencyBrake attempt).2)) :
    Worked p input := by
  have begun := Supervisor.ready_inv core cli (p.iteration input)
  constructor
  · intro engaged failed
    rw [result] at failed ⊢
    have clear : ¬ (attempt.command.Ambiguous ∧ attempt.targetResolved = true ∧
        ∃ limitW, planBrakeRelease (PowerLimits.query attempt.currentReadable p.limits.currentW)
          (PowerLimits.query attempt.defaultReadable p.limits.defaultW) = .ok limitW) :=
      fun ambiguous => clean ⟨releasing, outcome, attempt, attempted, ambiguous⟩
    rw [PowerLimits.release_unchanged clear (fun same => failed (by rw [same]))]
    exact inv.braked engaged (by simp [outcome])
  · intro applying _
    have idle : (p.slots input).brakeTask = none := begun.exclusive.brakeTask releasing
    rw [idle] at applying
    exact absurd applying (by decide)
  · intro empty
    rw [(Slots.isEmpty_iff.mp empty).2] at releasing
    exact absurd releasing (by decide)

theorem worked (cli : Cli) {p : Plant} {input : PlantInput}
    (core : RelayCore.Inv policy p.supervisor.core) (inv : Inv p)
    (clean : ¬ p.AmbiguousRelease input) : Worked p input := by
  cases outcome : p.outcome with
  | some result => exact worked_earlier inv (by simp only [work, outcome])
  | none =>
    cases attempted : input.attempt with
    | none => exact worked_earlier inv (by simp only [work, outcome, attempted])
    | some attempt =>
      by_cases applying : (p.slots input).brakeTask.isSome = true
      · exact worked_applying cli attempt core applying
          (by simp only [work, outcome, attempted, if_pos applying])
      · by_cases releasing : (p.slots input).releaseTask.isSome = true
        · exact worked_releasing cli core inv clean releasing outcome attempted
            (by simp only [work, outcome, attempted, if_neg applying, if_pos releasing])
        · exact worked_earlier inv
            (by simp only [work, outcome, attempted, if_neg applying, if_neg releasing])

theorem finished_slot {p : Plant} {input : PlantInput} (slot : Slot) :
    (p.iteration input).finished slot =
      if ((p.slots input).get slot).isSome then p.finished input else none := by
  cases slot <;> rfl

theorem inv_collected {cli : Cli} {p : Plant} {input : PlantInput}
    (core : RelayCore.Inv policy p.supervisor.core) (worked : Worked p input) {result : TaskResult}
    (collected : p.finished input = some result) : Inv (p.step cli input) := by
  have begun := Supervisor.ready_inv core cli (p.iteration input)
  have done : (p.work input).1 = some result := by
    simp only [finished] at collected
    split at collected
    · exact collected
    · simp at collected
  have outcome : (p.step cli input).outcome = none := by simp [step, collected]
  obtain ⟨slot, occupied⟩ : ∃ slot, ((p.slots input).get slot).isSome = true := by
    by_contra none
    simp only [not_exists, Option.not_isSome_iff_eq_none] at none
    have empty : (p.slots input).isEmpty = true := Slots.isEmpty_iff_get.mpr none
    rw [worked.quiet empty] at done
    exact absurd done (by simp)
  have claim : (p.step cli input).supervisor.machine.brakeEngaged =
      Supervisor.claimAfter slot result p.supervisor.machine.brakeEngaged := by
    refine Supervisor.iterate_finished begun.exclusive occupied ?_
    rw [finished_slot, if_pos occupied, collected]
  refine ⟨?_, ?_, fun _ => outcome⟩
  · intro engaged _
    rw [claim] at engaged
    cases slot with
    | brake =>
      cases result with
      | ok => exact worked.applied occupied done
      | err | panicked => exact absurd engaged (by simp [Supervisor.claimAfter])
    | release =>
      cases result with
      | ok => exact absurd engaged (by simp [Supervisor.claimAfter])
      | err | panicked => exact worked.braked engaged (by simp [done])
  · intro _ ok
    rw [outcome] at ok
    exact absurd ok (by simp)

theorem inv_uncollected {cli : Cli} {p : Plant} {input : PlantInput} (worked : Worked p input)
    (uncollected : p.finished input = none) : Inv (p.step cli input) := by
  have outcome : (p.step cli input).outcome = (p.work input).1 := by simp [step, uncollected]
  obtain ⟨claim, slots⟩ : (p.step cli input).supervisor.machine.brakeEngaged =
      p.supervisor.machine.brakeEngaged ∧
      ((p.step cli input).supervisor.attempt.slots = p.slots input ∨
        (p.slots input).isEmpty = true) := by
    refine Supervisor.iterate_idle (fun slot => .inr ?_)
    rw [finished_slot, uncollected, ite_self]
  refine ⟨?_, ?_, ?_⟩
  · rw [claim, outcome]
    exact worked.braked
  · rw [outcome]
    intro task done
    rcases slots with same | empty
    · rw [same] at task
      exact worked.applied task done
    · rw [worked.quiet empty] at done
      exact absurd done (by simp)
  · rw [outcome]
    intro empty
    rcases slots with same | none
    · rw [same] at empty
      exact worked.quiet empty
    · exact worked.quiet none

theorem inv_step {cli : Cli} {p : Plant} {input : PlantInput}
    (core : RelayCore.Inv policy p.supervisor.core) (inv : Inv p)
    (clean : ¬ p.AmbiguousRelease input) : Inv (p.step cli input) := by
  have worked := worked cli core inv clean
  cases collected : p.finished input with
  | none => exact inv_uncollected worked collected
  | some result => exact inv_collected core worked collected

end Plant

namespace Installation

theorem inv_initial (site : Installation) : site.initial.Inv := by
  refine ⟨?_, ?_, fun _ => rfl⟩
  · intro engaged _
    simp only [initial, startup, Startup.initial, Supervisor.seedStartupBrake] at engaged ⊢
    split at engaged
    next brake owned => exact PowerLimits.braked_of_seeded owned
    all_goals exact absurd engaged (by simp [Supervisor.fresh, SafetyMachine.withPolicy])
  · intro _ ok
    exact absurd ok (by simp [initial])

def cleanSystem (site : Installation) : System Plant PlantInput :=
  site.system.restrict (fun p input => ¬ p.AmbiguousRelease input)

-- Every invariant of the supervisor alone holds of the supervisor in its plant.
theorem supervisor_inv {site : Installation} {p : Plant} (reachable : site.system.Reachable p) :
    RelayCore.Inv site.policy p.supervisor.core := by
  obtain ⟨s, reached, same⟩ := site.refinesSupervisor.reachable reachable
  have same : p.supervisor = s := same
  rw [same]
  exact site.startup.inv_reachable reached

theorem inv_reachable {site : Installation} {p : Plant} (reachable : site.cleanSystem.Reachable p) :
    p.Inv := by
  refine reachable.invariant Plant.Inv ?_ ?_
  · intro first initially
    rw [show first = site.initial from initially]
    exact site.inv_initial
  · intro before input after reached inv stepped
    rw [← show before.step site.cli input = after from stepped.2]
    exact Plant.inv_step (supervisor_inv reached.unrestricted) inv stepped.1

theorem claimed_brake_matches_hardware (site : Installation) (p : Plant)
    (reachable : site.cleanSystem.Reachable p)
    (quiet : p.supervisor.attempt.slots.isEmpty = true) (kind : AssessmentKind)
    (last : lastKind p.supervisor.log = some kind) (unsafeKind : kind.failsClosed = true)
    (unbraked : ¬ p.limits.Braked) : p.supervisor.machine.snapshot.intent = .apply := by
  have core := supervisor_inv reachable.unrestricted
  have inv := inv_reachable reachable
  have free : p.supervisor.machine.brakeEngaged = false := by
    by_contra engaged
    rw [Bool.not_eq_false] at engaged
    exact unbraked (inv.braked engaged (by simp [inv.quiet quiet]))
  obtain ⟨claimed, judged⟩ := core.judged kind last
  rw [SafetyMachine.snapshot_intent, intentFrom_apply]
  refine ⟨?_, free⟩
  have judged : p.supervisor.machine.lastPolicyState = kind.policyState claimed := judged
  simp only [SafetyMachine.desiredFromLastPolicy]
  rw [judged]
  cases kind <;> simp_all [AssessmentKind.policyState, AssessmentKind.failsClosed]

def run (site : Installation) (inputs : List PlantInput) : Plant :=
  inputs.foldl (Plant.step site.cli) site.initial

theorem clean_run (site : Installation) {inputs : List PlantInput}
    (clean : ∀ input ∈ inputs, ∀ attempt ∈ input.attempt, ¬ attempt.command.Ambiguous) :
    site.cleanSystem.Reachable (site.run inputs) := by
  induction inputs using List.reverseRecOn with
  | nil => exact .start rfl
  | append_singleton inputs input ih =>
    simp only [List.mem_append, List.mem_singleton] at clean
    rw [run, List.foldl_append]
    refine (ih fun input member => clean input (.inl member)).step ⟨?_, rfl⟩
    rintro ⟨_, _, attempt, attempted, ambiguous, _⟩
    exact clean input (.inr rfl) attempt attempted ambiguous

def leftover : Installation where
  cli := (Startup.leftover .eagerPolicy).cli
  policy := .eagerPolicy
  generatedSessionId := ""
  limits := { limitMw := 200000, defaultMw := 400000 }
  currentReadable := true
  defaultReadable := true

-- The release is killed by its timeout after it wrote; the frame read meanwhile is unavailable.
def ambiguousRelease : List PlantInput :=
  [{ iteration := .cool, attempt := none, collected := false },
   { iteration := .blocked, attempt := some (.running (.fails true)), collected := true }]

theorem ambiguous_release_strands_claim :
    let p := leftover.run ambiguousRelease
    p.supervisor.attempt.slots.isEmpty = true ∧ lastKind p.supervisor.log = some .missing ∧
      ¬ p.limits.Braked ∧ p.supervisor.machine.snapshot.intent = .none := by
  decide +kernel

-- The release restores 400 W; the apply that an unavailable frame asks for then writes nothing.
def failedApply : List PlantInput :=
  [{ iteration := .cool, attempt := none, collected := false },
   { iteration := .cool, attempt := some (.running .succeeds), collected := true },
   { iteration := .blocked, attempt := none, collected := false },
   { iteration := .reading .busy, attempt := some (.running (.fails false)), collected := true }]

theorem claimed_brake_matches_failedApply :
    (leftover.run failedApply).supervisor.machine.snapshot.intent = .apply := by
  have clean : leftover.cleanSystem.Reachable (leftover.run failedApply) :=
    leftover.clean_run (by decide)
  exact claimed_brake_matches_hardware leftover _ clean (by decide +kernel) .missing
    (by decide +kernel) rfl (by decide +kernel)

-- A device at its own limit, so nothing is adopted at the start.
def unbraked : Installation :=
  { leftover with limits := { limitMw := 400000, defaultMw := 400000 } }

end Installation

end ThalamicRelay
