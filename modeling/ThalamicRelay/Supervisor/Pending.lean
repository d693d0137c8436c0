import ThalamicRelay.Supervisor.Dispatch

set_option autoImplicit false

namespace ThalamicRelay

def BrakeIntent.slot : BrakeIntent → Option Slot
  | .none => Option.none
  | .apply => some .brake
  | .release => some .release

def Slots.holding {Task : Type} (slot : Slot) (task : Task) : Slots Task :=
  match slot with
  | .brake => { brakeTask := some task, releaseTask := none }
  | .release => { brakeTask := none, releaseTask := some task }

inductive DispatchStep
  | call (snap : SafetySnapshot) (due gateFree : Bool)
  | completed (slot : Slot)

def DispatchStep.Waits (intent : BrakeIntent) : DispatchStep → Prop
  | .call snap _ gateFree => snap.intent = intent ∧ gateFree = false
  | .completed _ => True

namespace DispatchState

-- A task is the intent its closure captured, which is what it will execute.
def call (attempt : DispatchState BrakeIntent) (snap : SafetySnapshot) (due gateFree : Bool) :
    Option DispatchResult × DispatchState BrakeIntent :=
  dispatchDueOrPending snap (if gateFree then some snap.intent else none) due attempt

def step (attempt : DispatchState BrakeIntent) : DispatchStep → DispatchState BrakeIntent
  | .call snap due gateFree => (attempt.call snap due gateFree).2
  | .completed slot => { attempt with slots := attempt.slots.take slot }

def run (attempt : DispatchState BrakeIntent) (steps : List DispatchStep) :
    DispatchState BrakeIntent :=
  steps.foldl step attempt

def Blocked (intent : BrakeIntent) (attempt : DispatchState BrakeIntent) : Prop :=
  attempt.pending = some intent ∧ attempt.slots.isEmpty = true

variable {attempt : DispatchState BrakeIntent} {snap : SafetySnapshot} {due gateFree : Bool}

theorem take_isEmpty {slots : Slots BrakeIntent} (empty : slots.isEmpty = true) (slot : Slot) :
    (slots.take slot).isEmpty = true := by
  obtain ⟨unapplied, unreleased⟩ := Slots.isEmpty_iff.mp empty
  cases slot <;> simp [Slots.take, Slots.isEmpty, unapplied, unreleased]

theorem call_slots (attempt : DispatchState BrakeIntent) (snap : SafetySnapshot)
    (due gateFree : Bool) :
    if (attempt.call snap due gateFree).1 = some .spawned then
      attempt.slots.isEmpty = true ∧ ∃ slot, snap.intent.slot = some slot ∧
        (attempt.call snap due gateFree).2.slots = .holding slot snap.intent
    else (attempt.call snap due gateFree).2.slots = attempt.slots := by
  by_cases asked : due = true ∨ attempt.pending = some snap.intent
  · simp only [call, dispatch_attempted snap _ asked]
    rcases spawnIntent_cases snap (if gateFree then some snap.intent else none) attempt.slots with
      ⟨same, _⟩ | ⟨empty, ⟨same, _⟩ | ⟨same, _⟩ | ⟨task, permit, placed⟩⟩
    · simp [same]
    · simp [same]
    · simp [same]
    · obtain ⟨unapplied, unreleased⟩ := Slots.isEmpty_iff.mp empty
      have captured : task = snap.intent := by
        cases gateFree <;> simp_all
      rcases placed with ⟨intent, same⟩ | ⟨intent, same⟩
      · simp only [same]
        simp [empty, captured, intent, BrakeIntent.slot, Slots.holding, unreleased]
      · simp only [same]
        simp [empty, captured, intent, BrakeIntent.slot, Slots.holding, unapplied]
  · simp only [not_or, Bool.not_eq_true] at asked
    simp [call, dispatch_idle snap _ asked]

theorem call_pending (attempt : DispatchState BrakeIntent) (snap : SafetySnapshot)
    (due gateFree : Bool) :
    (attempt.call snap due gateFree).2.pending = none ∨
      Blocked snap.intent (attempt.call snap due gateFree).2 := by
  by_cases asked : due = true ∨ attempt.pending = some snap.intent
  · simp only [call, dispatch_attempted snap _ asked]
    rcases spawnIntent_cases snap (if gateFree then some snap.intent else none) attempt.slots with
      ⟨same, _⟩ | ⟨empty, ⟨same, _⟩ | ⟨same, _⟩ | ⟨task, _, ⟨_, same⟩ | ⟨_, same⟩⟩⟩ <;>
        simp_all [Blocked]
  · simp only [not_or, Bool.not_eq_true] at asked
    simp [call, dispatch_idle snap _ asked]

theorem call_busy (asked : due = true ∨ attempt.pending = some snap.intent)
    (empty : attempt.slots.isEmpty = true) (wanted : snap.intent ≠ .none) :
    Blocked snap.intent (attempt.call snap due false).2 := by
  obtain ⟨unapplied, unreleased⟩ := Slots.isEmpty_iff.mp empty
  simp only [call, dispatch_attempted snap _ asked]
  cases intent : snap.intent <;>
    simp_all [Blocked, spawnIntent, Slots.isEmpty]

theorem call_free (asked : due = true ∨ attempt.pending = some snap.intent)
    (empty : attempt.slots.isEmpty = true) (wanted : snap.intent ≠ .none) :
    (attempt.call snap due true).1 = some .spawned := by
  obtain ⟨unapplied, unreleased⟩ := Slots.isEmpty_iff.mp empty
  simp only [call, dispatch_attempted snap _ asked]
  cases intent : snap.intent <;> simp_all [spawnIntent]

theorem step_blocked {intent : BrakeIntent} (wanted : intent ≠ .none)
    (blocked : Blocked intent attempt) {label : DispatchStep} (waits : label.Waits intent) :
    Blocked intent (attempt.step label) := by
  cases label with
  | call snap due gateFree =>
    obtain ⟨rfl, rfl⟩ := waits
    exact call_busy (.inr blocked.1) blocked.2 wanted
  | completed slot => exact ⟨blocked.1, take_isEmpty blocked.2 slot⟩

theorem run_blocked {intent : BrakeIntent} (wanted : intent ≠ .none)
    (blocked : Blocked intent attempt) {steps : List DispatchStep}
    (waits : ∀ label ∈ steps, label.Waits intent) : Blocked intent (attempt.run steps) := by
  induction steps generalizing attempt with
  | nil => exact blocked
  | cons label rest ih =>
    have stepped := step_blocked wanted blocked (waits label (by simp))
    exact ih stepped (fun label later => waits label (by simp [later]))

theorem run_completed (attempt : DispatchState BrakeIntent) (completions : List Slot) :
    (attempt.run (completions.map .completed)).pending = attempt.pending ∧
      (attempt.slots.isEmpty = true →
        (attempt.run (completions.map .completed)).slots.isEmpty = true) := by
  induction completions generalizing attempt with
  | nil => exact ⟨rfl, id⟩
  | cons slot rest ih =>
    obtain ⟨pending, slots⟩ := ih (attempt.step (.completed slot))
    exact ⟨pending, fun empty => slots (take_isEmpty empty slot)⟩

theorem gate_blocked_intent_kept (start : DispatchState BrakeIntent)
    (earlier : List DispatchStep) (snap : SafetySnapshot) (due gateFree : Bool) :
    let before := start.run earlier
    let after := (before.call snap due gateFree).2
    (if (before.call snap due gateFree).1 = some .spawned then
      before.slots.isEmpty = true ∧ ∃ slot, snap.intent.slot = some slot ∧
        after.slots = .holding slot snap.intent
    else after.slots = before.slots) ∧
    (due = true ∧ gateFree = false ∧ before.slots.isEmpty = true ∧ snap.intent ≠ .none →
      ∀ between : List DispatchStep, (∀ label ∈ between, label.Waits snap.intent) →
      ∀ (later : SafetySnapshot) (laterDue : Bool), later.intent = snap.intent →
        ((after.run between).call later laterDue true).1 = some .spawned ∧
        ∃ slot, snap.intent.slot = some slot ∧
          ((after.run between).call later laterDue true).2.slots = .holding slot snap.intent) ∧
    (after.pending = none ∨ after.pending = some snap.intent) ∧
    (∀ completions : List Slot,
      let now := after.run (completions.map .completed)
      now.pending.isSome = true → now.slots.isEmpty = true) := by
  intro before after
  refine ⟨call_slots before snap due gateFree, ?_, ?_, ?_⟩
  · rintro ⟨rfl, rfl, empty, wanted⟩ between waits later laterDue same
    have blocked : Blocked snap.intent after := call_busy (.inl rfl) empty wanted
    obtain ⟨pending, free⟩ := run_blocked wanted blocked waits
    have spawned : ((after.run between).call later laterDue true).1 = some .spawned :=
      call_free (.inr (by rw [pending, same])) free (by rw [same]; exact wanted)
    have placed := call_slots (after.run between) later laterDue true
    rw [if_pos spawned, same] at placed
    exact ⟨spawned, placed.2⟩
  · rcases call_pending before snap due gateFree with cleared | blocked
    · exact .inl cleared
    · exact .inr blocked.1
  · intro completions now pending
    obtain ⟨kept, slots⟩ := run_completed after completions
    simp only [now, kept] at pending
    rcases call_pending before snap due gateFree with cleared | blocked
    · exact absurd pending (by simp [after, cleared])
    · exact slots blocked.2

end DispatchState

end ThalamicRelay
