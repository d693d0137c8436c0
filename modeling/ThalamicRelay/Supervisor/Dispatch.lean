import ThalamicRelay.Safety.Machine

set_option autoImplicit false

namespace ThalamicRelay

structure Slots (Task : Type) where
  brakeTask : Option Task
  releaseTask : Option Task
  deriving DecidableEq, Repr

inductive Slot
  | brake
  | release

namespace Slots

variable {Task : Type}

def empty : Slots Task where
  brakeTask := none
  releaseTask := none

def isEmpty (slots : Slots Task) : Bool :=
  slots.brakeTask.isNone && slots.releaseTask.isNone

def get (slots : Slots Task) : Slot → Option Task
  | .brake => slots.brakeTask
  | .release => slots.releaseTask

def take (slots : Slots Task) : Slot → Slots Task
  | .brake => { slots with brakeTask := none }
  | .release => { slots with releaseTask := none }

def Exclusive (slots : Slots Task) : Prop :=
  slots.brakeTask = none ∨ slots.releaseTask = none

theorem isEmpty_iff {slots : Slots Task} :
    slots.isEmpty = true ↔ slots.brakeTask = none ∧ slots.releaseTask = none := by
  simp only [isEmpty, Bool.and_eq_true, Option.isNone_iff_eq_none]

theorem isEmpty_iff_get {slots : Slots Task} :
    slots.isEmpty = true ↔ ∀ slot, slots.get slot = none := by
  rw [isEmpty_iff]
  constructor
  · rintro ⟨brake, release⟩ slot
    cases slot with
    | brake => exact brake
    | release => exact release
  · intro none
    exact ⟨none .brake, none .release⟩

theorem get_isEmpty {slots : Slots Task} {slot : Slot}
    (occupied : (slots.get slot).isSome = true) : slots.isEmpty = false := by
  rw [← Bool.not_eq_true, isEmpty_iff_get]
  intro none
  rw [none slot] at occupied
  exact absurd occupied (by simp)

theorem Exclusive.releaseTask {slots : Slots Task} (exclusive : slots.Exclusive)
    (applying : slots.brakeTask.isSome = true) : slots.releaseTask = none := by
  rcases exclusive with idle | idle
  · rw [idle] at applying
    exact absurd applying (by simp)
  · exact idle

theorem Exclusive.brakeTask {slots : Slots Task} (exclusive : slots.Exclusive)
    (releasing : slots.releaseTask.isSome = true) : slots.brakeTask = none := by
  rcases exclusive with idle | idle
  · exact idle
  · rw [idle] at releasing
    exact absurd releasing (by simp)

theorem take_exclusive (slots : Slots Task) (slot : Slot) : (slots.take slot).Exclusive := by
  cases slot with
  | brake => exact .inl rfl
  | release => exact .inr rfl

theorem Exclusive.take_empty {slots : Slots Task} {slot : Slot} (exclusive : slots.Exclusive)
    (occupied : (slots.get slot).isSome = true) : slots.take slot = empty := by
  cases slot with
  | brake => simp only [take, empty, exclusive.releaseTask occupied]
  | release => simp only [take, empty, exclusive.brakeTask occupied]

end Slots

inductive DispatchResult
  | spawned
  | gateBusy
  | alreadyInFlight
  | noIntent
  deriving DecidableEq, Repr

/-- The permit argument is what try_enter returns: the task it would start, or none when busy. -/
def spawnIntent {Task : Type} (snap : SafetySnapshot) (permit : Option Task)
    (slots : Slots Task) : DispatchResult × Slots Task :=
  if slots.brakeTask.isSome ∨ slots.releaseTask.isSome then (.alreadyInFlight, slots)
  else match snap.intent, permit with
  | .none, _ => (.noIntent, slots)
  | .apply, none | .release, none => (.gateBusy, slots)
  | .apply, some task => (.spawned, { slots with brakeTask := some task })
  | .release, some task => (.spawned, { slots with releaseTask := some task })

structure DispatchState (Task : Type) where
  slots : Slots Task
  pending : Option BrakeIntent
  deriving DecidableEq, Repr

def dispatchDueOrPending {Task : Type} (snap : SafetySnapshot) (permit : Option Task) (due : Bool)
    (attempt : DispatchState Task) : Option DispatchResult × DispatchState Task :=
  let pending := if attempt.pending = some snap.intent then attempt.pending else none
  if due = false ∧ pending = none then (none, { attempt with pending := none })
  else
    let (result, slots) := spawnIntent snap permit attempt.slots
    (some result,
      { slots := slots
        pending :=
          match result with
          | .gateBusy => some snap.intent
          | .spawned | .alreadyInFlight | .noIntent => none })

section Spawn

variable {Task : Type} (snap : SafetySnapshot) (permit : Option Task)

theorem spawnIntent_cases (slots : Slots Task) :
    (spawnIntent snap permit slots = (.alreadyInFlight, slots) ∧ slots.isEmpty = false) ∨
    (slots.isEmpty = true ∧
      ((spawnIntent snap permit slots = (.noIntent, slots) ∧ snap.intent = .none) ∨
      (spawnIntent snap permit slots = (.gateBusy, slots) ∧ snap.intent ≠ .none ∧ permit = none) ∨
      (∃ task, permit = some task ∧
        ((snap.intent = .apply ∧
            spawnIntent snap permit slots = (.spawned, { slots with brakeTask := some task })) ∨
          (snap.intent = .release ∧
            spawnIntent snap permit slots =
              (.spawned, { slots with releaseTask := some task })))))) := by
  obtain ⟨brakeTask, releaseTask⟩ := slots
  cases brakeTask <;> cases releaseTask <;> cases permit <;> cases intent : snap.intent <;>
    simp [spawnIntent, Slots.isEmpty, intent]

theorem spawnIntent_exclusive {slots : Slots Task} (exclusive : slots.Exclusive) :
    (spawnIntent snap permit slots).2.Exclusive := by
  rcases spawnIntent_cases snap permit slots with
    ⟨same, _⟩ | ⟨empty, ⟨same, _⟩ | ⟨same, _⟩ | ⟨task, _, ⟨_, same⟩ | ⟨_, same⟩⟩⟩
  · rw [same]
    exact exclusive
  · rw [same]
    exact exclusive
  · rw [same]
    exact exclusive
  · rw [same]
    exact .inr (Slots.isEmpty_iff.mp empty).2
  · rw [same]
    exact .inl (Slots.isEmpty_iff.mp empty).1

theorem dispatch_idle {due : Bool} {attempt : DispatchState Task}
    (idle : due = false ∧ attempt.pending ≠ some snap.intent) :
    dispatchDueOrPending snap permit due attempt = (none, { attempt with pending := none }) := by
  simp [dispatchDueOrPending, idle.1, idle.2]

theorem dispatch_attempted {due : Bool} {attempt : DispatchState Task}
    (asked : due = true ∨ attempt.pending = some snap.intent) :
    dispatchDueOrPending snap permit due attempt =
      let (result, slots) := spawnIntent snap permit attempt.slots
      (some result,
        { slots := slots
          pending := if result = .gateBusy then some snap.intent else none }) := by
  have wanted : ¬ (due = false ∧ (if attempt.pending = some snap.intent then attempt.pending
      else none) = none) := by
    rcases asked with due | same
    · simp [due]
    · simp [same]
  simp only [dispatchDueOrPending, if_neg wanted]
  cases (spawnIntent snap permit attempt.slots).1 <;> rfl

theorem dispatch_slots (due : Bool) (attempt : DispatchState Task) :
    let after := dispatchDueOrPending snap permit due attempt
    (after.1 ≠ some .spawned ∧ after.2.slots = attempt.slots) ∨
    (after.1 = some .spawned ∧ attempt.slots.isEmpty = true ∧ ∃ task,
      (snap.intent = .apply ∧ after.2.slots = { attempt.slots with brakeTask := some task }) ∨
      (snap.intent = .release ∧
        after.2.slots = { attempt.slots with releaseTask := some task })) := by
  intro after
  by_cases asked : due = true ∨ attempt.pending = some snap.intent
  · simp only [after, dispatch_attempted snap permit asked]
    rcases spawnIntent_cases snap permit attempt.slots with
      ⟨same, _⟩ | ⟨empty, ⟨same, _⟩ | ⟨same, _⟩ | ⟨task, _, ⟨intent, same⟩ | ⟨intent, same⟩⟩⟩
    · simp [same]
    · simp [same]
    · simp [same]
    · exact .inr ⟨by rw [same], empty, task, .inl ⟨intent, by rw [same]⟩⟩
    · exact .inr ⟨by rw [same], empty, task, .inr ⟨intent, by rw [same]⟩⟩
  · rw [not_or, Bool.not_eq_true] at asked
    simp [after, dispatch_idle snap permit asked]

theorem dispatch_due_apply {attempt : DispatchState Task} (empty : attempt.slots.isEmpty = true) :
    let after := (dispatchDueOrPending snap permit true attempt).2
    (after.slots.brakeTask.isSome = true ∨ after.pending = some .apply) ↔ snap.intent = .apply := by
  intro after
  obtain ⟨⟨brakeTask, releaseTask⟩, pending⟩ := attempt
  obtain ⟨rfl, rfl⟩ := Slots.isEmpty_iff.mp empty
  simp only [after, dispatch_attempted snap permit (.inl rfl)]
  cases permit <;> cases intent : snap.intent <;> simp [spawnIntent, intent]

end Spawn

end ThalamicRelay
