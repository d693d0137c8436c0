import ThalamicRelay.Safety.LibraryClient
import ThalamicRelay.Shared.History
import ThalamicRelay.Supervisor.Core

set_option autoImplicit false

namespace ThalamicRelay

open Transition History

/-- An evaluation counts when it was Ok with the brake claimed; claiming the brake starts again. -/
def Event.mark : Event → Mark
  | .evaluated .ok snap => if snap.brakeEngaged then .counts else .resets
  | .evaluated _ _ => .resets
  | .seeded | .recorded .applied => .resets
  | .recorded _ | .offered _ | .spawned _ => .neutral

def Event.Authorized (streak : Nat) (event : Event) (older : List Event) : Prop :=
  ∀ snap, event = .spawned snap → snap.intent = .release →
    snap.brakeEngaged = true ∧ Unbroken Event.mark streak older

namespace RelayCore

structure Settling (policy : SafetyPolicy) (c : RelayCore) : Prop where
  samePolicy : c.machine.policy = policy
  machine : c.machine.Inv
  exclusive : c.attempt.slots.Exclusive
  applying : c.attempt.slots.brakeTask.isSome = true → c.machine.brakeEngaged = false
  releasing : c.attempt.slots.releaseTask.isSome = true → c.machine.brakeEngaged = true
  idle : c.machine.brakeEngaged = false → c.machine.okCount = 0
  counted : c.machine.okCount ≤ streak Event.mark c.log
  authorized : Always (Event.Authorized policy.config.releaseOkStreak) c.log
  dispatched : c.attempt.slots.releaseTask.isSome = true →
    ∃ snap, .spawned snap ∈ c.log ∧ snap.intent = .release

structure Inv (policy : SafetyPolicy) (c : RelayCore) : Prop extends Settling policy c where
  calm : ¬ c.machine.Premature
  cleared : c.machine.justReleased = false
  judged : ∀ kind, lastKind c.log = some kind →
    ∃ engaged, c.machine.lastPolicyState = kind.policyState engaged

variable {policy : SafetyPolicy}

theorem inv_start (seeded : Bool) : Inv policy (start policy seeded) := by
  have machine := SafetyMachine.inv_start policy seeded
  cases seeded with
  | false =>
    exact
      { samePolicy := rfl
        machine := machine
        exclusive := .inl rfl
        applying := nofun
        releasing := nofun
        idle := fun _ => rfl
        counted := Nat.zero_le _
        authorized := .nil
        dispatched := nofun
        calm := fun premature => nomatch premature.2
        cleared := rfl
        judged := nofun }
  | true =>
    exact
      { samePolicy := rfl
        machine := machine
        exclusive := .inl rfl
        applying := nofun
        releasing := nofun
        idle := nofun
        counted := Nat.zero_le _
        authorized := .cons (fun _ seeded => by simp at seeded) .nil
        dispatched := nofun
        calm := fun premature => nomatch premature.1
        cleared := rfl
        judged := nofun }

theorem dispatched_older (newer : List Event) {older : List Event}
    (dispatched : ∃ snap, .spawned snap ∈ older ∧ snap.intent = .release) :
    ∃ snap, .spawned snap ∈ newer ++ older ∧ snap.intent = .release := by
  obtain ⟨snap, member, release⟩ := dispatched
  exact ⟨snap, List.mem_append_right newer member, release⟩

theorem authorized_other {streak : Nat} {event : Event} {older : List Event}
    (other : ∀ snap, event ≠ .spawned snap) : Event.Authorized streak event older := by
  intro snap same
  exact absurd same (other snap)

theorem inv_offered {c : RelayCore} (inv : Inv policy c) (frame : TelemetryFrame) :
    Inv policy (c.step (.offered frame)) :=
  { inv with
    counted := by
      rw [step, streak_neutral rfl]
      exact inv.counted
    authorized := .cons (authorized_other (by simp)) inv.authorized
    dispatched := fun task => dispatched_older [_] (inv.dispatched task) }

theorem evaluated_counted (c : RelayCore) (frame : TelemetryFrame)
    (counted : c.machine.okCount ≤ streak Event.mark c.log) :
    (c.evaluate frame).machine.okCount ≤ streak Event.mark (c.evaluate frame).log := by
  simp only [evaluate, SafetyMachine.evaluate_okCount]
  rw [streak_neutral rfl]
  by_cases good : c.machine.kindOf frame = .ok ∧ c.machine.brakeEngaged = true
  · have counts : Event.mark (.evaluated (c.machine.kindOf frame) (c.machine.evaluate frame).1) =
        .counts := by
      rw [good.1]
      have claimed : (c.machine.evaluate frame).1.brakeEngaged = true := by
        rw [SafetyMachine.evaluate_snapshot_brakeEngaged]
        exact good.2
      simp [Event.mark, claimed]
    rw [streak_counts counts, SafetyMachine.nextOkCount, if_pos good]
    exact (Saturating.increment_le _ _).trans (Nat.add_le_add_right counted 1)
  · rw [SafetyMachine.nextOkCount, if_neg good]
    exact Nat.zero_le _

theorem inv_evaluate {c : RelayCore} (settling : Settling policy c) (frame : TelemetryFrame) :
    Inv policy (c.evaluate frame) where
  samePolicy := by simp [evaluate, settling.samePolicy]
  machine := SafetyMachine.inv_evaluate c.machine frame
  exclusive := settling.exclusive
  applying := by simpa [evaluate] using settling.applying
  releasing := by simpa [evaluate] using settling.releasing
  idle := by
    intro free
    simp only [evaluate, SafetyMachine.evaluate_brakeEngaged] at free
    simp [evaluate, SafetyMachine.nextOkCount, free]
  counted := evaluated_counted c frame settling.counted
  authorized :=
    .cons (authorized_other (by simp)) (.cons (authorized_other (by simp)) settling.authorized)
  dispatched := fun task => dispatched_older [_, _] (settling.dispatched task)
  calm := SafetyMachine.evaluate_premature c.machine frame
  cleared := SafetyMachine.evaluate_justReleased c.machine frame
  judged := by
    intro kind last
    obtain rfl : c.machine.kindOf frame = kind := Option.some.inj last
    exact ⟨_, SafetyMachine.evaluate_lastPolicyState c.machine frame⟩

-- With the slot emptied, nothing is in flight when the outcome is recorded.
theorem settling_succeeded {c : RelayCore} (inv : Inv policy c) {slot : Slot}
    (occupied : (c.attempt.slots.get slot).isSome = true) :
    Settling policy ((c.take slot).recordActuator slot.succeeded) := by
  have empty := inv.exclusive.take_empty occupied
  have zero : c.machine.okCount = 0 ∨ slot = .release := by
    cases slot with
    | brake => exact .inl (inv.idle (inv.applying occupied))
    | release => exact .inr rfl
  exact
    { samePolicy := by simp [recordActuator, take, inv.samePolicy]
      machine := SafetyMachine.inv_recordActuator inv.machine _
      exclusive := .inl (by simp [recordActuator, take, empty, Slots.empty])
      applying := by simp [recordActuator, take, empty, Slots.empty]
      releasing := by simp [recordActuator, take, empty, Slots.empty]
      idle := by cases slot <;> simp [recordActuator, take, Slot.succeeded]
      counted := by
        rcases zero with zero | rfl
        · cases slot <;> simp [recordActuator, take, Slot.succeeded, zero]
        · simp [recordActuator, take, Slot.succeeded]
      authorized := .cons (authorized_other (by simp)) inv.authorized
      dispatched := by simp [recordActuator, take, empty, Slots.empty] }

theorem inv_failed {c : RelayCore} (inv : Inv policy c) {slot : Slot} (error : String)
    (occupied : (c.attempt.slots.get slot).isSome = true) :
    Inv policy ((c.take slot).recordActuator (slot.failed error)) := by
  have empty := inv.exclusive.take_empty occupied
  exact
    { samePolicy := by simp [recordActuator, take, inv.samePolicy]
      machine := SafetyMachine.inv_recordActuator inv.machine _
      exclusive := .inl (by simp [recordActuator, take, empty, Slots.empty])
      applying := by simp [recordActuator, take, empty, Slots.empty]
      releasing := by simp [recordActuator, take, empty, Slots.empty]
      idle := by
        cases slot with
        | brake => simp [recordActuator, take, Slot.failed, inv.idle (inv.applying occupied)]
        | release => simpa [recordActuator, take, Slot.failed] using inv.idle
      counted := by
        cases slot <;>
          simpa [recordActuator, take, Slot.failed, streak, Event.mark] using inv.counted
      authorized := .cons (authorized_other (by simp)) inv.authorized
      dispatched := by simp [recordActuator, take, empty, Slots.empty]
      calm := by
        cases slot with
        | brake => simp [recordActuator, take, Slot.failed, SafetyMachine.Premature]
        | release =>
          simpa [recordActuator, take, Slot.failed, SafetyMachine.Premature] using inv.calm
      cleared := by
        cases slot <;> simpa [recordActuator, take, Slot.failed] using inv.cleared
      judged := by
        cases slot <;> simpa [recordActuator, take, Slot.failed, lastKind] using inv.judged }

theorem snapshot_release {c : RelayCore} (inv : Inv policy c)
    (release : c.machine.snapshot.intent = .release) :
    c.machine.brakeEngaged = true ∧ policy.config.releaseOkStreak ≤ c.machine.okCount := by
  have authorized := (SafetyMachine.snapshot_authorized_iff inv.machine).mpr inv.calm
  rw [inv.samePolicy] at authorized
  exact authorized release

theorem snapshot_apply {m : SafetyMachine} (apply : m.snapshot.intent = .apply) :
    m.brakeEngaged = false :=
  ((intentFrom_apply _ _).mp apply).2

theorem inv_spawned {c : RelayCore} (inv : Inv policy c) (attempt : DispatchState ActuationTask)
    (exclusive : attempt.slots.Exclusive)
    (applying : attempt.slots.brakeTask.isSome = true → c.machine.snapshot.intent = .apply)
    (releasing : attempt.slots.releaseTask.isSome = true → c.machine.snapshot.intent = .release) :
    Inv policy { c with attempt := attempt, log := .spawned c.machine.snapshot :: c.log } :=
  { inv with
    exclusive := exclusive
    applying := fun task => snapshot_apply (applying task)
    releasing := fun task => (snapshot_release inv (releasing task)).1
    counted := inv.counted
    authorized := by
      refine .cons ?_ inv.authorized
      intro snap same release
      obtain rfl : c.machine.snapshot = snap := by simpa using same
      obtain ⟨engaged, enough⟩ := snapshot_release inv release
      exact ⟨engaged, (unbroken_streak _ _).weaken (enough.trans inv.counted)⟩
    dispatched := fun task => ⟨_, List.mem_cons_self, releasing task⟩ }

theorem inv_dispatch {c : RelayCore} (inv : Inv policy c) (gateFree due : Bool) :
    Inv policy (c.dispatch gateFree due) := by
  simp only [dispatch]
  rcases dispatch_slots c.machine.snapshot (Supervisor.tryEnter gateFree) due c.attempt with
    ⟨other, same⟩ | ⟨spawned, empty, task, ⟨intent, filled⟩ | ⟨intent, filled⟩⟩
  · rw [if_neg other]
    exact
      { inv with
        exclusive := by rw [same]; exact inv.exclusive
        applying := by rw [same]; exact inv.applying
        releasing := by rw [same]; exact inv.releasing
        dispatched := by rw [same]; exact inv.dispatched }
  · rw [if_pos spawned]
    have idle := (Slots.isEmpty_iff.mp empty).2
    refine inv_spawned inv _ (.inr ?_) (fun _ => intent) ?_ <;> simp [filled, idle]
  · rw [if_pos spawned]
    have idle := (Slots.isEmpty_iff.mp empty).1
    refine inv_spawned inv _ (.inl ?_) ?_ (fun _ => intent) <;> simp [filled, idle]

theorem inv_step {c : RelayCore} (inv : Inv policy c) (label : CoreStep) :
    Inv policy (c.step label) := by
  cases label with
  | offered frame => exact inv_offered inv frame
  | evaluated frame => exact inv_evaluate inv.toSettling frame
  | succeeded slot frame =>
    by_cases occupied : (c.attempt.slots.get slot).isSome = true
    · rw [step, if_pos occupied]
      exact inv_evaluate (settling_succeeded inv occupied) frame
    · rw [step, if_neg occupied]
      exact inv
  | failed slot error =>
    by_cases occupied : (c.attempt.slots.get slot).isSome = true
    · rw [step, if_pos occupied]
      exact inv_failed inv error occupied
    · rw [step, if_neg occupied]
      exact inv
  | dispatched gateFree due => exact inv_dispatch inv gateFree due

theorem inv_steps {before after : RelayCore} (inv : Inv policy before)
    (steps : Steps policy before after) : Inv policy after := by
  obtain ⟨labels, run⟩ := steps
  refine run.invariant (Inv policy) ?_ inv
  intro before label after inv stepped
  rw [← stepped]
  exact inv_step inv label

theorem inv_reachable {c : RelayCore} (reachable : (system policy).Reachable c) :
    Inv policy c := by
  obtain ⟨first, labels, ⟨seeded, rfl⟩, run⟩ := reachable
  exact inv_steps (inv_start seeded) ⟨labels, run⟩

end RelayCore

namespace Startup

theorem inv_reachable (startup : Startup) {s : Supervisor}
    (reachable : startup.system.Reachable s) :
    RelayCore.Inv startup.policy s.core :=
  RelayCore.inv_reachable (startup.core_reachable reachable)

theorem inv (startup : Startup) (inputs : List Iteration) :
    RelayCore.Inv startup.policy (startup.run inputs).core :=
  startup.inv_reachable (startup.run_reachable inputs)

end Startup

end ThalamicRelay
