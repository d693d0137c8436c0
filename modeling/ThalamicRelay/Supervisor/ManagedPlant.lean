import ThalamicRelay.Actuator.Fleet
import ThalamicRelay.Supervisor.Plant
import ThalamicRelay.Supervisor.Verdicts

set_option autoImplicit false

namespace ThalamicRelay

open Transition

def Slot.call : Slot → ActuatorCall
  | .brake => .applyEmergencyBrake
  | .release => .releaseEmergencyBrake

def Attempt.working : Attempt where
  targetResolved := true
  currentReadable := true
  defaultReadable := true
  command := .succeeds

namespace PowerLimits

def Managed (limits : PowerLimits) : Prop :=
  ∃ target, unambiguousBrakeTarget limits.defaultW brakeFraction = some target ∧
    ownership limits.currentW.toNat limits.defaultW.toNat target.toNat ≠ .foreign

def Enforces (limits : PowerLimits) : Slot → Prop
  | .brake => limits.Braked
  | .release => limits.limitMw = limits.defaultW * 1000

theorem managed_apply {limits : PowerLimits} (managed : limits.Managed) (attempt : Attempt) :
    (limits.applyEmergencyBrake attempt).2.Managed := by
  rcases limits.apply_written attempt with same | ⟨target, known, _, written⟩
  next => rwa [same]
  next =>
    have bounds := unambiguousBrakeTarget_bounds known
    rw [written]
    refine ⟨target, known, ?_⟩
    rw [set_currentW limits (by omega)]
    have braked : ownership target.toNat limits.defaultW.toNat target.toNat = .braked :=
      ownership_braked.mpr ⟨Nat.le_add_right _ _, Nat.le_add_right _ _⟩
    exact fun foreign => nomatch braked.symm.trans foreign

theorem managed_release {limits : PowerLimits} (managed : limits.Managed) (attempt : Attempt) :
    (limits.releaseEmergencyBrake attempt).2.Managed := by
  rcases limits.release_written attempt with same | ⟨_, written⟩
  next => rwa [same]
  next =>
    obtain ⟨target, known, _⟩ := managed
    rw [written]
    refine ⟨target, known, ?_⟩
    rw [set_currentW limits (Nat.le_refl _)]
    change ownership limits.defaultW.toNat limits.defaultW.toNat target.toNat ≠ .foreign
    simp [ownership]
    split_ifs <;> simp

theorem apply_working {limits : PowerLimits} (managed : limits.Managed) :
    (limits.applyEmergencyBrake .working).1 = .ok := by
  obtain ⟨target, known, owned⟩ := managed
  have plan := planBrakeApply_ownership limits.currentW known
  simp only [applyEmergencyBrake, Attempt.working, query]
  cases owner : ownership limits.currentW.toNat limits.defaultW.toNat target.toNat with
  | braked =>
    rw [owner] at plan
    simp [plan]
  | atDefault =>
    rw [owner] at plan
    simp [plan, runPowerLimitCommand]
  | foreign => exact absurd owner owned

theorem release_working {limits : PowerLimits} (braked : limits.Braked) :
    (limits.releaseEmergencyBrake .working).1 = .ok := by
  obtain ⟨target, known, owner⟩ := braked_iff.mp braked
  have plan := planBrakeRelease_ownership limits.currentW known
  rw [owner] at plan
  simp [releaseEmergencyBrake, Attempt.working, query, plan, runPowerLimitCommand]

theorem release_enforces {limits : PowerLimits} {attempt : Attempt}
    (succeeded : (limits.releaseEmergencyBrake attempt).1 = .ok) :
    (limits.releaseEmergencyBrake attempt).2.Enforces .release := by
  simp only [releaseEmergencyBrake] at succeeded ⊢
  split at succeeded
  next => simp at succeeded
  next resolved =>
    rw [if_neg resolved]
    cases plan : planBrakeRelease (query attempt.currentReadable limits.currentW)
        (query attempt.defaultReadable limits.defaultW) with
    | error error => simp [plan] at succeeded
    | ok limitW =>
      obtain ⟨_, rfl⟩ := planBrakeRelease_ok plan
      simp only [plan] at succeeded ⊢
      rw [runPowerLimitCommand_ok succeeded]
      rfl

theorem perform_managed {limits : PowerLimits} (managed : limits.Managed) (call : ActuatorCall)
    (attempt : Attempt) : (limits.perform call attempt).2.Managed := by
  cases call with
  | applyEmergencyBrake => exact managed_apply managed attempt
  | releaseEmergencyBrake => exact managed_release managed attempt

theorem perform_enforces {limits : PowerLimits} {slot : Slot} {attempt : Attempt}
    (succeeded : (limits.perform slot.call attempt).1 = .ok) :
    (limits.perform slot.call attempt).2.Enforces slot := by
  cases slot with
  | brake => exact apply_braked succeeded
  | release => exact release_enforces succeeded

end PowerLimits

namespace Plant

theorem work_cases (p : Plant) (input : PlantInput) :
    p.work input = (p.outcome, p.limits) ∨
    (p.outcome = none ∧ ∃ slot attempt, input.attempt = some attempt ∧
      ((p.slots input).get slot).isSome = true ∧
      p.work input = (some (p.limits.perform slot.call attempt).1,
        (p.limits.perform slot.call attempt).2)) := by
  simp only [work]
  split
  next attempt outcome attempted =>
    split
    next applying => exact .inr ⟨outcome, .brake, attempt, attempted, applying, rfl⟩
    next =>
      split
      next releasing => exact .inr ⟨outcome, .release, attempt, attempted, releasing, rfl⟩
      next => exact .inl (by rw [outcome])
  next => exact .inl rfl

theorem work_isSome {p : Plant} {input : PlantInput} {slot : Slot}
    (occupied : ((p.slots input).get slot).isSome = true)
    (attempted : input.attempt.isSome = true) : (p.work input).1.isSome = true := by
  obtain ⟨attempt, attempted⟩ := Option.isSome_iff_exists.mp attempted
  simp only [work, attempted]
  cases p.outcome with
  | some result => rfl
  | none =>
    cases slot with
    | brake =>
      have applying : (p.slots input).brakeTask.isSome = true := occupied
      simp [applying]
    | release =>
      have releasing : (p.slots input).releaseTask.isSome = true := occupied
      simp only [releasing, if_true]
      split <;> rfl

structure Sound (policy : SafetyPolicy) (p : Plant) : Prop where
  core : RelayCore.Inv policy p.supervisor.core
  inv : p.Inv
  managed : p.limits.Managed
  enforced : ∀ slot, (p.supervisor.attempt.slots.get slot).isSome = true → p.outcome = some .ok →
    p.limits.Enforces slot

variable {cli : Cli} {policy : SafetyPolicy} {p : Plant} {input : PlantInput}

theorem Sound.begun (sound : p.Sound policy) (cli : Cli) (input : PlantInput) :
    RelayCore.Inv policy (p.supervisor.ready cli (p.iteration input)).core :=
  Supervisor.ready_inv sound.core cli (p.iteration input)

theorem Sound.work_enforces (sound : p.Sound policy) (cli : Cli) {slot : Slot}
    (occupied : ((p.slots input).get slot).isSome = true) (done : (p.work input).1 = some .ok) :
    (p.work input).2.Enforces slot := by
  rcases p.work_cases input with same | ⟨_, worker, attempt, _, working, result⟩
  next =>
    rw [same] at done ⊢
    refine sound.enforced slot ?_ done
    cases held : p.supervisor.attempt.slots.isEmpty with
    | true =>
      rw [sound.inv.quiet held] at done
      simp at done
    | false => rwa [slots, Supervisor.begin_slots_occupied _ held] at occupied
  next =>
    have exclusive : (p.slots input).Exclusive := (sound.begun cli input).exclusive
    obtain rfl := exclusive.unique working occupied
    rw [result] at done ⊢
    exact PowerLimits.perform_enforces (Option.some.inj done)

theorem step_uncollected (cli : Cli)
    (idle : ∀ slot, (p.slots input).get slot = none ∨ p.finished input = none) :
    (p.step cli input).supervisor.machine.brakeEngaged = p.supervisor.machine.brakeEngaged ∧
    ((p.step cli input).supervisor.attempt.slots = p.slots input ∨
      (p.slots input).isEmpty = true) := by
  refine Supervisor.iterate_idle fun slot => (idle slot).imp_right fun uncollected => ?_
  rw [finished_slot, uncollected, ite_self]

theorem Sound.step (sound : p.Sound policy) (cli : Cli) (clean : ¬ p.AmbiguousRelease input) :
    (p.step cli input).Sound policy where
  core := RelayCore.inv_steps sound.core (Supervisor.iterate_steps _ _)
  inv := inv_step sound.core sound.inv clean
  managed := by
    change (p.work input).2.Managed
    rcases p.work_cases input with same | ⟨_, slot, attempt, _, _, result⟩
    next =>
      rw [same]
      exact sound.managed
    next =>
      rw [result]
      exact PowerLimits.perform_managed sound.managed slot.call attempt
  enforced := by
    intro slot occupied done
    have worked := worked cli sound.core sound.inv clean
    cases collected : p.finished input with
    | some result => simp [Plant.step, collected] at done
    | none =>
      have done : (p.work input).1 = some .ok := by simpa [Plant.step, collected] using done
      rcases (step_uncollected cli fun _ => .inr collected).2 with same | empty
      next =>
        rw [same] at occupied
        exact sound.work_enforces cli occupied done
      next =>
        rw [worked.quiet empty] at done
        simp at done

theorem Sound.collected_slot (sound : p.Sound policy) (cli : Cli)
    (clean : ¬ p.AmbiguousRelease input) {result : TaskResult}
    (collected : p.finished input = some result) :
    ∃ slot, ((p.slots input).get slot).isSome = true ∧
      (p.iteration input).finished slot = some result := by
  have worked := worked cli sound.core sound.inv clean
  have done : (p.work input).1 = some result := by
    simp only [finished] at collected
    split at collected
    next => exact collected
    next => simp at collected
  by_cases empty : (p.slots input).isEmpty = true
  next =>
    rw [worked.quiet empty] at done
    simp at done
  next =>
    rw [Slots.isEmpty_iff_get, not_forall] at empty
    obtain ⟨slot, occupied⟩ := empty
    have occupied := Option.isSome_iff_ne_none.mpr occupied
    refine ⟨slot, occupied, ?_⟩
    rw [finished_slot, if_pos occupied, collected]

end Plant

namespace Installation

theorem sound_reachable {site : Installation} (managed : site.limits.Managed) {p : Plant}
    (reachable : site.cleanSystem.Reachable p) : p.Sound site.policy := by
  refine reachable.invariant (Plant.Sound site.policy) ?_ ?_
  next =>
    intro first initially
    obtain rfl : first = site.initial := initially
    refine ⟨supervisor_inv (.start rfl), site.inv_initial, managed, ?_⟩
    intro slot _ done
    simp [initial] at done
  next =>
    rintro before input after _ sound ⟨clean, rfl⟩
    exact sound.step site.cli clean

end Installation

end ThalamicRelay
