import ThalamicRelay.Safety.FailClosed
import ThalamicRelay.Supervisor.Release

set_option autoImplicit false

namespace ThalamicRelay

open History Transition

def AssessmentKind.Limitless (kind : AssessmentKind) : Prop :=
  kind = .simulated ∨ kind = .missing ∨ kind = .invalid ∨ kind = .stale

theorem classify_limitless {policy : SafetyPolicy} (unavailable : policy.powerLimitsW = none)
    (frame : TelemetryFrame) : (classifyFrameWithPolicy frame policy).kind.Limitless := by
  by_cases simulated : frame.source = .softwareFallback
  next => exact .inl (classify_simulated policy simulated)
  next =>
    cases found : worstSafetyFault frame with
    | some fault =>
      rw [classify_fault policy simulated found]
      exact .inr (worstSafetyFault_kind found)
    | none =>
      obtain ⟨⟨temp, tempUsable⟩, power, powerUsable⟩ := (worstSafetyFault_none frame).mp found
      rw [classify_usable policy simulated tempUsable powerUsable, unavailable]
      by_cases old : outdated frame policy
      next => simp [old, AssessmentKind.Limitless]
      next => simp [old, AssessmentKind.Limitless]

-- Both limits come from the operator or both from the device, or there are none.
theorem SafetyPolicyConfig.powerLimits_none {config : SafetyPolicyConfig}
    {deviceDefaultW : Option F32} {source : String} :
    config.powerLimits deviceDefaultW = .ok (none, source) ↔
      (config.powerWarnW = none ∧ config.powerCriticalW = none ∧ deviceDefaultW = none) ∧
        source = "unavailable" := by
  unfold powerLimits
  cases config.powerWarnW with
  | none =>
    cases config.powerCriticalW with
    | none =>
      cases deviceDefaultW with
      | none => simp [eq_comm]
      | some w =>
        dsimp only
        split_ifs <;> simp
    | some critical => simp
  | some warn =>
    cases config.powerCriticalW with
    | none => simp
    | some critical =>
      dsimp only
      split_ifs <;> simp

theorem SafetyPolicyConfig.resolve_ok {config : SafetyPolicyConfig} {deviceDefaultW : Option F32}
    {policy : SafetyPolicy} (resolved : config.resolve deviceDefaultW = .ok policy) :
    policy.config = config ∧
      config.validate deviceDefaultW = .ok (policy.powerLimitsW, policy.powerLimitSource) := by
  unfold resolve at resolved
  split at resolved
  next limits source accepted =>
    obtain rfl := Except.ok.inj resolved
    exact ⟨rfl, accepted⟩
  next => simp at resolved

theorem SafetyPolicyConfig.resolve_unavailable {config : SafetyPolicyConfig}
    {deviceDefaultW : Option F32} {policy : SafetyPolicy}
    (resolved : config.resolve deviceDefaultW = .ok policy) :
    policy.powerLimitsW = none ↔
      config.powerWarnW = none ∧ config.powerCriticalW = none ∧ deviceDefaultW = none := by
  have accepted := (validate_ok (resolve_ok resolved).2).2
  constructor
  next =>
    intro unavailable
    rw [unavailable] at accepted
    exact (powerLimits_none.mp accepted).1
  next =>
    intro unset
    rw [powerLimits_none.mpr ⟨unset, rfl⟩, Except.ok.injEq, Prod.mk.injEq] at accepted
    exact accepted.1.symm

namespace RelayCore

variable {policy : SafetyPolicy}

def Judged (c : RelayCore) : Prop :=
  ∀ kind snap, .evaluated kind snap ∈ c.log → kind.Limitless

theorem judged_evaluate (unavailable : policy.powerLimitsW = none) {c : RelayCore}
    (same : c.machine.policy = policy) (judged : c.Judged) (frame : TelemetryFrame) :
    (c.evaluate frame).Judged := by
  intro kind snap member
  simp only [evaluate, List.mem_cons, reduceCtorEq, false_or, Event.evaluated.injEq] at member
  rcases member with ⟨rfl, _⟩ | older
  next =>
    refine classify_limitless ?_ frame
    rw [same, unavailable]
  next => exact judged kind snap older

theorem judged_step (unavailable : policy.powerLimitsW = none) {c : RelayCore}
    (same : c.machine.policy = policy) (judged : c.Judged) (label : CoreStep) :
    (c.step label).Judged := by
  cases label with
  | offered frame => simpa [Judged, step] using judged
  | evaluated frame => exact judged_evaluate unavailable same judged frame
  | succeeded slot frame =>
    simp only [step]
    split
    next =>
      refine judged_evaluate unavailable ?_ ?_ frame
      next => simpa [recordActuator, take] using same
      next => simpa [Judged, recordActuator, take] using judged
    next => exact judged
  | failed slot error =>
    simp only [step]
    split
    next => simpa [Judged, recordActuator, take] using judged
    next => exact judged
  | dispatched gateFree due =>
    simp only [step, dispatch]
    split
    next => simpa [Judged] using judged
    next => exact judged

theorem judged_reachable (unavailable : policy.powerLimitsW = none) {c : RelayCore}
    (reachable : (system policy).Reachable c) : c.Judged := by
  refine reachable.invariant Judged ?_ ?_
  next =>
    rintro c ⟨seeded, rfl⟩
    cases seeded <;> simp [Judged, start]
  next =>
    rintro before label after reached judged rfl
    exact judged_step unavailable (inv_reachable reached).samePolicy judged label

theorem judged_mark {c : RelayCore} (judged : c.Judged) {event : Event} (member : event ∈ c.log) :
    event.mark ≠ .counts := by
  intro counts
  cases event with
  | evaluated kind snap =>
    have kept : Event.mark (.evaluated kind snap) ≠ .resets := by simp [counts]
    obtain ⟨rfl, _⟩ := Event.mark_evaluated kept
    have limitless := judged _ _ member
    simp [AssessmentKind.Limitless] at limitless
  | recorded outcome => cases outcome <;> simp [Event.mark] at counts
  | seeded | offered | spawned => simp [Event.mark] at counts

theorem judged_streak {mark : Event → Mark} {log : List Event}
    (uncounted : ∀ event ∈ log, mark event ≠ .counts) : streak mark log = 0 := by
  induction log with
  | nil => rfl
  | cons event older ih =>
    obtain ⟨now, before⟩ := List.forall_mem_cons.mp uncounted
    simp only [streak]
    cases marked : mark event with
    | counts => exact absurd marked now
    | resets => rfl
    | neutral => exact ih before

theorem judged_unreleased {c : RelayCore} (inv : Inv policy c) (judged : c.Judged)
    {snap : SafetySnapshot} (spawned : .spawned snap ∈ c.log) : snap.intent ≠ .release := by
  intro release
  obtain ⟨newer, older, split⟩ := List.append_of_mem spawned
  obtain ⟨_, recent, earlier, same, _, counted⟩ :=
    inv.authorized newer _ older split snap rfl release
  have none : recent.countP (Event.mark · = .counts) = 0 := by
    rw [List.countP_eq_zero]
    intro event member
    have logged : event ∈ c.log := by
      rw [split, same]
      simp [member]
    simpa using judged_mark judged logged
  have positive := policy.ordered.streak
  omega

-- Nothing can be recorded against a claimed brake but the end of a release.
theorem claim_kept {c : RelayCore} (inv : Inv policy c) (judged : c.Judged)
    (claimed : c.machine.brakeEngaged = true) (label : CoreStep) :
    (c.step label).machine.brakeEngaged = true := by
  have idle (slot : Slot) : c.attempt.slots.get slot = none := by
    rw [← Option.not_isSome_iff_eq_none]
    intro occupied
    cases slot with
    | brake =>
      rw [inv.applying occupied] at claimed
      exact absurd claimed (by decide)
    | release =>
      obtain ⟨snap, spawned, release⟩ := inv.dispatched occupied
      exact judged_unreleased inv judged spawned release
  cases label with
  | offered frame => exact claimed
  | evaluated frame => exact (SafetyMachine.evaluate_brakeEngaged _ _).trans claimed
  | succeeded slot frame | failed slot error => simpa [step, idle slot] using claimed
  | dispatched gateFree due => exact claimed

end RelayCore

namespace Startup

theorem claim_kept (startup : Startup) (unavailable : startup.policy.powerLimitsW = none)
    (earlier later : List Iteration)
    (claimed : (startup.run earlier).machine.brakeEngaged = true) :
    (startup.run (earlier ++ later)).machine.brakeEngaged = true := by
  induction later using List.reverseRecOn with
  | nil => simpa using claimed
  | append_singleton inputs input ih =>
    rw [← List.append_assoc, run_snoc]
    have steps : RelayCore.Steps startup.policy (startup.run (earlier ++ inputs)).core
        ((startup.run (earlier ++ inputs)).iterate startup.cli input).core :=
      Supervisor.iterate_steps (startup.run (earlier ++ inputs)) input
    obtain ⟨labels, run⟩ := steps
    have reached := startup.core_reachable (startup.run_reachable (earlier ++ inputs))
    refine (run.invariant (fun c => (RelayCore.system startup.policy).Reachable c ∧
      c.machine.brakeEngaged = true) ?_ ⟨reached, ih⟩).2
    rintro before label after ⟨reached, claimed⟩ rfl
    exact ⟨reached.step rfl, RelayCore.claim_kept (RelayCore.inv_reachable reached)
      (RelayCore.judged_reachable unavailable reached) claimed label⟩

theorem power_unavailable_never_releases (startup : Startup)
    (unavailable : startup.policy.powerLimitsW = none) (inputs : List Iteration) :
    let s := startup.run inputs
    (∀ kind snap, .evaluated kind snap ∈ s.log → kind.Limitless) ∧
    (∀ snap, .spawned snap ∈ s.log → snap.intent ≠ .release) ∧
    s.attempt.slots.releaseTask = none ∧ s.machine.okCount = 0 ∧
    (s.machine.brakeEngaged = true → ∀ later,
      (startup.run (inputs ++ later)).machine.brakeEngaged = true) := by
  intro s
  have inv := startup.inv inputs
  have judged : s.core.Judged :=
    RelayCore.judged_reachable unavailable (startup.core_reachable (startup.run_reachable inputs))
  refine ⟨judged, ?_, ?_, ?_, fun claimed later => startup.claim_kept unavailable inputs later
    claimed⟩
  next =>
    intro snap spawned
    exact RelayCore.judged_unreleased inv judged spawned
  next =>
    rw [← Option.not_isSome_iff_eq_none]
    intro occupied
    obtain ⟨snap, spawned, release⟩ := inv.dispatched occupied
    exact RelayCore.judged_unreleased inv judged spawned release
  next =>
    have counted := inv.counted
    rw [RelayCore.judged_streak fun event => RelayCore.judged_mark judged] at counted
    exact Nat.le_zero.mp counted

-- The device's default limit cannot be read, so no limits are derived and no brake is seeded.
def limitless : Startup :=
  { leftover
      { config := { powerWarnW := none }
        powerLimitsW := none
        powerLimitSource := "unavailable"
        validated := ⟨none, by decide +kernel⟩ } with
    defaultW := none }

-- The first cool reading asks for the brake, and its apply succeeds.
def brakeUnverified : List Iteration :=
  [.cool, { Iteration.cool with brakeFinished := some .ok }]

theorem power_unavailable_never_releases_claimed :
    let inputs := brakeUnverified ++ List.replicate 30 Iteration.cool
    (limitless.run inputs).attempt.slots.releaseTask = none ∧
      (limitless.run inputs).machine.okCount = 0 ∧
      (limitless.run inputs).machine.brakeEngaged = true := by
  intro inputs
  obtain ⟨_, _, idle, zero, _⟩ := power_unavailable_never_releases limitless rfl inputs
  obtain ⟨_, _, _, _, kept⟩ := power_unavailable_never_releases limitless rfl brakeUnverified
  have claimed : (limitless.run brakeUnverified).machine.brakeEngaged = true := by decide +kernel
  refine ⟨idle, zero, ?_⟩
  simp only [inputs]
  exact kept claimed _

end Startup

end ThalamicRelay
