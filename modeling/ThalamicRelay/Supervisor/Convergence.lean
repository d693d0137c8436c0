import ThalamicRelay.Shared.Progress
import ThalamicRelay.Supervisor.ManagedPlant

set_option autoImplicit false

namespace ThalamicRelay

open Transition

/-- Every reading of the input is of these kinds, a dispatch gets the gate, and the device does
what a worker asks of it. -/
structure PlantInput.Favours (cli : Cli) (policy : SafetyPolicy) (kinds : AssessmentKind → Prop)
    (input : PlantInput) : Prop where
  readings : input.iteration.Favours cli policy kinds
  working : input.attempt = none ∨ input.attempt = some .working

def PlantInput.Joins (input : PlantInput) : Prop :=
  input.attempt.isSome = true ∧ input.collected = true

theorem PlantInput.Favours.clean {cli : Cli} {policy : SafetyPolicy} {kinds : AssessmentKind → Prop}
    {input : PlantInput} (favours : input.Favours cli policy kinds) (p : Plant) :
    ¬ p.AmbiguousRelease input := by
  rintro ⟨_, _, attempt, attempted, ambiguous, _⟩
  rcases favours.working with none | working
  next => simp [none] at attempted
  next =>
    obtain rfl := Option.some.inj (working.symm.trans attempted)
    exact ambiguous

namespace Plant

structure Attentive (policy : SafetyPolicy) (kinds : AssessmentKind → Prop) (p : Plant) : Prop
    extends Sound policy p where
  heeds : p.supervisor.machine.Heeds kinds

structure Hopeful (policy : SafetyPolicy) (kinds : AssessmentKind → Prop) (slot : Slot)
    (p : Plant) : Prop extends Attentive policy kinds p where
  unopposed : p.supervisor.attempt.slots.get slot.other = none
  promising : p.outcome = none ∨ p.outcome = some .ok

structure Settled (policy : SafetyPolicy) (kinds : AssessmentKind → Prop) (slot : Slot)
    (p : Plant) : Prop extends Hopeful policy kinds slot p where
  idle : p.supervisor.attempt.slots.isEmpty = true
  claim : p.supervisor.machine.brakeEngaged = slot.claims

section Steps

variable {cli : Cli} {policy : SafetyPolicy} {kinds : AssessmentKind → Prop} {slot : Slot}
  {p : Plant} {input : PlantInput}

theorem readings (favours : input.Favours cli policy kinds) :
    (p.iteration input).Favours cli policy kinds where
  judged := favours.readings.judged
  reassessed := favours.readings.reassessed
  dispatchGateFree := favours.readings.dispatchGateFree

theorem attentive_step (attentive : p.Attentive policy kinds)
    (favours : input.Favours cli policy kinds) : (p.step cli input).Attentive policy kinds where
  toSound := attentive.toSound.step cli (favours.clean p)
  heeds := Supervisor.iterate_heeds attentive.core (readings favours) (.inl attentive.heeds)

theorem hopeful_collected (governs : Governs kinds slot) (sound : p.Sound policy)
    (favours : input.Favours cli policy kinds) {result : TaskResult}
    (collected : p.finished input = some result)
    (attentive : (p.step cli input).Attentive policy kinds) :
    (p.step cli input).Hopeful policy kinds slot where
  toAttentive := attentive
  unopposed := by
    obtain ⟨joined, occupied, finished⟩ := sound.collected_slot cli (favours.clean p) collected
    refine Supervisor.iterate_get sound.core (governs.unopposed _ attentive.heeds) (.inr ?_)
    exact ⟨joined, occupied, by simp [finished]⟩
  promising := by simp [step, collected]

theorem Hopeful.begun_unopposed (hopeful : p.Hopeful policy kinds slot)
    (governs : Governs kinds slot) (input : PlantInput) :
    (p.slots input).get slot.other = none :=
  Supervisor.begin_get _ hopeful.unopposed (governs.unopposed _ hopeful.heeds)

theorem Hopeful.work (hopeful : p.Hopeful policy kinds slot) (governs : Governs kinds slot)
    (favours : input.Favours cli policy kinds) :
    (p.work input).1 = none ∨ (p.work input).1 = some .ok := by
  rcases p.work_cases input with same | ⟨outcome, worker, attempt, attempted, occupied, result⟩
  next =>
    rw [same]
    exact hopeful.promising
  next =>
    right
    rcases favours.working with none | working
    next => simp [none] at attempted
    next =>
      obtain rfl := Option.some.inj (working.symm.trans attempted)
      have exclusive := hopeful.begun_unopposed governs input
      obtain rfl : worker = slot := by
        cases worker <;> cases slot <;> simp_all [Slots.get, Slot.other]
      have claim := Supervisor.inflight_claim (hopeful.begun cli input) occupied
      rw [Supervisor.ready_machine] at claim
      rw [result]
      refine congrArg some ?_
      cases worker with
      | brake => exact PowerLimits.apply_working hopeful.managed
      | release =>
        refine PowerLimits.release_working (hopeful.inv.braked claim ?_)
        simp [outcome]

theorem hopeful_step (governs : Governs kinds slot) (hopeful : p.Hopeful policy kinds slot)
    (favours : input.Favours cli policy kinds) :
    (p.step cli input).Hopeful policy kinds slot := by
  have attentive := attentive_step hopeful.toAttentive favours
  cases collected : p.finished input with
  | some result => exact hopeful_collected governs hopeful.toSound favours collected attentive
  | none =>
    refine ⟨attentive, ?_, ?_⟩
    next =>
      refine Supervisor.iterate_get hopeful.core (governs.unopposed _ attentive.heeds) (.inl ?_)
      exact hopeful.begun_unopposed governs input
    next => simpa [step, collected] using hopeful.work governs favours

theorem settled_collected (governs : Governs kinds slot) (sound : p.Sound policy)
    (favours : input.Favours cli policy kinds)
    (occupied : ((p.slots input).get slot).isSome = true)
    (collected : p.finished input = some .ok) :
    (p.step cli input).Settled policy kinds slot ∧ (p.step cli input).limits.Enforces slot := by
  have finished : (p.iteration input).finished slot = some .ok := by
    rw [finished_slot, if_pos occupied, collected]
  have begun : RelayCore.Inv policy (p.supervisor.ready cli (p.iteration input)).core :=
    sound.begun cli input
  have attentive : (p.step cli input).Attentive policy kinds :=
    ⟨sound.step cli (favours.clean p), Supervisor.iterate_heeds sound.core (readings favours)
      (.inr (.inr ⟨slot, occupied, finished⟩))⟩
  have hopeful := hopeful_collected governs sound favours collected attentive
  have claim : (p.step cli input).supervisor.machine.brakeEngaged = slot.claims := by
    have after : (p.step cli input).supervisor.machine.brakeEngaged =
        Supervisor.claimAfter slot .ok p.supervisor.machine.brakeEngaged :=
      Supervisor.iterate_finished begun.exclusive occupied finished
    rw [after]
    cases slot <;> rfl
  refine ⟨⟨hopeful, ?_, claim⟩, ?_⟩
  next =>
    refine Slots.isEmpty_iff_other.mpr ⟨?_, hopeful.unopposed⟩
    refine Supervisor.iterate_get sound.core (governs.unwanted attentive.heeds claim slot) ?_
    exact .inr ⟨slot, occupied, by simp [finished]⟩
  next =>
    refine sound.work_enforces cli occupied ?_
    simp only [Plant.finished] at collected
    split at collected
    next => exact collected
    next => simp at collected

theorem settled_step (governs : Governs kinds slot) (settled : p.Settled policy kinds slot)
    (favours : input.Favours cli policy kinds) :
    (p.step cli input).Settled policy kinds slot ∧ (p.step cli input).limits = p.limits := by
  have hopeful := hopeful_step governs settled.toHopeful favours
  have clear (any : Slot) : (p.slots input).get any = none :=
    Supervisor.begin_get _ (Slots.isEmpty_iff_get.mp settled.idle any)
      (governs.unwanted settled.heeds settled.claim any)
  have claim : (p.step cli input).supervisor.machine.brakeEngaged = slot.claims := by
    exact (step_uncollected cli fun any => .inl (clear any)).1.trans settled.claim
  refine ⟨⟨hopeful, Slots.isEmpty_iff_get.mpr fun any => ?_, claim⟩, ?_⟩
  next =>
    exact Supervisor.iterate_get settled.core (governs.unwanted hopeful.heeds claim any)
      (.inl (clear any))
  next =>
    change (p.work input).2 = p.limits
    rcases p.work_cases input with same | ⟨_, worker, _, _, occupied, _⟩
    next => rw [same]
    next =>
      rw [clear worker] at occupied
      simp at occupied

def Launched (policy : SafetyPolicy) (kinds : AssessmentKind → Prop) (slot : Slot) (p : Plant) :
    Prop :=
  (p.Hopeful policy kinds slot ∧ (p.supervisor.attempt.slots.get slot).isSome = true) ∨
    p.Settled policy kinds slot

theorem inflight_step (governs : Governs kinds slot) (hopeful : p.Hopeful policy kinds slot)
    (favours : input.Favours cli policy kinds)
    (occupied : ((p.slots input).get slot).isSome = true) :
    (p.step cli input).Launched policy kinds slot ∧
      (input.Joins → (p.step cli input).Settled policy kinds slot) := by
  have after := hopeful_step governs hopeful favours
  have worked := hopeful.work governs favours
  cases collected : p.finished input with
  | some result =>
    have succeeded : p.finished input = some .ok := by
      simp only [finished] at collected ⊢
      split at collected
      next joined =>
        rw [if_pos joined]
        simpa [collected] using worked
      next => simp at collected
    have settled := (settled_collected governs hopeful.toSound favours occupied succeeded).1
    exact ⟨.inr settled, fun _ => settled⟩
  | none =>
    constructor
    next =>
      rcases (step_uncollected cli fun _ => .inr collected).2 with same | empty
      next =>
        refine .inl ⟨after, ?_⟩
        rwa [same]
      next =>
        rw [Slots.isEmpty_iff_get.mp empty slot] at occupied
        simp at occupied
    next =>
      intro joins
      have returned := work_isSome occupied joins.1
      simp only [finished, joins.2, if_true] at collected
      simp [collected] at returned

theorem launched_step (governs : Governs kinds slot) (launched : p.Launched policy kinds slot)
    (favours : input.Favours cli policy kinds) :
    (p.step cli input).Launched policy kinds slot ∧
      (input.Joins → (p.step cli input).Settled policy kinds slot) := by
  rcases launched with ⟨hopeful, occupied⟩ | settled
  next =>
    refine inflight_step governs hopeful favours ?_
    rwa [slots, Supervisor.begin_slots_occupied _ (Slots.get_isEmpty occupied)]
  next =>
    have still := (settled_step governs settled favours).1
    exact ⟨.inr still, fun _ => still⟩

theorem spawns_launched (governs : Governs kinds slot) (hopeful : p.Hopeful policy kinds slot)
    (favours : input.Favours cli policy kinds)
    (spawns : Supervisor.Spawns cli slot.intent p.supervisor (p.iteration input)) :
    (p.step cli input).Launched policy kinds slot := by
  rcases Supervisor.spawns_occupied spawns with early | late
  next =>
    have clear := hopeful.begun_unopposed governs input
    have early : (p.slots input).isEmpty = false := early
    refine (inflight_step governs hopeful favours ?_).1
    by_contra vacant
    rw [Option.not_isSome_iff_eq_none] at vacant
    rw [Slots.isEmpty_iff_other.mpr ⟨vacant, clear⟩] at early
    simp at early
  next =>
    have after := hopeful_step governs hopeful favours
    have late : (p.step cli input).supervisor.attempt.slots.isEmpty = false := late
    refine .inl ⟨after, ?_⟩
    by_contra vacant
    rw [Option.not_isSome_iff_eq_none] at vacant
    rw [Slots.isEmpty_iff_other.mpr ⟨vacant, after.unopposed⟩] at late
    simp at late

def Owed (policy : SafetyPolicy) (kinds : AssessmentKind → Prop) (slot : Slot) (p : Plant) : Prop :=
  p.Sound policy ∧ (p.supervisor.machine.brakeEngaged = !slot.claims ∨
    (p.Settled policy kinds slot ∧ p.limits.Enforces slot))

theorem owed_stable (governs : Governs kinds slot) :
    Stable (Plant.step cli) (PlantInput.Favours cli policy kinds) (Owed policy kinds slot) := by
  rintro p input ⟨sound, owed⟩ favours
  refine ⟨sound.step cli (favours.clean p), ?_⟩
  rcases owed with claim | ⟨settled, enforces⟩
  next =>
    cases collected : p.finished input with
    | none =>
      left
      rw [(step_uncollected cli fun _ => .inr collected).1, claim]
    | some result =>
      obtain ⟨joined, occupied, finished⟩ := sound.collected_slot cli (favours.clean p) collected
      have held := Supervisor.inflight_claim (sound.begun cli input) occupied
      rw [Supervisor.ready_machine, claim] at held
      obtain rfl : slot = joined := by
        cases slot <;> cases joined <;> simp_all [Slot.claims]
      cases result with
      | ok => exact .inr (settled_collected governs sound favours occupied collected)
      | err | panicked =>
        left
        have begun := sound.begun cli input
        have after : (p.step cli input).supervisor.machine.brakeEngaged = _ :=
          Supervisor.iterate_finished begun.exclusive occupied finished
        rw [after, claim]
        cases slot <;> rfl
  next =>
    obtain ⟨still, same⟩ := settled_step governs settled favours
    exact .inr ⟨still, by rwa [same]⟩

variable {pace : Nat}

-- The loop evaluates at least once in ten iterations.
theorem sound_leads_attentive :
    LeadsTo (Plant.step cli) (PlantInput.Favours cli policy kinds) PlantInput.Joins pace 10
      (Sound policy) (Attentive policy kinds) := by
  have leads : LeadsTo (Plant.step cli) (PlantInput.Favours cli policy kinds) PlantInput.Joins pace
      10 (fun p : Plant => p.Sound policy ∧ 0 ≤ p.supervisor.stepCount % 10)
      (Attentive policy kinds) := by
    refine .of_waits (fun waited (p : Plant) =>
      p.Sound policy ∧ waited ≤ p.supervisor.stepCount % 10) ?_ ?_
    next =>
      rintro waited p input ⟨sound, late⟩ favours
      have after := sound.step cli (favours.clean p)
      have count := Supervisor.iterate_stepCount cli p.supervisor (p.iteration input)
      by_cases cadence : (p.supervisor.stepCount + 1) % 10 = 0
      next =>
        exact .inl ⟨after, Supervisor.iterate_heeds sound.core (readings favours)
          (.inr (.inl cadence))⟩
      next =>
        refine .inr ⟨after, ?_⟩
        have count : (p.step cli input).supervisor.stepCount = _ := count
        rw [count]
        omega
    next =>
      rintro p ⟨_, late⟩
      omega
  intro p window sound
  exact leads p window ⟨sound, Nat.zero_le _⟩

-- Whatever is in flight is joined, and only the slot's worker is started meanwhile.
theorem attentive_leads_hopeful (governs : Governs kinds slot) :
    LeadsTo (Plant.step cli) (PlantInput.Favours cli policy kinds) PlantInput.Joins pace pace
      (Attentive policy kinds) (Hopeful policy kinds slot) := by
  refine .of_helped ?_ ?_
  next =>
    intro p input attentive favours
    exact .inr (attentive_step attentive favours)
  next =>
    intro p input attentive favours joins
    by_cases idle : (p.slots input).isEmpty = true
    next =>
      have empty := slots_isEmpty idle
      refine hopeful_step governs ⟨attentive, ?_, .inl (attentive.inv.quiet empty)⟩ favours
      exact Slots.isEmpty_iff_get.mp empty slot.other
    next =>
      rw [Slots.isEmpty_iff_get, not_forall] at idle
      obtain ⟨worker, occupied⟩ := idle
      have returned := work_isSome (Option.isSome_iff_ne_none.mpr occupied) joins.1
      obtain ⟨result, returned⟩ := Option.isSome_iff_exists.mp returned
      have collected : p.finished input = some result := by simp [finished, joins.2, returned]
      exact hopeful_collected governs attentive.toSound favours collected
        (attentive_step attentive favours)

theorem launched_leads_settled (governs : Governs kinds slot) :
    LeadsTo (Plant.step cli) (PlantInput.Favours cli policy kinds) PlantInput.Joins pace pace
      (Launched policy kinds slot) (Settled policy kinds slot) := by
  refine .of_helped ?_ ?_
  next =>
    intro p input launched favours
    exact .inr (launched_step governs launched favours).1
  next =>
    intro p input launched favours
    exact (launched_step governs launched favours).2

section Persuasion

variable {needed : Nat} {progress : SafetyMachine → Nat}

theorem hopeful_leads_launched (governs : Governs kinds slot)
    (persuades : Supervisor.Persuades policy slot.intent kinds needed progress) :
    LeadsTo (Plant.step cli) (PlantInput.Favours cli policy kinds) PlantInput.Joins pace
      (10 * needed) (Hopeful policy kinds slot) (Launched policy kinds slot) := by
  have positive := persuades.positive
  let waits (waited : Nat) (p : Plant) : Prop := p.Hopeful policy kinds slot ∧ ∃ first,
    Supervisor.Underway policy slot.intent needed progress first waited p.supervisor ∧
      ¬ first / 10 + needed ≤ (first + waited) / 10
  have leads : LeadsTo (Plant.step cli) (PlantInput.Favours cli policy kinds) PlantInput.Joins pace
      (10 * needed) (waits 0) (Launched policy kinds slot) := by
    refine .of_waits waits ?_ ?_
    next =>
      rintro waited p input ⟨hopeful, first, underway, early⟩ favours
      have good := (readings (p := p) favours).judged
      rcases Supervisor.underway_iterate persuades underway good with spawns | ⟨still, refused, _⟩
      next => exact .inl (spawns_launched governs hopeful favours spawns)
      next =>
        refine .inr ⟨hopeful_step governs hopeful favours, first, still, fun late => ?_⟩
        have free := (readings (p := p) favours).dispatchGateFree
        rw [refused late] at free
        simp at free
    next =>
      rintro p ⟨_, first, _, early⟩
      omega
  intro p window hopeful fair enough
  by_cases idle : p.supervisor.attempt.slots.isEmpty = true
  next =>
    by_cases claim : p.supervisor.machine.brakeEngaged = slot.claims
    next => exact ⟨0, Nat.zero_le _, .inr ⟨hopeful, idle, claim⟩⟩
    next =>
      refine leads p window ⟨hopeful, p.supervisor.stepCount, ?_, by omega⟩ fair enough
      refine ⟨⟨idle, Slot.unclaimed_iff.mpr ?_⟩, hopeful.core.samePolicy, rfl, by omega,
        fun late => by omega⟩
      cases claimed : p.supervisor.machine.brakeEngaged <;> cases slot <;>
        simp_all [Slot.claims]
  next =>
    rw [Slots.isEmpty_iff_other, not_and'] at idle
    have occupied := Option.isSome_iff_ne_none.mpr (idle hopeful.unopposed)
    exact ⟨0, Nat.zero_le _, .inl ⟨hopeful, occupied⟩⟩

theorem sound_leads_settled (governs : Governs kinds slot)
    (persuades : Supervisor.Persuades policy slot.intent kinds needed progress) :
    LeadsTo (Plant.step cli) (PlantInput.Favours cli policy kinds) PlantInput.Joins pace
      (10 + pace + 10 * needed + pace) (Sound policy) (Settled policy kinds slot) :=
  ((sound_leads_attentive.trans (attentive_leads_hopeful governs)).trans
    (hopeful_leads_launched governs persuades)).trans (launched_leads_settled governs)

theorem settled_stable (governs : Governs kinds slot) :
    Stable (Plant.step cli) (PlantInput.Favours cli policy kinds) (Settled policy kinds slot) :=
  fun _ _ settled favours => (settled_step governs settled favours).1

theorem settles (governs : Governs kinds slot)
    (persuades : Supervisor.Persuades policy slot.intent kinds needed progress)
    (sound : p.Sound policy) {window : List PlantInput}
    (fair : Fair (PlantInput.Favours cli policy kinds) PlantInput.Joins pace window)
    (enough : 10 * (needed + 1) + 2 * pace ≤ window.length) :
    (window.foldl (Plant.step cli) p).Settled policy kinds slot :=
  (sound_leads_settled governs persuades).final (settled_stable governs) sound fair (by omega)

end Persuasion

end Steps

end Plant

namespace Installation

theorem hazard_brakes_device (site : Installation) (managed : site.limits.Managed) {p : Plant}
    (reachable : site.cleanSystem.Reachable p) {pace : Nat} {window : List PlantInput}
    (fair : Fair (PlantInput.Favours site.cli site.policy fun kind => kind.failsClosed = true)
      PlantInput.Joins pace window)
    (enough : 20 + 2 * pace ≤ window.length) :
    let after := window.foldl (Plant.step site.cli) p
    after.supervisor.attempt.slots.isEmpty = true ∧
      after.supervisor.machine.brakeEngaged = true ∧ after.limits.Braked := by
  intro after
  have settled : after.Settled site.policy _ .brake :=
    Plant.settles hazard_governs (Supervisor.hazard_persuades site.policy)
      (sound_reachable managed reachable) fair (by omega)
  refine ⟨settled.idle, settled.claim, settled.inv.braked settled.claim ?_⟩
  simp [settled.inv.quiet settled.idle]

def steady (acquisition : Acquisition) : PlantInput where
  iteration := .reading acquisition
  attempt := some .working
  collected := true

theorem steady_fair {cli : Cli} {policy : SafetyPolicy} {kinds : AssessmentKind → Prop}
    {acquisition : Acquisition} (kind : kinds (acquisition.kind cli policy)) (count : Nat) :
    Fair (PlantInput.Favours cli policy kinds) PlantInput.Joins 1
      (List.replicate count (steady acquisition)) := by
  refine Fair.replicate Nat.one_pos ⟨⟨kind, fun slot => ?_, rfl⟩, .inr rfl⟩ ⟨rfl, rfl⟩ count
  cases slot <;> exact kind

theorem hazard_brakes_device_hot :
    let after := (List.replicate 22 (steady (.nvml (.finite 90) (.finite 200)))).foldl
      (Plant.step unbraked.cli) unbraked.initial
    after.supervisor.attempt.slots.isEmpty = true ∧
      after.supervisor.machine.brakeEngaged = true ∧ after.limits.Braked := by
  have managed : unbraked.limits.Managed := ⟨200, by decide +kernel, by decide +kernel⟩
  exact hazard_brakes_device unbraked managed (.start rfl) (steady_fair (by decide +kernel) 22)
    (by simp)

theorem recovery_restores_device (site : Installation)
    (u32 : site.policy.config.releaseOkStreak ≤ Saturating.u32Max)
    (managed : site.limits.Managed) {p : Plant} (reachable : site.cleanSystem.Reachable p)
    (claimed : p.supervisor.machine.brakeEngaged = true) {pace : Nat} {window : List PlantInput}
    (fair : Fair (PlantInput.Favours site.cli site.policy fun kind => kind = .ok)
      PlantInput.Joins pace window)
    (enough : 10 * (site.policy.config.releaseOkStreak + 1) + 2 * pace ≤ window.length) :
    let after := window.foldl (Plant.step site.cli) p
    after.supervisor.attempt.slots.isEmpty = true ∧
      after.supervisor.machine.brakeEngaged = false ∧
      after.limits.limitMw = after.limits.defaultW * 1000 := by
  intro after
  have sound := sound_reachable managed reachable
  have settled : after.Settled site.policy _ .release :=
    Plant.settles recovery_governs (Supervisor.recovery_persuades u32) sound fair enough
  have owed : after.Owed site.policy _ .release :=
    (Plant.owed_stable recovery_governs).run ⟨sound, .inl claimed⟩ fair.allowed
  refine ⟨settled.idle, settled.claim, ?_⟩
  rcases owed.2 with claim | ⟨_, enforces⟩
  next =>
    rw [settled.claim] at claim
    simp [Slot.claims] at claim
  next => exact enforces

theorem recovery_restores_device_leftover :
    let after := (List.replicate 22 (steady (.nvml (.finite 65) (.finite 200)))).foldl
      (Plant.step leftover.cli) leftover.initial
    after.supervisor.attempt.slots.isEmpty = true ∧
      after.supervisor.machine.brakeEngaged = false ∧
      after.limits.limitMw = after.limits.defaultW * 1000 := by
  have managed : leftover.limits.Managed := ⟨200, by decide +kernel, by decide +kernel⟩
  exact recovery_restores_device leftover (by decide) managed (.start rfl) (by decide +kernel)
    (steady_fair (by decide +kernel) 22) (by decide)

end Installation

end ThalamicRelay
