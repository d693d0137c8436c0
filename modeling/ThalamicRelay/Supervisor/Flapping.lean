import ThalamicRelay.Actuator.HardwareBridge
import ThalamicRelay.Supervisor.Release
import ThalamicRelay.Supervisor.Response

set_option autoImplicit false

namespace ThalamicRelay

open BinaryFloat Saturating Transition

namespace Event

def isApplied : Event → Bool
  | .recorded .applied => true
  | _ => false

def isReleased : Event → Bool
  | .recorded .released => true
  | _ => false

def isCalm : Event → Bool
  | .evaluated .ok snap => snap.brakeEngaged
  | _ => false

end Event

def applies (log : List Event) : Nat :=
  log.countP Event.isApplied

def releases (log : List Event) : Nat :=
  log.countP Event.isReleased

def calms (log : List Event) : Nat :=
  log.countP Event.isCalm

@[simp] theorem applies_cons (event : Event) (log : List Event) :
    applies (event :: log) = applies log + if event.isApplied then 1 else 0 :=
  List.countP_cons

@[simp] theorem releases_cons (event : Event) (log : List Event) :
    releases (event :: log) = releases log + if event.isReleased then 1 else 0 :=
  List.countP_cons

@[simp] theorem calms_cons (event : Event) (log : List Event) :
    calms (event :: log) = calms log + if event.isCalm then 1 else 0 :=
  List.countP_cons

namespace RelayCore

variable {policy : SafetyPolicy} {base c : RelayCore}

/-- What has been earned towards the next release; one in flight has been earned in full. -/
def credit (needed : Nat) (c : RelayCore) : Nat :=
  if c.attempt.slots.releaseTask.isSome then needed else min c.machine.okCount needed

/-- Since the base every completed release but the first was paid for with a streak of its own, and
the two commands have alternated. -/
structure Paced (needed : Nat) (base c : RelayCore) : Prop where
  paid : needed * releases c.log + credit needed c + calms base.log ≤
    calms c.log + needed + needed * releases base.log
  balanced : applies c.log + base.machine.brakeEngaged.toNat + releases base.log =
    releases c.log + c.machine.brakeEngaged.toNat + applies base.log

theorem credit_le (needed : Nat) (c : RelayCore) : credit needed c ≤ needed := by
  unfold credit
  split
  next => exact le_rfl
  next => exact Nat.min_le_right _ _

theorem Paced.begun (needed : Nat) (c : RelayCore) : Paced needed c c where
  paid := by
    have earned := credit_le needed c
    omega
  balanced := by omega

theorem Paced.quiet {needed : Nat} {after : RelayCore} (paced : Paced needed base c)
    (calm : calms after.log = calms c.log) (released : releases after.log = releases c.log)
    (applied : applies after.log = applies c.log)
    (earned : credit needed after ≤ credit needed c)
    (engaged : after.machine.brakeEngaged = c.machine.brakeEngaged) :
    Paced needed base after where
  paid := by
    have paid := paced.paid
    rw [calm, released]
    omega
  balanced := by
    rw [applied, released, engaged]
    exact paced.balanced

theorem evaluate_calms (c : RelayCore) (frame : TelemetryFrame) :
    calms (c.evaluate frame).log = calms c.log +
      if c.machine.kindOf frame = .ok ∧ c.machine.brakeEngaged = true then 1 else 0 := by
  have snap := SafetyMachine.evaluate_snapshot_brakeEngaged c.machine frame
  cases kind : c.machine.kindOf frame with
  | ok => simp [evaluate, Event.isCalm, kind, snap]
  | _ => simp [evaluate, Event.isCalm, kind]

theorem evaluate_credit (needed : Nat) (c : RelayCore) (frame : TelemetryFrame) :
    credit needed (c.evaluate frame) ≤ credit needed c +
      if c.machine.kindOf frame = .ok ∧ c.machine.brakeEngaged = true then 1 else 0 := by
  have grown := increment_le u32Max c.machine.okCount
  simp only [credit, evaluate, SafetyMachine.evaluate_okCount, SafetyMachine.nextOkCount]
  split_ifs <;> omega

theorem paced_evaluate {needed : Nat} (paced : Paced needed base c) (frame : TelemetryFrame) :
    Paced needed base (c.evaluate frame) := by
  have paid := paced.paid
  have counted := evaluate_calms c frame
  have earned := evaluate_credit needed c frame
  have released : releases (c.evaluate frame).log = releases c.log := rfl
  constructor
  case paid =>
    rw [counted, released]
    omega
  case balanced =>
    simpa [evaluate, Event.isApplied, Event.isReleased] using paced.balanced

theorem paced_applied {needed : Nat} (inv : Inv policy c) (paced : Paced needed base c)
    (applying : c.attempt.slots.brakeTask.isSome = true) :
    Paced needed base ((c.take .brake).recordActuator .applied) where
  paid := by
    have paid := paced.paid
    have earned : credit needed ((c.take .brake).recordActuator .applied) = credit needed c := by
      simp [credit, recordActuator, take, Slots.take]
    rw [earned]
    simpa [recordActuator, take, Event.isReleased, Event.isCalm] using paid
  balanced := by
    have balanced := paced.balanced
    have free := inv.applying applying
    simp [recordActuator, take, Event.isApplied, Event.isReleased, free] at balanced ⊢
    omega

-- The streak that paid for the release is spent, and the next one starts from nothing.
theorem paced_released {needed : Nat} (inv : Inv policy c) (paced : Paced needed base c)
    (releasing : c.attempt.slots.releaseTask.isSome = true) :
    Paced needed base ((c.take .release).recordActuator .released) where
  paid := by
    have paid := paced.paid
    have earned : credit needed c = needed := by simp [credit, releasing]
    have spent : credit needed ((c.take .release).recordActuator .released) = 0 := by
      simp [credit, recordActuator, take, Slots.take]
    rw [earned] at paid
    rw [spent]
    simp [recordActuator, take, Event.isReleased, Event.isCalm, Nat.mul_succ] at paid ⊢
    omega
  balanced := by
    have balanced := paced.balanced
    have claimed := inv.releasing releasing
    simp [recordActuator, take, Event.isApplied, Event.isReleased, claimed] at balanced ⊢
    omega

theorem paced_failed {needed : Nat} (inv : Inv policy c) (paced : Paced needed base c)
    {slot : Slot} (occupied : (c.attempt.slots.get slot).isSome = true) (error : String) :
    Paced needed base ((c.take slot).recordActuator (slot.failed error)) := by
  cases slot with
  | brake =>
    have free := inv.applying occupied
    apply paced.quiet <;>
      simp [Slot.failed, recordActuator, take, Event.isApplied, Event.isReleased, Event.isCalm,
        credit, Slots.take, free]
  | release =>
    have kept : (c.attempt.slots.releaseTask).isSome = true := occupied
    apply paced.quiet <;>
      simp [Slot.failed, recordActuator, take, Event.isApplied, Event.isReleased, Event.isCalm,
        credit, Slots.take, kept]

theorem paced_dispatch (inv : Inv policy c)
    (paced : Paced policy.config.releaseOkStreak base c) (gateFree due : Bool) :
    Paced policy.config.releaseOkStreak base (c.dispatch gateFree due) := by
  simp only [dispatch]
  rcases dispatch_slots c.machine.snapshot (Supervisor.tryEnter gateFree) due c.attempt with
    ⟨other, same⟩ | ⟨spawned, empty, task, ⟨intent, filled⟩ | ⟨intent, filled⟩⟩
  · rw [if_neg other]
    apply paced.quiet <;> simp [credit, same]
  · rw [if_pos spawned]
    apply paced.quiet <;>
      simp [credit, filled, Event.isApplied, Event.isReleased, Event.isCalm]
  · rw [if_pos spawned]
    obtain ⟨_, enough⟩ := snapshot_release inv intent
    have idle := (Slots.isEmpty_iff.mp empty).2
    apply paced.quiet <;>
      simp [credit, filled, idle, enough, Event.isApplied, Event.isReleased, Event.isCalm]

theorem paced_step (inv : Inv policy c) (paced : Paced policy.config.releaseOkStreak base c)
    (label : CoreStep) : Paced policy.config.releaseOkStreak base (c.step label) := by
  cases label with
  | offered frame =>
    refine paced.quiet ?_ ?_ ?_ le_rfl rfl <;>
      simp [step, Event.isApplied, Event.isReleased, Event.isCalm]
  | evaluated frame => exact paced_evaluate paced frame
  | succeeded slot frame =>
    simp only [step]
    split
    next occupied =>
      apply paced_evaluate
      cases slot with
      | brake => exact paced_applied inv paced occupied
      | release => exact paced_released inv paced occupied
    next => exact paced
  | failed slot error =>
    simp only [step]
    split
    next occupied => exact paced_failed inv paced occupied error
    next => exact paced
  | dispatched gateFree due => exact paced_dispatch inv paced gateFree due

theorem paced_steps (inv : Inv policy base) {after : RelayCore} (steps : Steps policy base after) :
    Paced policy.config.releaseOkStreak base after := by
  obtain ⟨labels, run⟩ := steps
  have kept : Inv policy after ∧ Paced policy.config.releaseOkStreak base after := by
    refine run.invariant
      (fun c => Inv policy c ∧ Paced policy.config.releaseOkStreak base c) ?_
      ⟨inv, .begun _ base⟩
    rintro c label after ⟨inv, paced⟩ rfl
    exact ⟨inv_step inv label, paced_step inv paced label⟩
  exact kept.2

end RelayCore

/-- The reading is what acquire_raw gave the gate's worker, or the gate gave none. -/
def Acquisition.FromBridge (acquisition : Acquisition) : Prop :=
  ∀ raw, acquisition.result = .ok raw →
    ∃ (bridge : HardwareBridge) (read : NvmlRead), raw = bridge.acquireRaw false read

theorem HardwareBridge.acquireRaw_unavailable (bridge : HardwareBridge) (read : NvmlRead)
    (lost : (bridge.acquireRaw false read).source = .nvmlUnavailable) :
    (bridge.acquireRaw false read).gpuTempC = none := by
  simp only [acquireRaw, Bool.false_eq_true, if_false] at lost ⊢
  cases found : bridge.target.bind (readNvml · read) with
  | none => rfl
  | some raw =>
    obtain ⟨target, _, sampled⟩ := Option.bind_eq_some_iff.mp found
    unfold readNvml at sampled
    split_ifs at sampled
    obtain ⟨sensors, _, rfl⟩ := Option.map_eq_some_iff.mp sampled
    rw [found] at lost
    contradiction

theorem Acquisition.unavailable_raw (cli : Cli) {acquisition : Acquisition}
    (genuine : acquisition.FromBridge)
    (lost : (acquisition.acquireRawWithTimeout cli).source = .nvmlUnavailable) :
    (acquisition.acquireRawWithTimeout cli).gpuTempC = none := by
  unfold acquireRawWithTimeout at lost ⊢
  by_cases forced : cli.forceSoftwareOnly = true
  next =>
    rw [if_pos forced] at lost
    contradiction
  next =>
    rw [if_neg forced] at lost ⊢
    cases reading : acquisition.result with
    | ok raw =>
      obtain ⟨bridge, read, rfl⟩ := genuine raw reading
      rw [reading] at lost
      exact bridge.acquireRaw_unavailable read lost
    | error _ => rfl

-- No fault ranks above a reading that is missing.
theorem classify_missing_temperature {frame : TelemetryFrame} (policy : SafetyPolicy)
    (real : frame.source ≠ .softwareFallback) (missing : frame.gpuTempC.validity = .missing) :
    (classifyFrameWithPolicy frame policy).kind = .missing := by
  have first : sampleFaultRank frame.gpuTempC "gpu_temp_c" =
      some (3, ⟨.missing, "Invalid telemetry: gpu_temp_c missing"⟩) := by
    simp only [sampleFaultRank, missing]
    rfl
  have bound (rank : Nat) (fault : FrameAssessment)
      (second : sampleFaultRank frame.powerW "power_w" = some (rank, fault)) : rank ≤ 3 := by
    simp only [sampleFaultRank] at second
    cases validity : frame.powerW.validity <;> simp only [validity] at second
    case valid => split_ifs at second; simp_all
    all_goals simp only [Option.some.injEq, Prod.mk.injEq] at second; omega
  have worst : worstSafetyFault frame =
      some ⟨.missing, "Invalid telemetry: gpu_temp_c missing"⟩ := by
    simp only [worstSafetyFault, first]
    cases second : sampleFaultRank frame.powerW "power_w" with
    | none => rfl
    | some found =>
      obtain ⟨rank, fault⟩ := found
      exact if_pos (bound rank fault second)
  rw [classify_fault policy real worst]

theorem Acquisition.unavailable_kind (cli : Cli) {acquisition : Acquisition}
    (genuine : acquisition.FromBridge) (m : SafetyMachine) (clock : SampleClock)
    (lost : (acquisition.assess cli clock).1.source = .nvmlUnavailable) :
    m.kindOf (acquisition.assess cli clock).1 = .missing := by
  have unread := acquisition.unavailable_raw cli genuine lost
  refine classify_missing_temperature m.policy (by simp [lost]) ?_
  simp only [assess, assessWithClock, TelemetryFrame.fromRawWithClock, RawTelemetry.value, unread,
    TelemetrySample.fromRawWithStaleAfter]
  split <;> rfl

def Calmed (extra : Nat) (before after : List Event) : Prop :=
  calms after + applies before ≤ calms before + applies after + extra

theorem Calmed.same {before after : List Event} (same : after = before) :
    Calmed 0 before after := by
  simp only [Calmed, same]
  omega

theorem Calmed.trans {first second third : List Event} {early late : Nat}
    (before : Calmed early first second) (after : Calmed late second third) :
    Calmed (early + late) first third := by
  simp only [Calmed] at before after ⊢
  omega

/-- The cadence evaluates at the first iteration and at every tenth. -/
def cadence (stepCount : Nat) : Nat :=
  if stepCount = 1 ∨ stepCount % 10 = 0 then 1 else 0

namespace Supervisor

theorem dispatch_calmed (s : Supervisor) (gateFree due : Bool) :
    Calmed 0 s.log (s.dispatch gateFree due).log := by
  simp only [dispatch]
  split
  next => simp [Calmed, note, Event.isApplied, Event.isCalm]
  next => exact .same rfl

theorem begin_calmed (s : Supervisor) (gateFree : Bool) :
    Calmed 0 s.log (s.begin gateFree).log := by
  simp only [begin, retryPending]
  split
  next => exact dispatch_calmed { s with stepCount := s.stepCount + 1 } gateFree false
  next => exact .same rfl

-- The reassessment may be calm, but the apply that brought it has been counted.
theorem completeActuation_calmed (cli : Cli) (slot : Slot) (s : Supervisor) (flags : TickFlags)
    (finished : Option TaskResult) (reassessment : Acquisition) :
    Calmed 0 s.log
      (completeActuation cli slot slot.succeeded slot.failed s flags finished
        reassessment).1.log := by
  have completion := completeActuation_completion cli slot s flags finished reassessment
  generalize completeActuation cli slot slot.succeeded slot.failed s flags finished reassessment =
    done at completion ⊢
  cases completion with
  | nothing => exact .same rfl
  | succeeded occupied =>
    have calm := RelayCore.evaluate_calms ((s.emptied slot).core.recordActuator slot.succeeded)
      (reassessment.assess cli s.sampleClock).1
    have log : ((s.emptied slot).reassessAfterActuation cli slot.succeeded reassessment).log =
        (((s.emptied slot).core.recordActuator slot.succeeded).evaluate
          (reassessment.assess cli s.sampleClock).1).log := rfl
    rw [Calmed, log, calm]
    cases slot with
    | brake =>
      simp [RelayCore.recordActuator, RelayCore.evaluate, emptied, core, Slot.succeeded,
        Event.isApplied, Event.isCalm]
      split <;> omega
    | release =>
      simp [RelayCore.recordActuator, RelayCore.evaluate, emptied, core, Slot.succeeded,
        Event.isApplied, Event.isCalm]
  | failed error occupied =>
    cases slot <;>
      simp [Calmed, recordActuator, note, storeSafety, emptied, Slot.failed, Event.isApplied,
        Event.isCalm]

theorem evaluateTick_calmed (cli : Cli) (s : Supervisor) (flags : TickFlags)
    {acquisition : Acquisition} (genuine : acquisition.FromBridge) (clock : SampleClock) :
    Calmed (cadence s.stepCount) s.log
      (s.evaluateTick flags (acquisition.assess cli clock).1).1.log := by
  have evaluation := RelayCore.evaluate_calms s.core (acquisition.assess cli clock).1
  have lost := acquisition.unavailable_kind cli genuine s.machine clock
  simp only [evaluateTick]
  split
  next =>
    simp only [Calmed]
    omega
  next =>
    split
    next judged =>
      have log : (s.evaluateThenTryPublish (acquisition.assess cli clock).1).2.log =
          (s.core.evaluate (acquisition.assess cli clock).1).log := rfl
      have applied : applies (s.core.evaluate (acquisition.assess cli clock).1).log =
          applies s.log := rfl
      have same : calms s.core.log = calms s.log := rfl
      simp only [storeSafety, log, Calmed, evaluation, applied, same]
      simp only [shouldEvaluateTick, decide_eq_true_eq] at judged
      by_cases regular : s.stepCount = 1 ∨ s.stepCount % 10 = 0
      next =>
        simp only [cadence, if_pos regular]
        split <;> omega
      next =>
        -- Only a lost source is judged between the regular evaluations.
        have source : (acquisition.assess cli clock).1.source = .nvmlUnavailable := by tauto
        have bad : ¬ (s.core.machine.kindOf (acquisition.assess cli clock).1 = .ok ∧
            s.core.machine.brakeEngaged = true) := by
          rintro ⟨good, _⟩
          exact absurd ((lost source).symm.trans good) (by decide)
        rw [if_neg bad]
        omega
    next => simp [Calmed, note, Event.isApplied, Event.isCalm]

theorem iterate_calmed (cli : Cli) (s : Supervisor) {input : Iteration}
    (genuine : input.acquisition.FromBridge) :
    Calmed (cadence (s.stepCount + 1)) s.log (s.iterate cli input).log := by
  let braked := (s.ready cli input).completeBrake cli .clear input
  let released := braked.1.completeRelease cli braked.2 input
  let judged := released.1.evaluateTick released.2 (s.telemetry cli input)
  have count : released.1.stepCount = s.stepCount + 1 := completed_stepCount cli s input
  have first : Calmed 0 s.log (s.ready cli input).log := begin_calmed s input.retryGateFree
  have second : Calmed 0 (s.ready cli input).log braked.1.log :=
    completeActuation_calmed cli .brake _ _ _ _
  have third : Calmed 0 braked.1.log released.1.log :=
    completeActuation_calmed cli .release _ _ _ _
  have fourth : Calmed (cadence (s.stepCount + 1)) released.1.log judged.1.log := by
    rw [← count]
    exact evaluateTick_calmed cli released.1 released.2 genuine _
  have fifth : Calmed 0 judged.1.log (s.iterate cli input).log :=
    dispatch_calmed judged.1 input.dispatchGateFree judged.2.dispatchDue
  simpa using (((first.trans second).trans third).trans fourth).trans fifth

end Supervisor

def cadences (stepCount : Nat) : Nat :=
  stepCount / 10 + if stepCount = 0 then 0 else 1

theorem cadences_succ (stepCount : Nat) :
    cadences (stepCount + 1) = cadences stepCount + cadence (stepCount + 1) := by
  rcases Nat.eq_zero_or_pos stepCount with rfl | later
  next => rfl
  next =>
    simp only [cadences, cadence]
    rw [if_neg (by omega), if_neg (by omega)]
    split <;> omega

theorem cadences_window (before length : Nat) :
    cadences (before + length) ≤ cadences before + length / 10 + 1 := by
  simp only [cadences]
  rcases Nat.eq_zero_or_pos before with rfl | later
  next =>
    simp only [Nat.zero_add, if_true]
    split <;> omega
  next =>
    rw [if_neg (by omega), if_neg (by omega)]
    omega

namespace Startup

theorem run_stepCount (startup : Startup) (inputs : List Iteration) :
    (startup.run inputs).stepCount = inputs.length := by
  induction inputs using List.reverseRecOn with
  | nil =>
    show startup.initial.stepCount = 0
    simp only [initial, Supervisor.seedStartupBrake]
    split <;> rfl
  | append_singleton inputs input ih =>
    rw [run_snoc, Supervisor.iterate_stepCount, ih, List.length_append, List.length_singleton]

theorem run_calmed (startup : Startup) (earlier window : List Iteration)
    (genuine : ∀ input ∈ window, input.acquisition.FromBridge) :
    calms (startup.run (earlier ++ window)).log + applies (startup.run earlier).log +
        cadences earlier.length ≤
      calms (startup.run earlier).log + applies (startup.run (earlier ++ window)).log +
        cadences (earlier ++ window).length := by
  induction window using List.reverseRecOn with
  | nil => simp
  | append_singleton window input ih =>
    have before := ih fun input member => genuine input (by simp [member])
    have step := Supervisor.iterate_calmed startup.cli (startup.run (earlier ++ window))
      (genuine input (by simp))
    have counted := cadences_succ (earlier ++ window).length
    rw [← run_snoc, run_stepCount, List.append_assoc, Calmed] at step
    have length : (earlier ++ (window ++ [input])).length = (earlier ++ window).length + 1 := by
      simp
      omega
    rw [length]
    omega

theorem run_steps (startup : Startup) (earlier window : List Iteration) :
    RelayCore.Steps startup.policy (startup.run earlier).core
      (startup.run (earlier ++ window)).core := by
  induction window using List.reverseRecOn with
  | nil =>
    rw [List.append_nil]
    exact .refl _
  | append_singleton window input ih =>
    rw [← List.append_assoc, run_snoc]
    exact ih.trans (Supervisor.iterate_steps _ input)

theorem flapping_bounded (startup : Startup) (earlier window : List Iteration)
    (genuine : ∀ input ∈ window, input.acquisition.FromBridge) :
    ∃ done, (startup.run (earlier ++ window)).log = done ++ (startup.run earlier).log ∧
      startup.policy.config.releaseOkStreak * releases done ≤
        releases done + window.length / 10 + startup.policy.config.releaseOkStreak + 2 ∧
      applies done ≤ releases done + 1 ∧ releases done ≤ applies done + 1 := by
  have steps := startup.run_steps earlier window
  obtain ⟨paid, balanced⟩ := RelayCore.paced_steps (startup.inv earlier) steps
  obtain ⟨done, log⟩ := RelayCore.Steps.log steps
  have log : (startup.run (earlier ++ window)).log = done ++ (startup.run earlier).log := log.symm
  have calmed := startup.run_calmed earlier window genuine
  have cadenced := cadences_window earlier.length window.length
  have before := Bool.toNat_le (startup.run earlier).core.machine.brakeEngaged
  have after := Bool.toNat_le (startup.run (earlier ++ window)).core.machine.brakeEngaged
  simp only [Supervisor.core] at paid balanced before after
  simp only [log, applies, releases, calms, List.countP_append, List.length_append, Nat.mul_add]
    at paid balanced calmed ⊢
  refine ⟨done, rfl, ?_, ?_, ?_⟩ <;> omega

def measured : Iteration :=
  let bridge : HardwareBridge := ⟨some HardwareBridge.testTarget⟩
  .reading
    { result := .ok (bridge.acquireRaw false (HardwareBridge.workload 200000))
      readAt := 1700000000000
      assessedAt := 1700000000000 }

theorem flapping_bounded_leftover :
    let startup := Startup.leftover .testPolicy
    let window := List.replicate 40 { measured with releaseFinished := some .ok }
    ∃ done, (startup.run window).log = done ++ startup.initial.log ∧
      startup.policy.config.releaseOkStreak * releases done ≤
        releases done + window.length / 10 + startup.policy.config.releaseOkStreak + 2 ∧
      applies done ≤ releases done + 1 ∧ releases done ≤ applies done + 1 := by
  intro startup window
  apply flapping_bounded startup [] window
  intro input member
  obtain rfl := List.eq_of_mem_replicate member
  rintro raw reading
  exact ⟨_, _, (Except.ok.inj reading).symm⟩

end Startup

end ThalamicRelay
