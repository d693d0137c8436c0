import ThalamicRelay.Supervisor.Response

set_option autoImplicit false

namespace ThalamicRelay

namespace Slot

def other : Slot → Slot
  | .brake => .release
  | .release => .brake

def intent : Slot → BrakeIntent
  | .brake => .apply
  | .release => .release

def claims : Slot → Bool
  | .brake => true
  | .release => false

theorem unclaimed_iff {slot : Slot} {claimed : Bool} :
    claimed = decide (slot.intent = .release) ↔ claimed = !slot.claims := by
  cases slot <;> cases claimed <;> decide

end Slot

theorem Slots.Exclusive.unique {Task : Type} {slots : Slots Task} (exclusive : slots.Exclusive)
    {slot other : Slot} (occupied : (slots.get slot).isSome = true)
    (held : (slots.get other).isSome = true) : slot = other := by
  cases slot <;> cases other <;> rcases exclusive with idle | idle <;> simp_all [Slots.get]

theorem Slots.isEmpty_iff_other {Task : Type} {slots : Slots Task} {slot : Slot} :
    slots.isEmpty = true ↔ slots.get slot = none ∧ slots.get slot.other = none := by
  rw [isEmpty_iff]
  cases slot with
  | brake => exact Iff.rfl
  | release => exact and_comm

def SafetyMachine.Heeds (kinds : AssessmentKind → Prop) (m : SafetyMachine) : Prop :=
  ∃ kind, kinds kind ∧ m.lastPolicyState = kind.policyState m.brakeEngaged

structure Iteration.Favours (cli : Cli) (policy : SafetyPolicy) (kinds : AssessmentKind → Prop)
    (input : Iteration) : Prop where
  judged : kinds (input.acquisition.kind cli policy)
  reassessed : ∀ slot, kinds ((input.reassessment slot).kind cli policy)
  dispatchGateFree : input.dispatchGateFree = true

namespace SafetyMachine

variable {kinds : AssessmentKind → Prop} {m : SafetyMachine}

theorem evaluate_heeds {frame : TelemetryFrame} (kind : kinds (m.kindOf frame)) :
    (m.evaluate frame).2.Heeds kinds :=
  ⟨_, kind, by simp⟩

theorem Heeds.failed {slot : Slot} (heeds : m.Heeds kinds) (error : String)
    (claim : m.brakeEngaged = !slot.claims) :
    (m.recordActuator (slot.failed error)).2.Heeds kinds := by
  obtain ⟨kind, known, state⟩ := heeds
  refine ⟨kind, known, ?_⟩
  cases slot <;> simp_all [Slot.failed, Slot.claims]

end SafetyMachine

namespace Supervisor

variable {cli : Cli} {policy : SafetyPolicy} {kinds : AssessmentKind → Prop} {s : Supervisor}
  {input : Iteration}

-- A worker is in flight only towards a claim that does not hold yet.
theorem inflight_claim (core : RelayCore.Inv policy s.core) {slot : Slot}
    (occupied : (s.attempt.slots.get slot).isSome = true) :
    s.machine.brakeEngaged = !slot.claims := by
  cases slot with
  | brake => exact core.applying occupied
  | release => exact core.releasing occupied

inductive Joined (cli : Cli) (s : Supervisor) (input : Iteration) : Supervisor × TickFlags → Prop
  | nothing (idle : ∀ slot,
      (s.ready cli input).attempt.slots.get slot = none ∨ input.finished slot = none) :
      Joined cli s input (s.ready cli input, .clear)
  | succeeded (slot : Slot)
      (occupied : ((s.ready cli input).attempt.slots.get slot).isSome = true)
      (finished : input.finished slot = some .ok) :
      Joined cli s input
        (((s.ready cli input).emptied slot).reassessAfterActuation cli slot.succeeded
          (input.reassessment slot),
          { TickFlags.clear with dispatchDue := true, evaluatedThisIter := true })
  | failed (slot : Slot) (result : TaskResult) (error : String)
      (occupied : ((s.ready cli input).attempt.slots.get slot).isSome = true)
      (finished : input.finished slot = some result) (failure : result ≠ .ok) :
      Joined cli s input
        (((s.ready cli input).emptied slot).recordActuator (slot.failed error),
          { TickFlags.clear with actuationFailedThisTick := true })

theorem completeFinished_joined (core : RelayCore.Inv policy s.core) (cli : Cli)
    (input : Iteration) :
    Joined cli s input ((s.ready cli input).completeFinished cli input) := by
  have begun := ready_inv core cli input
  by_cases idle : ∀ slot,
      (s.ready cli input).attempt.slots.get slot = none ∨ input.finished slot = none
  next =>
    rw [completeFinished_idle cli input idle]
    exact .nothing idle
  next =>
    simp only [not_forall, not_or] at idle
    obtain ⟨slot, occupied, finished⟩ := idle
    obtain ⟨result, finished⟩ := Option.ne_none_iff_exists'.mp finished
    have occupied := Option.isSome_iff_ne_none.mpr occupied
    rw [completeFinished_slot input begun.exclusive occupied, finished]
    cases result with
    | ok =>
      rw [completeActuation_ok _ _ _ _ occupied]
      exact .succeeded slot occupied finished
    | err error =>
      rw [completeActuation_failure _ _ _ _ occupied rfl]
      exact .failed slot _ _ occupied finished (by simp)
    | panicked message =>
      rw [completeActuation_failure _ _ _ _ occupied rfl]
      exact .failed slot _ _ occupied finished (by simp)

theorem evaluateTick_heeds {done : Supervisor} {flags : TickFlags}
    (same : done.machine.policy = policy) (favours : input.Favours cli policy kinds)
    (heeds : done.machine.Heeds kinds ∨
      (done.stepCount % 10 = 0 ∧ flags.evaluatedThisIter = false)) :
    (done.evaluateTick flags (s.telemetry cli input)).1.machine.Heeds kinds := by
  have kind : kinds (done.machine.kindOf (s.telemetry cli input)) := by
    have judged := Acquisition.kind_assess same cli input.acquisition
      (s.begin input.retryGateFree).sampleClock
    have judged : done.machine.kindOf (s.telemetry cli input) = _ := judged
    rw [judged]
    exact favours.judged
  simp only [evaluateTick]
  split
  next evaluated =>
    rcases heeds with heeds | ⟨_, unevaluated⟩
    next => exact heeds
    next => simp [unevaluated] at evaluated
  next =>
    split
    next => exact SafetyMachine.evaluate_heeds kind
    next skipped =>
      rcases heeds with heeds | ⟨cadence, _⟩
      next => exact heeds
      next => simp [shouldEvaluateTick, cadence] at skipped

theorem iterate_heeds (core : RelayCore.Inv policy s.core)
    (favours : input.Favours cli policy kinds)
    (heeds : s.machine.Heeds kinds ∨ (s.stepCount + 1) % 10 = 0 ∨
      ∃ slot, ((s.ready cli input).attempt.slots.get slot).isSome = true ∧
        input.finished slot = some .ok) :
    (s.iterate cli input).machine.Heeds kinds := by
  have begun := ready_inv core cli input
  have exclusive : (s.ready cli input).attempt.slots.Exclusive := begun.exclusive
  have count := ready_stepCount cli s input
  have machine := ready_machine cli s input
  have last : (s.iterate cli input).machine =
      (((s.ready cli input).completeFinished cli input).1.evaluateTick
        ((s.ready cli input).completeFinished cli input).2 (s.telemetry cli input)).1.machine := by
    rw [iterate_eq, recordAcquired, dispatch_machine]
  rw [last]
  have joined := completeFinished_joined core cli input
  generalize (s.ready cli input).completeFinished cli input = done at joined ⊢
  cases joined with
  | nothing idle =>
    refine evaluateTick_heeds begun.samePolicy favours ?_
    rw [machine, count]
    rcases heeds with heeds | cadence | ⟨slot, occupied, finished⟩
    next => exact .inl heeds
    next => exact .inr ⟨cadence, rfl⟩
    next => rcases idle slot with empty | running <;> simp_all
  | succeeded slot =>
    have recorded : (((s.ready cli input).machine.recordActuator slot.succeeded).2).policy =
        policy := (SafetyMachine.recordActuator_policy _ _).trans begun.samePolicy
    refine evaluateTick_heeds ?_ favours (.inl (SafetyMachine.evaluate_heeds ?_))
    next => exact (SafetyMachine.evaluate_policy _ _).trans recorded
    next =>
      have kind := Acquisition.kind_assess recorded cli (input.reassessment slot)
      have reassessed := favours.reassessed slot
      rw [← kind (s.ready cli input).sampleClock] at reassessed
      exact reassessed
  | failed slot result error occupied finished failure =>
    have claim := inflight_claim begun occupied
    refine evaluateTick_heeds ?_ favours ?_
    next => exact (SafetyMachine.recordActuator_policy _ _).trans begun.samePolicy
    next =>
      rcases heeds with heeds | cadence | ⟨other, held, succeeded⟩
      next =>
        rw [← machine] at heeds
        exact .inl (heeds.failed error claim)
      next => exact .inr ⟨count ▸ cadence, rfl⟩
      next =>
        obtain rfl := exclusive.unique held occupied
        exact absurd (Option.some.inj (finished.symm.trans succeeded)) failure

theorem dispatch_get {s : Supervisor} (gateFree due : Bool) {slot : Slot}
    (clear : s.attempt.slots.get slot = none) (unwanted : s.machine.snapshot.intent ≠ slot.intent) :
    (s.dispatch gateFree due).attempt.slots.get slot = none := by
  rw [dispatch_attempt]
  rcases dispatch_slots s.machine.snapshot (tryEnter gateFree) due s.attempt with
    ⟨_, same⟩ | ⟨_, _, task, ⟨apply, filled⟩ | ⟨release, filled⟩⟩
  next => rwa [same]
  next =>
    cases slot with
    | brake => exact absurd apply unwanted
    | release => simpa [filled, Slots.get] using clear
  next =>
    cases slot with
    | brake => simpa [filled, Slots.get] using clear
    | release => exact absurd release unwanted

theorem begin_get (gateFree : Bool) {slot : Slot} (clear : s.attempt.slots.get slot = none)
    (unwanted : s.machine.snapshot.intent ≠ slot.intent) :
    (s.begin gateFree).attempt.slots.get slot = none := by
  simp only [begin, retryPending]
  split
  next => exact dispatch_get _ _ clear unwanted
  next => exact clear

theorem iterate_get (core : RelayCore.Inv policy s.core) {slot : Slot}
    (unwanted : (s.iterate cli input).machine.snapshot.intent ≠ slot.intent)
    (cleared : (s.ready cli input).attempt.slots.get slot = none ∨
      ∃ joined, ((s.ready cli input).attempt.slots.get joined).isSome = true ∧
        (input.finished joined).isSome = true) :
    (s.iterate cli input).attempt.slots.get slot = none := by
  have begun := ready_inv core cli input
  have joined := completeFinished_joined core cli input
  have emptied (other : Slot)
      (occupied : ((s.ready cli input).attempt.slots.get other).isSome = true) :
      ((s.ready cli input).attempt.slots.take other).get slot = none := by
    have exclusive : (s.ready cli input).attempt.slots.Exclusive := begun.exclusive
    rw [exclusive.take_empty occupied]
    cases slot <;> rfl
  have clear :
      ((s.ready cli input).completeFinished cli input).1.attempt.slots.get slot = none := by
    generalize (s.ready cli input).completeFinished cli input = done at joined ⊢
    cases joined with
    | nothing idle =>
      rcases cleared with clear | ⟨other, occupied, finished⟩
      next => exact clear
      next => rcases idle other with empty | running <;> simp_all
    | succeeded other occupied => exact emptied other occupied
    | failed other result error occupied => exact emptied other occupied
  rw [iterate_eq] at unwanted ⊢
  simp only [recordAcquired, dispatch_machine] at unwanted ⊢
  exact dispatch_get _ _ (by rwa [evaluateTick_attempt]) unwanted

theorem dispatch_unspawned {gateFree due : Bool}
    (idle : (s.dispatch gateFree due).attempt.slots.isEmpty = true) :
    (s.dispatch gateFree due).log = s.log := by
  rw [dispatch_attempt] at idle
  simp only [dispatch]
  rcases dispatch_slots s.machine.snapshot (tryEnter gateFree) due s.attempt with
    ⟨unspawned, _⟩ | ⟨_, _, task, ⟨_, filled⟩ | ⟨_, filled⟩⟩
  next => rw [if_neg unspawned]
  next => simp [filled, Slots.isEmpty] at idle
  next => simp [filled, Slots.isEmpty] at idle

theorem evaluateTick_unspawned (s : Supervisor) (flags : TickFlags) (telemetry : TelemetryFrame) :
    ∃ newer, (s.evaluateTick flags telemetry).1.log = newer ++ s.log ∧
      ∀ snap, .spawned snap ∉ newer := by
  simp only [evaluateTick]
  split
  next => exact ⟨[], rfl, by simp⟩
  next =>
    split
    next => exact ⟨[_, _], rfl, by simp⟩
    next => exact ⟨[_], rfl, by simp⟩

theorem spawns_occupied {target : BrakeIntent} (spawns : Spawns cli target s input) :
    (s.ready cli input).attempt.slots.isEmpty = false ∨
      (s.iterate cli input).attempt.slots.isEmpty = false := by
  by_contra idle
  simp only [not_or, Bool.not_eq_false] at idle
  obtain ⟨early, late⟩ := idle
  obtain ⟨newer, grown, snap, spawned, _⟩ := spawns
  have begun : (s.ready cli input).log = s.log := by
    have early : (s.begin input.retryGateFree).attempt.slots.isEmpty = true := early
    change (s.begin input.retryGateFree).log = s.log
    simp only [begin, retryPending] at early ⊢
    split
    next pending =>
      rw [if_pos pending] at early
      exact dispatch_unspawned early
    next => rfl
  have completed := completeFinished_idle cli input fun slot =>
    .inl (Slots.isEmpty_iff_get.mp early slot)
  rw [iterate_eq, completed] at grown late
  obtain ⟨events, judged, unspawned⟩ :=
    evaluateTick_unspawned (s.ready cli input) .clear (s.telemetry cli input)
  have last := dispatch_unspawned late
  have same : newer ++ s.log = events ++ s.log := by
    rw [← grown, ← begun, ← judged]
    exact last
  rw [List.append_cancel_right same] at spawned
  exact unspawned snap spawned

end Supervisor

structure Governs (kinds : AssessmentKind → Prop) (slot : Slot) : Prop where
  unopposed : ∀ m : SafetyMachine, m.Heeds kinds → m.snapshot.intent ≠ slot.other.intent

theorem SafetyMachine.intent_claim {m : SafetyMachine} {slot : Slot}
    (wanted : m.snapshot.intent = slot.intent) : m.brakeEngaged = !slot.claims := by
  cases slot with
  | brake => exact ((intentFrom_apply _ _).mp wanted).2
  | release => exact ((intentFrom_release _ _).mp wanted).2

theorem Governs.unwanted {kinds : AssessmentKind → Prop} {slot : Slot}
    (governs : Governs kinds slot) {m : SafetyMachine} (heeds : m.Heeds kinds)
    (claim : m.brakeEngaged = slot.claims) (any : Slot) : m.snapshot.intent ≠ any.intent := by
  have unopposed := governs.unopposed m heeds
  have unasked : m.snapshot.intent ≠ slot.intent := by
    intro wanted
    rw [SafetyMachine.intent_claim wanted] at claim
    simp at claim
  cases slot <;> cases any <;> first | exact unasked | exact unopposed

-- A verdict that fails closed asks for the brake whatever the claim.
theorem hazard_governs : Governs (fun kind => kind.failsClosed = true) .brake where
  unopposed := by
    rintro m ⟨kind, failsClosed, state⟩ release
    have undesired := ((intentFrom_release _ _).mp release).1
    simp only [SafetyMachine.desiredFromLastPolicy] at undesired
    rw [state] at undesired
    cases kind <;> simp_all [AssessmentKind.policyState, AssessmentKind.failsClosed]

theorem recovery_governs : Governs (fun kind => kind = .ok) .release where
  unopposed := by
    rintro m ⟨kind, rfl, state⟩ apply
    obtain ⟨desired, free⟩ := (intentFrom_apply _ _).mp apply
    simp only [SafetyMachine.desiredFromLastPolicy] at desired
    rw [state, free] at desired
    simp [AssessmentKind.policyState] at desired

end ThalamicRelay
