import ThalamicRelay.Supervisor.Iteration

set_option autoImplicit false

namespace ThalamicRelay

theorem kindOf_softwareFallback (m : SafetyMachine) {frame : TelemetryFrame}
    (fallback : frame.source = .softwareFallback) : m.kindOf frame = .simulated := by
  rw [SafetyMachine.kindOf, classifyFrameWithPolicy, if_pos fallback]

theorem assess_forced {cli : Cli} (forced : cli.forceSoftwareOnly = true)
    (acquisition : Acquisition) (clock : SampleClock) :
    (acquisition.assess cli clock).1.source = .softwareFallback := by
  simp only [Acquisition.assess, Acquisition.acquireRawWithTimeout, forced, if_true]
  rfl

-- A simulated frame demands the claim it finds, so it never asks for an actuation.
theorem SafetyMachine.simulated_intent (m : SafetyMachine) {frame : TelemetryFrame}
    (simulated : m.kindOf frame = .simulated) : (m.evaluate frame).1.intent = .none := by
  rw [evaluate_intent, simulated, intentFrom_none]
  rfl

structure Event.Simulated (seeded : Bool) (event : Event) : Prop where
  unspawned : ∀ snap, event ≠ .spawned snap
  evaluated : ∀ kind snap, event = .evaluated kind snap →
    kind = .simulated ∧ snap.brakeEngaged = seeded ∧ snap.hysteresisOkCount = 0

theorem Event.simulated_offered (seeded : Bool) (frame : TelemetryFrame) :
    (Event.offered frame).Simulated seeded := by
  constructor <;> simp

theorem Event.simulated_evaluated {seeded : Bool} {snap : SafetySnapshot}
    (claim : snap.brakeEngaged = seeded) (zero : snap.hysteresisOkCount = 0) :
    (Event.evaluated .simulated snap).Simulated seeded := by
  constructor
  · simp
  · intro kind seen same
    simp only [Event.evaluated.injEq] at same
    obtain ⟨rfl, rfl⟩ := same
    exact ⟨rfl, claim, zero⟩

namespace Supervisor

structure SoftwareOnly (seeded : Bool) (s : Supervisor) : Prop where
  slots : s.attempt.slots = .empty
  pending : s.attempt.pending = none
  claim : s.machine.brakeEngaged = seeded
  streak : s.machine.okCount = 0
  log : ∀ event ∈ s.log, event.Simulated seeded

variable {seeded : Bool}

theorem softwareOnly_evaluated {s : Supervisor} (software : SoftwareOnly seeded s)
    {frame : TelemetryFrame} (fallback : frame.source = .softwareFallback) :
    SoftwareOnly seeded (s.evaluateThenTryPublish frame).2 := by
  have simulated := kindOf_softwareFallback s.machine fallback
  have zero : s.machine.nextOkCount (s.machine.kindOf frame) = 0 := by
    simp [simulated, SafetyMachine.nextOkCount]
  have evaluated := Event.simulated_evaluated
    ((SafetyMachine.evaluate_snapshot_brakeEngaged s.machine frame).trans software.claim)
    ((SafetyMachine.evaluate_hysteresisOkCount s.machine frame).trans zero)
  rw [← simulated] at evaluated
  exact
    { slots := software.slots
      pending := software.pending
      claim := (SafetyMachine.evaluate_brakeEngaged s.machine frame).trans software.claim
      streak := (SafetyMachine.evaluate_okCount s.machine frame).trans zero
      log := List.forall_mem_cons.mpr ⟨Event.simulated_offered seeded frame,
        List.forall_mem_cons.mpr ⟨evaluated, software.log⟩⟩ }

theorem softwareOnly_tick {s : Supervisor} (software : SoftwareOnly seeded s)
    {frame : TelemetryFrame} (fallback : frame.source = .softwareFallback) :
    SoftwareOnly seeded (s.evaluateTick .clear frame).1 ∧
      (s.evaluateTick .clear frame).2.dispatchDue = false := by
  have idle := s.machine.simulated_intent (kindOf_softwareFallback s.machine fallback)
  have evaluated := softwareOnly_evaluated software fallback
  simp only [evaluateTick, TickFlags.clear, Bool.false_eq_true, if_false]
  by_cases tick : shouldEvaluateTick s.stepCount frame.source = true
  · rw [if_pos tick]
    refine ⟨⟨evaluated.slots, evaluated.pending, evaluated.claim, evaluated.streak,
      evaluated.log⟩, ?_⟩
    have snap : (s.evaluateThenTryPublish frame).1.intent = .none := idle
    simp only [shouldDispatchIntent, snap, if_true]
  · rw [if_neg tick]
    have log := List.forall_mem_cons.mpr ⟨Event.simulated_offered seeded frame, software.log⟩
    exact ⟨⟨software.slots, software.pending, software.claim, software.streak, log⟩, rfl⟩

theorem softwareOnly_iterate {cli : Cli} (forced : cli.forceSoftwareOnly = true) {s : Supervisor}
    (software : SoftwareOnly seeded s) (input : Iteration) :
    SoftwareOnly seeded (s.iterate cli input) := by
  have ready : SoftwareOnly seeded (s.ready cli input) := by
    simp only [Supervisor.ready]
    rw [begin_nothing _ software.pending]
    exact ⟨software.slots, software.pending, software.claim, software.streak, software.log⟩
  have fallback : (s.telemetry cli input).source = .softwareFallback :=
    assess_forced forced input.acquisition _
  have completed : (s.ready cli input).completeFinished cli input =
      (s.ready cli input, .clear) := by
    apply completeFinished_idle
    intro slot
    rw [ready.slots]
    cases slot <;> exact .inl rfl
  obtain ⟨ticked, undue⟩ := softwareOnly_tick ready fallback
  rw [iterate_eq, completed]
  dsimp only
  rw [undue, dispatch_nothing _ ticked.pending]
  exact ⟨ticked.slots, ticked.pending, ticked.claim, ticked.streak, ticked.log⟩

end Supervisor

namespace Startup

theorem softwareOnly_initial (startup : Startup) :
    startup.initial.SoftwareOnly startup.seeded := by
  simp only [initial, Supervisor.seedStartupBrake, seeded]
  cases classifyPowerLimit startup.currentW startup.defaultW brakeFraction with
  | relayOwnedBrake brake =>
    have fresh : Event.seeded.Simulated true := by constructor <;> simp
    exact ⟨rfl, rfl, rfl, rfl, List.forall_mem_cons.mpr ⟨fresh, List.forall_mem_nil _⟩⟩
  | unreadable | atOrAboveDefault | foreignSubDefaultCap =>
    exact ⟨rfl, rfl, rfl, rfl, List.forall_mem_nil _⟩

theorem softwareOnly_run (startup : Startup) (forced : startup.cli.forceSoftwareOnly = true)
    (inputs : List Iteration) : (startup.run inputs).SoftwareOnly startup.seeded := by
  refine (startup.run_reachable inputs).invariant (Supervisor.SoftwareOnly startup.seeded) ?_ ?_
  · intro first initially
    rw [initially]
    exact startup.softwareOnly_initial
  · intro before input after _ software iterated
    rw [← iterated]
    exact Supervisor.softwareOnly_iterate forced software input

theorem software_only_never_actuates (startup : Startup)
    (forced : startup.cli.forceSoftwareOnly = true) (inputs : List Iteration) :
    let s := startup.run inputs
    s.attempt.slots.brakeTask = none ∧ s.attempt.slots.releaseTask = none ∧
    s.attempt.pending = none ∧ (∀ snap, .spawned snap ∉ s.log) ∧
    s.machine.brakeEngaged = startup.seeded ∧ s.machine.okCount = 0 ∧
    ∀ kind snap, .evaluated kind snap ∈ s.log →
      snap.brakeEngaged = startup.seeded ∧ snap.hysteresisOkCount = 0 := by
  intro s
  have software : s.SoftwareOnly startup.seeded := startup.softwareOnly_run forced inputs
  refine ⟨by rw [software.slots]; rfl, by rw [software.slots]; rfl, software.pending, ?_,
    software.claim, software.streak, ?_⟩
  · intro snap member
    exact (software.log _ member).unspawned snap rfl
  · intro kind snap member
    exact ((software.log _ member).evaluated kind snap rfl).2

theorem software_only_leftover :
    let startup : Startup :=
      { leftover .testPolicy with
        cli := { forceSoftwareOnly := true, stepIntervalMs := 100, ipcSessionId := "" } }
    let s := startup.run [.cool, .cool]
    s.attempt.pending = none ∧ s.machine.brakeEngaged = true ∧ s.machine.okCount = 0 := by
  intro startup s
  obtain ⟨_, _, pending, _, claim, streak, _⟩ :=
    software_only_never_actuates startup rfl [.cool, .cool]
  have seeded : startup.seeded = true := by decide +kernel
  exact ⟨pending, claim.trans seeded, streak⟩

end Startup

end ThalamicRelay
