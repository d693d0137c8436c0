import ThalamicRelay.Shared.Transition
import ThalamicRelay.Supervisor.Gauges

set_option autoImplicit false

namespace ThalamicRelay

open BinaryFloat Transition

abbrev F64 := BinaryFloat.Value

/-- A duration of so many nanoseconds as f64 seconds, the fraction rounded apart. -/
def asSecsF64 (nanos : Nat) : F64 :=
  Value.add binary64.round (binary64.round (nanos / 1000000000 : Nat))
    (Value.div binary64.round (.finite (nanos % 1000000000 : Nat)) (.finite 1000000000))

-- Monotonic instants are nanoseconds since the start of the process.
def freshnessSecondsMonotonic (receivedAt : Option Nat) (now : Nat) : F64 :=
  (receivedAt.map fun ts => asSecsF64 (now - ts)).getD (.finite 0)

theorem asSecsF64_zero : asSecsF64 0 = .finite 0 := by
  have fraction : Value.div binary64.round (.finite 0) (.finite 1000000000) = .finite 0 := by
    simp [Value.div, binary64.round_zero]
  simp [asSecsF64, fraction, binary64.round_zero, Value.add]

-- A nanosecond is far above the smallest f64.
theorem asSecsF64_pos {nanos : Nat} (positive : 0 < nanos) :
    ∃ e : ℤ, .finite (2 ^ e) ≤ asSecsF64 nanos := by
  have whole : (.finite 0 : F64) ≤ binary64.round (nanos / 1000000000 : Nat) :=
    binary64.zero_le_round (by positivity)
  have fraction : Value.div binary64.round (.finite (nanos % 1000000000 : Nat))
      (.finite 1000000000) =
        binary64.round ((nanos % 1000000000 : Nat) / 1000000000) := by
    simp [Value.div]
  have part : (.finite 0 : F64) ≤ binary64.round ((nanos % 1000000000 : Nat) / 1000000000) :=
    binary64.zero_le_round (by positivity)
  by_cases seconds : 0 < nanos / 1000000000
  next =>
    have one : (2 : ℚ) ^ (0 : ℤ) ≤ (nanos / 1000000000 : Nat) := by
      rw [zpow_zero]
      exact_mod_cast seconds
    have above := binary64.zpow_le_round 0 _ (by decide) (by decide) one
    refine ⟨0, ?_⟩
    rw [asSecsF64, fraction]
    apply binary64.zpow_le_add 0 (by decide) (by decide) above part
    rw [add_zero]
  next =>
    have some : 0 < nanos % 1000000000 := by omega
    have small : (2 : ℚ) ^ (-30 : ℤ) ≤ (nanos % 1000000000 : Nat) / 1000000000 := by
      have one : (1 : ℚ) ≤ (nanos % 1000000000 : Nat) := by exact_mod_cast some
      rw [le_div_iff₀ (by norm_num)]
      norm_num
      linarith
    have above := binary64.zpow_le_round (-30) _ (by decide) (by decide) small
    refine ⟨-30, ?_⟩
    rw [asSecsF64, fraction]
    apply binary64.zpow_le_add (-30) (by decide) (by decide) whole above
    rw [zero_add]

theorem asSecsF64_eq_zero {nanos : Nat} : asSecsF64 nanos = .finite 0 ↔ nanos = 0 := by
  constructor
  next =>
    intro zero
    by_contra positive
    obtain ⟨e, above⟩ := asSecsF64_pos (Nat.pos_of_ne_zero positive)
    rw [zero, Value.finite_le_finite] at above
    exact absurd above (not_le.mpr (by positivity))
  next =>
    rintro rfl
    exact asSecsF64_zero

namespace Supervisor

theorem completeActuation_received (cli : Cli) (slot : Slot) (succeeded : ActuatorOutcome)
    (failed : String → ActuatorOutcome) (s : Supervisor) (flags : TickFlags)
    (finished : Option TaskResult) (reassessment : Acquisition) :
    (s.completeActuation cli slot succeeded failed flags finished
      reassessment).1.metrics.telemetryReceivedInstant = s.metrics.telemetryReceivedInstant := by
  simp only [completeActuation]
  split
  next => split <;> rfl
  next => rfl

theorem evaluateTick_received (s : Supervisor) (flags : TickFlags) (telemetry : TelemetryFrame) :
    (s.evaluateTick flags telemetry).1.metrics.telemetryReceivedInstant =
      s.metrics.telemetryReceivedInstant := by
  simp only [evaluateTick]
  split
  next => rfl
  next => split <;> rfl

-- The loop stores the wall clock of the frame and nothing else.
theorem iterate_received (cli : Cli) (s : Supervisor) (input : Iteration) :
    (s.iterate cli input).metrics.telemetryReceivedInstant =
      s.metrics.telemetryReceivedInstant := by
  simp only [iterate, recordAcquired, dispatch_metrics, evaluateTick_received, completeFinished,
    completeRelease, completeBrake, completeActuation_received]
  rw [acquire]
  simp only [begin_metrics]

end Supervisor

/-- The relay and its monotonic clock, with the instant the last recorded frame was received. -/
structure Monitored where
  supervisor : Supervisor
  now : Nat
  received : Option Nat

/-- An iteration ends when it records its frame, which it had received age nanoseconds earlier; an
export inside it reads what it has not yet written and is listed before it. -/
inductive MonitorStep
  | iterate (input : Iteration) (elapsed age : Nat)
  | collect (elapsed : Nat)

namespace Monitored

def initial (startup : Startup) : Monitored where
  supervisor := startup.initial
  now := 0
  received := none

def step (cli : Cli) (s : Monitored) : MonitorStep → Monitored
  | .iterate input elapsed age =>
    { supervisor := s.supervisor.iterate cli input
      now := s.now + elapsed
      received := some (s.now + elapsed - age) }
  | .collect elapsed => { s with now := s.now + elapsed }

-- The first gauge that run_metrics_collector sets.
def telemetryFreshness (s : Monitored) (elapsed : Nat) : F64 :=
  freshnessSecondsMonotonic s.supervisor.metrics.telemetryReceivedInstant (s.now + elapsed)

def GaugeIsAge (s : Monitored) : MonitorStep → Prop
  | .iterate _ _ _ => True
  | .collect elapsed =>
    ∀ received ∈ s.received,
      s.telemetryFreshness elapsed = asSecsF64 (s.now + elapsed - received)

def AtReceipt (s : Monitored) : MonitorStep → Prop
  | .iterate _ _ _ => True
  | .collect elapsed => ∀ received ∈ s.received, s.now + elapsed = received

structure Unstamped (s : Monitored) : Prop where
  instant : s.supervisor.metrics.telemetryReceivedInstant = none
  past : ∀ received ∈ s.received, received ≤ s.now

theorem unstamped_initial (startup : Startup) : (initial startup).Unstamped where
  instant := by
    simp only [initial, Startup.initial, Supervisor.seedStartupBrake]
    split <;> rfl
  past := by simp [initial]

theorem unstamped_step (cli : Cli) {s : Monitored} (unstamped : s.Unstamped)
    (label : MonitorStep) : (s.step cli label).Unstamped := by
  cases label with
  | iterate input elapsed age =>
    constructor
    case instant =>
      simpa only [step, Supervisor.iterate_received] using unstamped.instant
    case past => simp [step]
  | collect elapsed =>
    constructor
    case instant => exact unstamped.instant
    case past =>
      intro received last
      have known := unstamped.past received last
      simp only [step]
      omega

theorem telemetryFreshness_zero {s : Monitored} (unstamped : s.Unstamped) (elapsed : Nat) :
    s.telemetryFreshness elapsed = .finite 0 := by
  simp [telemetryFreshness, freshnessSecondsMonotonic, unstamped.instant]

theorem gaugeIsAge_iff {s : Monitored} (unstamped : s.Unstamped) (label : MonitorStep) :
    s.GaugeIsAge label ↔ s.AtReceipt label := by
  cases label with
  | iterate _ _ _ => exact Iff.rfl
  | collect elapsed =>
    simp only [GaugeIsAge, AtReceipt, telemetryFreshness_zero unstamped]
    apply forall₂_congr
    intro received last
    have known := unstamped.past received last
    rw [eq_comm, asSecsF64_eq_zero]
    omega

end Monitored

theorem freshness_gauge_is_age_iff (startup : Startup) (labels : List MonitorStep) :
    System.EveryStep (Monitored.step startup.cli) Monitored.GaugeIsAge (.initial startup) labels ↔
      System.EveryStep (Monitored.step startup.cli) Monitored.AtReceipt (.initial startup)
        labels := by
  have kept (s : Monitored) (label : MonitorStep) (unstamped : s.Unstamped) :
      (s.step startup.cli label).Unstamped := Monitored.unstamped_step startup.cli unstamped label
  have same (s : Monitored) (label : MonitorStep) (unstamped : s.Unstamped) :
      s.GaugeIsAge label ↔ s.AtReceipt label := Monitored.gaugeIsAge_iff unstamped label
  exact System.everyStep_iff_under kept same (Monitored.unstamped_initial startup) labels

-- The collector's own period after the only frame, the gauge still says zero.
theorem freshness_gauge_stays_zero :
    let startup := Startup.leftover .testPolicy
    let s := (Monitored.initial startup).step startup.cli (.iterate .cool 0 0)
    s.received = some 0 ∧ s.telemetryFreshness 2000000000 = .finite 0 ∧
      asSecsF64 (s.now + 2000000000 - 0) = .finite 2 ∧
      ¬ System.EveryStep (Monitored.step startup.cli) Monitored.GaugeIsAge (.initial startup)
        [.iterate .cool 0 0, .collect 2000000000] := by
  intro startup s
  have unstamped : s.Unstamped :=
    Monitored.unstamped_step startup.cli (Monitored.unstamped_initial startup) _
  have gauge : s.telemetryFreshness 2000000000 = .finite 0 :=
    Monitored.telemetryFreshness_zero unstamped 2000000000
  have age : asSecsF64 (s.now + 2000000000 - 0) = .finite 2 := by decide +kernel
  refine ⟨rfl, gauge, age, ?_⟩
  intro every
  have claimed : s.telemetryFreshness 2000000000 = asSecsF64 (s.now + 2000000000 - 0) :=
    every.2.1 0 rfl
  rw [gauge, age] at claimed
  exact absurd claimed (by decide)

end ThalamicRelay
