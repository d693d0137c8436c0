import ThalamicRelay.Shared.Registers
import ThalamicRelay.Shared.Transition
import ThalamicRelay.Supervisor.Metrics

set_option autoImplicit false

namespace ThalamicRelay

open Registers Transition

namespace SafetyState

def all : List SafetyState :=
  [.healthyReal, .warning, .criticalBraked, .recovering, .telemetryMissing, .telemetryStale,
    .telemetryInvalid, .simulatedSoftwareOnly, .actuatorFailure]

def asId : SafetyState → Nat
  | .healthyReal => 0
  | .warning => 1
  | .criticalBraked => 2
  | .recovering => 3
  | .telemetryMissing => 4
  | .telemetryStale => 5
  | .telemetryInvalid => 6
  | .simulatedSoftwareOnly => 7
  | .actuatorFailure => 8

def asStr : SafetyState → String
  | .healthyReal => "healthy_real"
  | .warning => "warning"
  | .criticalBraked => "critical_braked"
  | .recovering => "recovering"
  | .telemetryMissing => "telemetry_missing"
  | .telemetryStale => "telemetry_stale"
  | .telemetryInvalid => "telemetry_invalid"
  | .simulatedSoftwareOnly => "simulated_software_only"
  | .actuatorFailure => "actuator_failure"

theorem mem_all (state : SafetyState) : state ∈ all := by
  cases state <;> decide

theorem all_asId : all.map asId = List.range 9 := by decide

theorem asId_injective : Function.Injective asId := by
  intro first second same
  cases first <;> cases second <;> first | rfl | cases same

theorem asStr_injective : Function.Injective asStr := by
  intro first second same
  cases first <;> cases second <;> first | rfl | simp [asStr] at same

end SafetyState

inductive SafetyGauge
  | safetyState (state : SafetyState)
  | safetyPolicyState (state : SafetyState)
  | safetyStateId
  | safetyPolicyStateId
  | safetyBrakeEngaged
  | safetyHysteresisOkCount
  deriving DecidableEq, Repr

-- Every value is a whole number that a double holds exactly.
def exportSafetyGauges (state policyState : SafetyState) (brakeEngaged : Bool)
    (hysteresisOkCount : Nat) : List (SafetyGauge × Nat) :=
  SafetyState.all.flatMap (fun s =>
    [(.safetyState s, if s = state then 1 else 0),
      (.safetyPolicyState s, if s = policyState then 1 else 0)]) ++
  [(.safetyStateId, state.asId), (.safetyPolicyStateId, policyState.asId),
    (.safetyBrakeEngaged, if brakeEngaged then 1 else 0),
    (.safetyHysteresisOkCount, hysteresisOkCount)]

namespace RelayMetrics

def safetyGauges (metrics : RelayMetrics) : List (SafetyGauge × Nat) :=
  exportSafetyGauges metrics.safetyState metrics.policyState metrics.brakeEngaged
    metrics.hysteresisOkCount

def gauge (metrics : RelayMetrics) : SafetyGauge → Nat
  | .safetyState s => if s = metrics.safetyState then 1 else 0
  | .safetyPolicyState s => if s = metrics.policyState then 1 else 0
  | .safetyStateId => metrics.safetyState.asId
  | .safetyPolicyStateId => metrics.policyState.asId
  | .safetyBrakeEngaged => if metrics.brakeEngaged then 1 else 0
  | .safetyHysteresisOkCount => metrics.hysteresisOkCount

theorem mem_safetyGauges (metrics : RelayMetrics) (entry : SafetyGauge × Nat) :
    entry ∈ metrics.safetyGauges ↔ entry.2 = metrics.gauge entry.1 := by
  obtain ⟨series, value⟩ := entry
  simp only [safetyGauges, exportSafetyGauges, List.mem_append, List.mem_flatMap]
  cases series with
  | safetyState s | safetyPolicyState s => simp [gauge, SafetyState.mem_all]
  | safetyStateId | safetyPolicyStateId | safetyBrakeEngaged | safetyHysteresisOkCount =>
    simp [gauge]

end RelayMetrics

/-- The shared metrics, the registry, and the gauge writes that the store under the lock and the
collector without it have still to make. No step reads the versions, newest first. -/
structure Exporter where
  metrics : RelayMetrics
  gauges : SafetyGauge → Option Nat
  storing : List (SafetyGauge × Nat)
  collecting : List (SafetyGauge × Nat)
  versions : List RelayMetrics

inductive ExporterStep
  | store (snap : SafetySnapshot)
  | exportStored
  | collect
  | exportCollected

namespace Exporter

def initial : Exporter where
  metrics := .default
  gauges := fun _ => none
  storing := []
  collecting := []
  versions := [.default]

-- A store and the collector's clone wait for the lock; the collector's writes do not take it.
def step (e : Exporter) : ExporterStep → Exporter
  | .store snap =>
    if e.storing = [] then
      let metrics := e.metrics.recordSafetySnapshot snap
      { e with
        metrics := metrics
        storing := metrics.safetyGauges
        versions := metrics :: e.versions }
    else e
  | .exportStored =>
    match e.storing with
    | [] => e
    | entry :: rest => { e with gauges := write e.gauges entry, storing := rest }
  | .collect =>
    if e.storing = [] ∧ e.collecting = [] then { e with collecting := e.metrics.safetyGauges }
    else e
  | .exportCollected =>
    match e.collecting with
    | [] => e
    | entry :: rest => { e with gauges := write e.gauges entry, collecting := rest }

def run (labels : List ExporterStep) : Exporter :=
  labels.foldl step initial

def Shows (e : Exporter) : Prop :=
  ∀ series, e.gauges series = some (e.metrics.gauge series)

structure Provenance (e : Exporter) : Prop where
  current : e.metrics ∈ e.versions
  storing : ∀ entry ∈ e.storing, ∃ metrics ∈ e.versions, entry ∈ metrics.safetyGauges
  collecting : ∀ entry ∈ e.collecting, ∃ metrics ∈ e.versions, entry ∈ metrics.safetyGauges
  shown : ∀ series value, e.gauges series = some value →
    ∃ metrics ∈ e.versions, (series, value) ∈ metrics.safetyGauges

structure Current (e : Exporter) : Prop where
  storing : ∀ entry ∈ e.storing, entry ∈ e.metrics.safetyGauges
  collecting : ∀ entry ∈ e.collecting, entry ∈ e.metrics.safetyGauges
  settling : Settling e.metrics.safetyGauges (e.storing ++ e.collecting) e.gauges

def Apart (e : Exporter) : ExporterStep → Prop
  | .store _ => e.collecting = []
  | .exportStored | .collect | .exportCollected => True

variable {e : Exporter}

theorem functional (metrics : RelayMetrics) : ∀ first ∈ metrics.safetyGauges,
    ∀ second ∈ metrics.safetyGauges, first.1 = second.1 → first.2 = second.2 := by
  intro first left second right same
  rw [(metrics.mem_safetyGauges first).mp left, (metrics.mem_safetyGauges second).mp right, same]

theorem write_shown {board : SafetyGauge → Option Nat} {entry : SafetyGauge × Nat}
    {versions : List RelayMetrics}
    (known : ∃ metrics ∈ versions, entry ∈ metrics.safetyGauges)
    (shown : ∀ series value, board series = some value →
      ∃ metrics ∈ versions, (series, value) ∈ metrics.safetyGauges) :
    ∀ series value, write board entry series = some value →
      ∃ metrics ∈ versions, (series, value) ∈ metrics.safetyGauges := by
  intro series value found
  by_cases same : series = entry.1
  next =>
    subst same
    simp only [write, Function.update_self, Option.some.injEq] at found
    subst found
    exact known
  next =>
    simp only [write, Function.update_of_ne same] at found
    exact shown series value found

theorem provenance_step (provenance : e.Provenance) (label : ExporterStep) :
    (e.step label).Provenance := by
  have older {metrics : RelayMetrics} {entry : SafetyGauge × Nat}
      (known : ∃ version ∈ e.versions, entry ∈ version.safetyGauges) :
      ∃ version ∈ metrics :: e.versions, entry ∈ version.safetyGauges := by
    obtain ⟨version, member, held⟩ := known
    exact ⟨version, List.mem_cons_of_mem _ member, held⟩
  cases label with
  | store snap =>
    simp only [step]
    split
    next =>
      exact
        { current := List.mem_cons_self
          storing := fun entry member => ⟨_, List.mem_cons_self, member⟩
          collecting := fun entry member => older (provenance.collecting entry member)
          shown := fun series value found => older (provenance.shown series value found) }
    next => exact provenance
  | exportStored =>
    simp only [step]
    split
    next => exact provenance
    next entry rest coming =>
      have storing := provenance.storing
      rw [coming] at storing
      obtain ⟨known, later⟩ := List.forall_mem_cons.mp storing
      exact
        { provenance with
          storing := later
          shown := write_shown known provenance.shown }
  | collect =>
    simp only [step]
    split
    next =>
      exact { provenance with collecting := fun entry member => ⟨_, provenance.current, member⟩ }
    next => exact provenance
  | exportCollected =>
    simp only [step]
    split
    next => exact provenance
    next entry rest coming =>
      have collecting := provenance.collecting
      rw [coming] at collecting
      obtain ⟨known, later⟩ := List.forall_mem_cons.mp collecting
      exact
        { provenance with
          collecting := later
          shown := write_shown known provenance.shown }

theorem provenance_run (labels : List ExporterStep) : (run labels).Provenance := by
  induction labels using List.reverseRecOn with
  | nil =>
    exact
      { current := List.mem_singleton_self _
        storing := by simp [run, initial]
        collecting := by simp [run, initial]
        shown := by simp [run, initial] }
  | append_singleton labels label ih =>
    rw [run, List.foldl_append]
    exact provenance_step ih label

theorem current_step (current : e.Current) {label : ExporterStep} (apart : e.Apart label) :
    (e.step label).Current := by
  cases label with
  | store snap =>
    have idle : e.collecting = [] := apart
    simp only [step]
    split
    next =>
      refine ⟨fun entry member => member, by simp [idle], ?_⟩
      simpa [idle] using Settling.begun _ _
    next => exact current
  | exportStored =>
    simp only [step]
    split
    next => exact current
    next entry rest coming =>
      have storing := current.storing
      have settling := current.settling
      rw [coming] at storing settling
      obtain ⟨known, later⟩ := List.forall_mem_cons.mp storing
      exact ⟨later, current.collecting, settling.write (functional _) known⟩
  | collect =>
    simp only [step]
    split
    next idle =>
      refine ⟨current.storing, fun entry member => member, ?_⟩
      exact (Settling.begun _ _).mono (fun entry member => List.mem_append_right _ member)
    next => exact current
  | exportCollected =>
    simp only [step]
    split
    next => exact current
    next entry rest coming =>
      have collecting := current.collecting
      have settling := current.settling
      rw [coming] at collecting settling
      obtain ⟨known, later⟩ := List.forall_mem_cons.mp collecting
      refine ⟨current.storing, later, Settling.write (functional _) (settling.mono ?_) known⟩
      intro coming member
      simp only [List.mem_append, List.mem_cons] at member ⊢
      tauto

theorem current_every (current : e.Current) {later : List ExporterStep}
    (apart : System.EveryStep step Apart e later) : (later.foldl step e).Current := by
  induction later generalizing e with
  | nil => exact current
  | cons label rest ih => exact ih (current_step current apart.1) apart.2

theorem current_quiet (current : e.Current) (stored : e.storing = [])
    (collected : e.collecting = []) : e.Shows := by
  have settling := current.settling
  rw [stored, collected] at settling
  intro series
  exact settling.settled (series, e.metrics.gauge series)
    ((e.metrics.mem_safetyGauges _).mpr rfl)

theorem current_collect (stored : e.storing = []) (collected : e.collecting = []) :
    (e.step .collect).Current := by
  simp only [step, stored, collected, and_self, if_true]
  exact ⟨by simp, fun entry member => member, by simpa [stored] using Settling.begun _ _⟩

theorem current_store (stored : e.storing = []) (collected : e.collecting = [])
    (snap : SafetySnapshot) : (e.step (.store snap)).Current := by
  simp only [step, stored, if_true]
  exact ⟨fun entry member => member, by simp [collected],
    by simpa [collected] using Settling.begun _ _⟩

theorem gauges_settle (labels : List ExporterStep) :
    let e := run labels
    (∀ series value, e.gauges series = some value →
      ∃ metrics ∈ e.versions, value = metrics.gauge series) ∧
    (e.storing = [] → e.collecting = [] → ∀ first later,
      first = .collect ∨ (∃ snap, first = .store snap) →
      System.EveryStep step Apart (e.step first) later →
      let after := later.foldl step (e.step first)
      after.storing = [] → after.collecting = [] → after.Shows) := by
  intro e
  constructor
  next =>
    intro series value found
    obtain ⟨metrics, member, held⟩ := (provenance_run labels).shown series value found
    exact ⟨metrics, member, (metrics.mem_safetyGauges _).mp held⟩
  next =>
    intro stored collected first later begins apart after quiet done
    have current : (e.step first).Current := by
      rcases begins with rfl | ⟨snap, rfl⟩
      next => exact current_collect stored collected
      next => exact current_store stored collected snap
    exact current_quiet (current_every current apart) quiet done

-- A healthy store between the collector's second and third writes: the collector goes on to write
-- the state it had copied, and two states are shown at once until the next pass.
def overtaken : List ExporterStep :=
  [.collect, .exportCollected, .exportCollected,
    .store
      { state := .healthyReal
        policyState := .healthyReal
        brakeEngaged := false
        desiredBrake := false
        intent := .none
        hysteresisOkCount := 0
        lastReason := "healthy real telemetry"
        lastActuatorError := none
        transition := some (.telemetryMissing, .healthyReal)
        actuatorFailed := false }] ++
  List.replicate 22 .exportStored ++ List.replicate 20 .exportCollected

theorem overtaken_shows_two_states :
    let e := run overtaken
    e.storing = [] ∧ e.collecting = [] ∧ e.gauges (.safetyState .healthyReal) = some 1 ∧
      e.gauges (.safetyState .telemetryMissing) = some 1 := by
  decide +kernel

end Exporter

end ThalamicRelay
