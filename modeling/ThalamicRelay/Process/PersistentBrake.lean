import ThalamicRelay.Supervisor.ManagedPlant

set_option autoImplicit false

namespace ThalamicRelay

open History Saturating Transition

/-- What one start of the executable is given. -/
structure Launch where
  cli : Cli
  policy : SafetyPolicy
  generatedSessionId : String
  currentReadable : Bool
  defaultReadable : Bool

def Launch.site (launch : Launch) (limits : PowerLimits) : Installation where
  cli := launch.cli
  policy := launch.policy
  generatedSessionId := launch.generatedSessionId
  limits := limits
  currentReadable := launch.currentReadable
  defaultReadable := launch.defaultReadable

/-- What a process did, as far as a release has to be accounted for. -/
structure Tenure where
  policy : SafetyPolicy
  log : List Event

structure Orphan where
  slot : Slot
  tenure : Tenure

/-- One device and the processes that run on it one after another. -/
structure Host where
  limits : PowerLimits
  running : Option (Launch × Plant)
  orphans : List Orphan
  ended : List Tenure

inductive HostStep
  | start (launch : Launch)
  | iterate (input : PlantInput)
  | stop
  | finish (index : Nat) (attempt : Attempt)

namespace Host

def tenure (launch : Launch) (p : Plant) : Tenure where
  policy := launch.policy
  log := p.supervisor.log

-- The privileged command is a child of its own and survives the process that spawned it.
def abandoned (launch : Launch) (p : Plant) : List Orphan :=
  if p.outcome.isSome then []
  else if p.supervisor.attempt.slots.brakeTask.isSome then [⟨.brake, tenure launch p⟩]
  else if p.supervisor.attempt.slots.releaseTask.isSome then [⟨.release, tenure launch p⟩]
  else []

def step (h : Host) : HostStep → Host
  | .start launch =>
    match h.running with
    | none => { h with running := some (launch, (launch.site h.limits).initial) }
    | some _ => h
  | .iterate input =>
    match h.running with
    | none => h
    | some (launch, p) =>
      let p := { p with limits := h.limits }.step launch.cli input
      { h with limits := p.limits, running := some (launch, p) }
  | .stop =>
    match h.running with
    | none => h
    | some (launch, p) =>
      { h with
        running := none
        orphans := abandoned launch p ++ h.orphans
        ended := tenure launch p :: h.ended }
  | .finish index attempt =>
    match h.orphans[index]? with
    | none => h
    | some orphan =>
      { h with
        limits := (h.limits.perform orphan.slot.call attempt).2
        orphans := h.orphans.eraseIdx index }

def idle (limits : PowerLimits) : Host where
  limits := limits
  running := none
  orphans := []
  ended := []

def run (limits : PowerLimits) (labels : List HostStep) : Host :=
  labels.foldl step (idle limits)

def tenures (h : Host) : List Tenure :=
  (h.running.map fun running => tenure running.1 running.2).toList ++ h.ended

end Host

def Tenure.Released (t : Tenure) : Prop :=
  ∃ newer snap older, t.log = newer ++ .spawned snap :: older ∧ snap.intent = .release ∧
    snap.brakeEngaged = true ∧ Unbroken Event.mark t.policy.config.releaseOkStreak older

theorem Tenure.Released.grown {policy : SafetyPolicy} {before after : List Event}
    (grown : before <:+ after) (released : (Tenure.mk policy before).Released) :
    (Tenure.mk policy after).Released := by
  obtain ⟨newer, snap, older, split, rest⟩ := released
  obtain ⟨recent, rfl⟩ := grown
  have split : before = newer ++ .spawned snap :: older := split
  exact ⟨recent ++ newer, snap, older, by simp [split], rest⟩

theorem RelayCore.Inv.released {policy : SafetyPolicy} {c : RelayCore} (inv : Inv policy c)
    (occupied : c.attempt.slots.releaseTask.isSome = true) :
    (Tenure.mk policy c.log).Released := by
  obtain ⟨snap, spawned, release⟩ := inv.dispatched occupied
  obtain ⟨newer, older, split⟩ := List.append_of_mem spawned
  exact ⟨newer, snap, older, split, release, inv.authorized newer _ older split snap rfl release⟩

namespace Host

structure Inv (h : Host) : Prop where
  running : ∀ launch p, h.running = some (launch, p) →
    RelayCore.Inv launch.policy p.supervisor.core
  orphans : ∀ orphan ∈ h.orphans, orphan.slot = .release →
    orphan.tenure.Released ∧ orphan.tenure ∈ h.ended

variable {h : Host}

theorem step_limits (inv : h.Inv) (label : HostStep) :
    (h.step label).limits = h.limits ∨
    (∃ attempt, (h.step label).limits = (h.limits.applyEmergencyBrake attempt).2) ∨
    (∃ attempt, (h.step label).limits = (h.limits.releaseEmergencyBrake attempt).2 ∧
      ∃ t ∈ (h.step label).tenures, t.Released) := by
  cases label with
  | start launch =>
    simp only [step]
    split <;> exact .inl rfl
  | stop =>
    simp only [step]
    split <;> exact .inl rfl
  | finish index attempt =>
    simp only [step]
    split
    next => exact .inl rfl
    next orphan found =>
      have member := List.mem_of_getElem? found
      cases slot : orphan.slot with
      | brake => exact .inr (.inl ⟨attempt, rfl⟩)
      | release =>
        obtain ⟨released, kept⟩ := inv.orphans orphan member slot
        refine .inr (.inr ⟨attempt, rfl, orphan.tenure, ?_, released⟩)
        exact List.mem_append_right _ kept
  | iterate input =>
    simp only [step]
    split
    next => exact .inl rfl
    next launch p found =>
      have core := inv.running launch p found
      let now : Plant := { p with limits := h.limits }
      have worked : (now.step launch.cli input).limits = (now.work input).2 := rfl
      rcases now.work_cases input with same | ⟨_, slot, attempt, _, occupied, result⟩
      next => exact .inl (worked.trans (by rw [same]))
      next =>
        rw [result] at worked
        cases slot with
        | brake => exact .inr (.inl ⟨attempt, worked⟩)
        | release =>
          let after := now.step launch.cli input
          refine .inr (.inr ⟨attempt, worked, tenure launch after, List.mem_cons_self, ?_⟩)
          have begun := Supervisor.ready_inv core launch.cli (now.iteration input)
          have steps : RelayCore.Steps launch.policy _ _ :=
            Supervisor.begun_steps launch.cli p.supervisor (now.iteration input)
          exact (begun.released occupied).grown steps.log

theorem abandoned_release {launch : Launch} {p : Plant}
    (core : RelayCore.Inv launch.policy p.supervisor.core) {orphan : Orphan}
    (member : orphan ∈ abandoned launch p) (release : orphan.slot = .release) :
    orphan.tenure.Released ∧ orphan.tenure = tenure launch p := by
  simp only [abandoned] at member
  split at member
  next => simp at member
  next =>
    split at member
    next =>
      obtain rfl := List.mem_singleton.mp member
      simp at release
    next =>
      split at member
      next occupied =>
        obtain rfl := List.mem_singleton.mp member
        exact ⟨core.released occupied, rfl⟩
      next => simp at member

theorem inv_step (inv : h.Inv) (label : HostStep) : (h.step label).Inv := by
  cases label with
  | start launch =>
    simp only [step]
    split
    next =>
      refine ⟨?_, inv.orphans⟩
      intro other p same
      obtain ⟨rfl, rfl⟩ := Prod.mk.inj (Option.some.inj same)
      have reached : (launch.site h.limits).system.Reachable _ := .start rfl
      exact Installation.supervisor_inv reached
    next => exact inv
  | iterate input =>
    simp only [step]
    split
    next => exact inv
    next launch p found =>
      refine ⟨?_, inv.orphans⟩
      intro other last same
      obtain ⟨rfl, rfl⟩ := Prod.mk.inj (Option.some.inj same)
      exact RelayCore.inv_steps (inv.running launch p found) (Supervisor.iterate_steps _ _)
  | stop =>
    simp only [step]
    split
    next => exact inv
    next launch p found =>
      refine ⟨fun _ _ none => by simp at none, ?_⟩
      intro orphan member release
      rcases List.mem_append.mp member with left | earlier
      next =>
        obtain ⟨released, same⟩ := abandoned_release (inv.running launch p found) left release
        exact ⟨released, by simp [same]⟩
      next =>
        obtain ⟨released, kept⟩ := inv.orphans orphan earlier release
        exact ⟨released, List.mem_cons_of_mem _ kept⟩
  | finish index attempt =>
    simp only [step]
    split
    next => exact inv
    next =>
      refine ⟨inv.running, fun orphan member => inv.orphans orphan ?_⟩
      exact List.mem_of_mem_eraseIdx member

theorem run_snoc (limits : PowerLimits) (labels : List HostStep) (label : HostStep) :
    run limits (labels ++ [label]) = (run limits labels).step label := by
  simp only [run, List.foldl_append, List.foldl_cons, List.foldl_nil]

theorem inv_run (limits : PowerLimits) (labels : List HostStep) : (run limits labels).Inv := by
  induction labels using List.reverseRecOn with
  | nil => exact ⟨by simp [run, idle], by simp [run, idle]⟩
  | append_singleton labels label ih =>
    rw [run_snoc]
    exact inv_step ih label

-- Histories only grow, so what some process has earned stays accounted for.
theorem released_step (label : HostStep) (released : ∃ t ∈ h.tenures, t.Released) :
    ∃ t ∈ (h.step label).tenures, t.Released := by
  obtain ⟨t, member, earned⟩ := released
  cases label with
  | start launch =>
    simp only [step]
    split
    next none =>
      refine ⟨t, ?_, earned⟩
      rw [tenures, none] at member
      exact List.mem_append_right _ member
    next => exact ⟨t, member, earned⟩
  | iterate input =>
    simp only [step]
    split
    next => exact ⟨t, member, earned⟩
    next launch p found =>
      rw [tenures, found] at member
      rcases List.mem_cons.mp member with rfl | ended
      next =>
        let now : Plant := { p with limits := h.limits }
        have steps : RelayCore.Steps launch.policy now.supervisor.core
            (now.step launch.cli input).supervisor.core :=
          Supervisor.iterate_steps now.supervisor (now.iteration input)
        exact ⟨_, List.mem_cons_self, earned.grown steps.log⟩
      next => exact ⟨t, List.mem_cons_of_mem _ ended, earned⟩
  | stop =>
    simp only [step]
    split
    next => exact ⟨t, member, earned⟩
    next launch p found =>
      rw [tenures, found] at member
      exact ⟨t, member, earned⟩
  | finish index attempt =>
    simp only [step]
    split <;> exact ⟨t, member, earned⟩

theorem braked_or_released {limits : PowerLimits} (braked : limits.Braked)
    (labels : List HostStep) :
    (run limits labels).limits = limits ∨ ∃ t ∈ (run limits labels).tenures, t.Released := by
  induction labels using List.reverseRecOn with
  | nil => exact .inl rfl
  | append_singleton labels label ih =>
    rw [run_snoc]
    rcases ih with kept | released
    next =>
      rcases step_limits (inv_run limits labels) label with same | ⟨attempt, same⟩ | released
      next => exact .inl (same.trans kept)
      next =>
        left
        rw [same, kept]
        exact PowerLimits.apply_keeps braked attempt
      next =>
        obtain ⟨_, _, released⟩ := released
        exact .inr released
    next => exact .inr (released_step label released)

theorem braked_seeded {limits : PowerLimits} (braked : limits.Braked) {launch : Launch}
    (current : launch.currentReadable = true) (default : launch.defaultReadable = true) :
    (launch.site limits).initial.supervisor.machine.brakeEngaged = true := by
  obtain ⟨target, known, owner⟩ := PowerLimits.braked_iff.mp braked
  have owned := @classifyPowerLimit_ownership limits.currentW _ _ known
  rw [owner] at owned
  simp only [Installation.initial, Installation.startup, Launch.site, PowerLimits.query, current,
    default, if_true, Startup.initial, Supervisor.seedStartupBrake]
  rw [owned]
  rfl

theorem brake_survives_restarts (limits : PowerLimits) (braked : limits.Braked)
    (labels : List HostStep) :
    let h := run limits labels
    (h.limits ≠ limits → ∃ t ∈ h.tenures, t.Released) ∧
    (h.limits.Braked → h.running = none → ∀ launch : Launch, launch.currentReadable = true →
      launch.defaultReadable = true →
      ∃ p, (h.step (.start launch)).running = some (launch, p) ∧
        p.supervisor.machine.brakeEngaged = true) := by
  intro h
  constructor
  next =>
    intro changed
    rcases braked_or_released braked labels with kept | released
    next => exact absurd kept changed
    next => exact released
  next =>
    intro still free launch current default
    refine ⟨(launch.site h.limits).initial, ?_, braked_seeded still current default⟩
    simp only [step, free]

def orphanedRelease : List HostStep :=
  [.start
    { cli := Installation.leftover.cli
      policy := .eagerPolicy
      generatedSessionId := ""
      currentReadable := true
      defaultReadable := true },
   .iterate { iteration := .cool, attempt := none, collected := false }, .stop,
   .finish 0
    { targetResolved := true
      currentReadable := true
      defaultReadable := true
      command := .succeeds }]

theorem brake_survives_restarts_orphan :
    let limits := Installation.leftover.limits
    (run limits orphanedRelease).limits.currentW = 400 ∧
      ∃ t ∈ (run limits orphanedRelease).tenures, t.Released := by
  intro limits
  have restored : (run limits orphanedRelease).limits.currentW = 400 := by decide +kernel
  refine ⟨restored, (brake_survives_restarts limits (by decide +kernel) orphanedRelease).1 ?_⟩
  intro same
  rw [same] at restored
  exact absurd restored (by decide)

def Written (found now : PowerLimits) : Prop :=
  now = found ∨ ∃ target, unambiguousBrakeTarget found.defaultW brakeFraction = some target ∧
    (now = found.set target ∨ now = found.set found.defaultW)

theorem Written.default {found now : PowerLimits} (written : Written found now) :
    now.defaultMw = found.defaultMw := by
  rcases written with rfl | ⟨_, _, rfl | rfl⟩ <;> rfl

theorem Written.set {found now : PowerLimits} (written : Written found now) (limitW : UInt32) :
    now.set limitW = found.set limitW := by
  simp only [PowerLimits.set, written.default]

theorem written_step {found : PowerLimits} (inv : h.Inv) (written : Written found h.limits)
    (label : HostStep) : Written found (h.step label).limits := by
  have same : h.limits.defaultW = found.defaultW := by
    simp only [PowerLimits.defaultW, written.default]
  rcases step_limits inv label with kept | ⟨attempt, applied⟩ | ⟨attempt, released, _⟩
  next =>
    rw [kept]
    exact written
  next =>
    rw [applied]
    rcases h.limits.apply_written attempt with kept | ⟨target, known, _, set⟩
    next =>
      rw [kept]
      exact written
    next =>
      rw [same] at known
      rw [set, written.set]
      exact .inr ⟨target, known, .inl rfl⟩
  next =>
    rw [released]
    rcases h.limits.release_written attempt with kept | ⟨⟨target, known, _⟩, set⟩
    next =>
      rw [kept]
      exact written
    next =>
      rw [same] at known
      rw [set, written.set, same]
      exact .inr ⟨target, known, .inr rfl⟩

theorem foreign_step {found : PowerLimits} (inv : h.Inv) (same : h.limits = found)
    (foreign : ∀ target, unambiguousBrakeTarget found.defaultW brakeFraction = some target →
      ownership found.currentW.toNat found.defaultW.toNat target.toNat = .foreign)
    (label : HostStep) : (h.step label).limits = found := by
  subst same
  rcases step_limits inv label with kept | ⟨attempt, applied⟩ | ⟨attempt, released, _⟩
  next => exact kept
  next =>
    rw [applied]
    rcases h.limits.apply_written attempt with kept | ⟨target, known, owner, _⟩
    next => exact kept
    next =>
      rw [foreign target known] at owner
      simp at owner
  next =>
    rw [released]
    rcases h.limits.release_written attempt with kept | ⟨braked, _⟩
    next => exact kept
    next =>
      obtain ⟨target, known, owner⟩ := PowerLimits.braked_iff.mp braked
      rw [foreign target known] at owner
      simp at owner

theorem foreign_of_observed {limits : PowerLimits}
    (unowned : ∀ brake, classifyPowerLimit (some limits.currentW) (some limits.defaultW)
      brakeFraction ≠ .relayOwnedBrake brake)
    (below : ∀ currentW defaultW, classifyPowerLimit (some limits.currentW)
      (some limits.defaultW) brakeFraction ≠ .atOrAboveDefault currentW defaultW)
    (target : UInt32)
    (known : unambiguousBrakeTarget limits.defaultW brakeFraction = some target) :
    ownership limits.currentW.toNat limits.defaultW.toNat target.toNat = .foreign := by
  have observed := @classifyPowerLimit_ownership limits.currentW _ _ known
  cases owner : ownership limits.currentW.toNat limits.defaultW.toNat target.toNat with
  | foreign => rfl
  | braked =>
    rw [owner] at observed
    exact absurd observed (unowned _)
  | atDefault =>
    rw [owner] at observed
    exact absurd observed (below _ _)

theorem written_run (limits : PowerLimits) (labels : List HostStep) :
    Written limits (run limits labels).limits := by
  induction labels using List.reverseRecOn with
  | nil => exact .inl rfl
  | append_singleton labels label ih =>
    rw [run_snoc]
    exact written_step (inv_run limits labels) ih label

theorem foreign_run {limits : PowerLimits}
    (foreign : ∀ target, unambiguousBrakeTarget limits.defaultW brakeFraction = some target →
      ownership limits.currentW.toNat limits.defaultW.toNat target.toNat = .foreign)
    (labels : List HostStep) : (run limits labels).limits = limits := by
  induction labels using List.reverseRecOn with
  | nil => rfl
  | append_singleton labels label ih =>
    rw [run_snoc]
    exact foreign_step (inv_run limits labels) ih foreign label

theorem only_owned_limits_written (limits : PowerLimits) (labels : List HostStep) :
    let now := (run limits labels).limits
    let observed := classifyPowerLimit (some limits.currentW) (some limits.defaultW) brakeFraction
    Written limits now ∧ now.defaultMw = limits.defaultMw ∧
    ((∀ brake, observed ≠ .relayOwnedBrake brake) →
      (∀ currentW defaultW, observed ≠ .atOrAboveDefault currentW defaultW) → now = limits) := by
  intro now observed
  have written := written_run limits labels
  refine ⟨written, written.default, fun unowned below => ?_⟩
  exact foreign_run (foreign_of_observed unowned below) labels

end Host

end ThalamicRelay
