import ThalamicRelay.Safety.MachineRuns

set_option autoImplicit false

namespace ThalamicRelay

/-- The last two fields are history: every snapshot the machine returned, and every recorded
outcome with the policy state it met. -/
structure LibraryClient where
  machine : SafetyMachine
  lastIntent : Option BrakeIntent
  applies : Nat
  releases : Nat
  returned : List SafetySnapshot
  outcomes : List (SafetyState × ActuatorOutcome)

inductive ClientAction
  | evaluate (frame : TelemetryFrame)
  | readSnapshot
  | startApply
  | startRelease
  | finishApply (failure : Option String)
  | finishRelease (failure : Option String)

namespace LibraryClient

def start (policy : SafetyPolicy) (seeded : Bool) : LibraryClient where
  machine := .start policy seeded
  lastIntent := none
  applies := 0
  releases := 0
  returned := []
  outcomes := []

def observe (c : LibraryClient) (reply : SafetySnapshot × SafetyMachine) : LibraryClient :=
  { c with
    machine := reply.2
    lastIntent := some reply.1.intent
    returned := reply.1 :: c.returned }

def record (c : LibraryClient) (outcome : ActuatorOutcome) : LibraryClient :=
  { c.observe (c.machine.recordActuator outcome) with
    outcomes := (c.machine.lastPolicyState, outcome) :: c.outcomes }

/-- An action the discipline forbids changes nothing, so every list of actions is a run. -/
def act (c : LibraryClient) : ClientAction → LibraryClient
  | .evaluate frame => c.observe (c.machine.evaluate frame)
  | .readSnapshot => c.observe (c.machine.snapshot, c.machine)
  | .startApply =>
    if c.lastIntent = some .apply then { c with applies := c.applies + 1 } else c
  | .startRelease =>
    if c.lastIntent = some .release then { c with releases := c.releases + 1 } else c
  | .finishApply failure =>
    if 0 < c.applies then
      { c with applies := c.applies - 1 }.record
        (match failure with | none => .applied | some error => .applyFailed error)
    else c
  | .finishRelease failure =>
    if 0 < c.releases then
      { c with releases := c.releases - 1 }.record
        (match failure with | none => .released | some error => .releaseFailed error)
    else c

def run (policy : SafetyPolicy) (seeded : Bool) (actions : List ClientAction) : LibraryClient :=
  actions.foldl act (start policy seeded)

end LibraryClient

def SafetySnapshot.Authorized (streak : Nat) (snap : SafetySnapshot) : Prop :=
  snap.intent = .release → snap.brakeEngaged = true ∧ streak ≤ snap.hysteresisOkCount

namespace SafetyMachine

/-- The only way to an early release intent: a brake claimed under a healthy verdict. -/
def Premature (m : SafetyMachine) : Prop :=
  m.lastPolicyState = .healthyReal ∧ m.brakeEngaged = true

theorem snapshot_authorized_iff {m : SafetyMachine} (inv : Inv m) :
    m.snapshot.Authorized m.policy.config.releaseOkStreak ↔ ¬ m.Premature := by
  have positive := m.policy.ordered.streak
  simp only [SafetySnapshot.Authorized]
  rw [snapshot_intent, intentFrom_release, snapshot_brakeEngaged, snapshot_hysteresisOkCount]
  constructor
  · rintro authorized ⟨healthy, engaged⟩
    have early : m.desiredFromLastPolicy = false := by simp [desiredFromLastPolicy, healthy]
    have enough := (authorized ⟨early, engaged⟩).2
    rw [inv.healthy healthy] at enough
    omega
  · rintro calm ⟨undesired, engaged⟩
    refine ⟨engaged, ?_⟩
    simp only [desiredFromLastPolicy] at undesired
    cases policyState : m.lastPolicyState with
    | healthyReal => exact absurd ⟨policyState, engaged⟩ calm
    | recovering => simpa [policyState] using undesired
    | _ => simp [policyState, engaged] at undesired

theorem evaluate_authorized (m : SafetyMachine) (frame : TelemetryFrame) :
    (m.evaluate frame).1.Authorized m.policy.config.releaseOkStreak := by
  intro release
  rw [evaluate_intent, intentFrom_release] at release
  obtain ⟨undesired, engaged⟩ := release
  refine ⟨(evaluate_snapshot_brakeEngaged m frame).trans engaged, ?_⟩
  rw [evaluate_hysteresisOkCount]
  cases kind : m.kindOf frame <;> simp_all [demand]

theorem evaluate_premature (m : SafetyMachine) (frame : TelemetryFrame) :
    ¬ (m.evaluate frame).2.Premature := by
  rintro ⟨healthy, engaged⟩
  rw [evaluate_brakeEngaged] at engaged
  rw [evaluate_lastPolicyState, engaged] at healthy
  cases kind : m.kindOf frame <;> simp [kind, AssessmentKind.policyState] at healthy

theorem recordActuator_premature (m : SafetyMachine) (outcome : ActuatorOutcome) :
    (m.recordActuator outcome).2.Premature ↔
      (m.lastPolicyState = .healthyReal ∧ outcome = .applied) ∨
        (m.Premature ∧ ∃ error, outcome = .releaseFailed error) := by
  cases outcome <;> simp [Premature]

theorem recordActuator_authorized {m : SafetyMachine} (inv : Inv m) (outcome : ActuatorOutcome) :
    (m.recordActuator outcome).1.Authorized m.policy.config.releaseOkStreak ↔
      ¬ (m.recordActuator outcome).2.Premature := by
  have agrees := recordActuator_agrees m outcome
  rw [← snapshot_authorized_iff (inv_recordActuator inv outcome), recordActuator_policy]
  simp only [SafetySnapshot.Authorized]
  rw [agrees.intent, agrees.brakeEngaged, agrees.hysteresisOkCount]

end SafetyMachine

namespace LibraryClient

open SafetyMachine

structure Inv (policy : SafetyPolicy) (c : LibraryClient) : Prop where
  machine : c.machine.Inv
  samePolicy : c.machine.policy = policy
  premature : c.machine.Premature → (.healthyReal, .applied) ∈ c.outcomes
  explained : ∀ snap ∈ c.returned, ¬ snap.Authorized policy.config.releaseOkStreak →
    (.healthyReal, .applied) ∈ c.outcomes
  exposed : (.healthyReal, .applied) ∈ c.outcomes →
    ∃ snap ∈ c.returned, ¬ snap.Authorized policy.config.releaseOkStreak

theorem inv_start (policy : SafetyPolicy) (seeded : Bool) : Inv policy (start policy seeded) := by
  constructor
  · exact SafetyMachine.inv_start policy seeded
  · cases seeded <;> rfl
  · cases seeded <;>
      simp [start, SafetyMachine.start, withPolicy, seedBrakeApplied, Premature]
  · simp [start]
  · simp [start]

theorem inv_observe {policy : SafetyPolicy} {c : LibraryClient} (inv : Inv policy c)
    {reply : SafetySnapshot × SafetyMachine} (machine : reply.2.Inv)
    (same : reply.2.policy = c.machine.policy)
    (premature : reply.2.Premature → c.machine.Premature)
    (authorized : ¬ reply.1.Authorized policy.config.releaseOkStreak → c.machine.Premature) :
    Inv policy (c.observe reply) := by
  constructor
  · exact machine
  · exact same.trans inv.samePolicy
  · exact fun early => inv.premature (premature early)
  · intro snap member early
    rcases List.mem_cons.mp member with rfl | old
    · exact inv.premature (authorized early)
    · exact inv.explained snap old early
  · intro recorded
    obtain ⟨snap, old, early⟩ := inv.exposed recorded
    exact ⟨snap, List.mem_cons_of_mem _ old, early⟩

theorem inv_record {policy : SafetyPolicy} {c : LibraryClient} (inv : Inv policy c)
    (outcome : ActuatorOutcome) : Inv policy (c.record outcome) := by
  have verdict := recordActuator_authorized inv.machine outcome
  rw [inv.samePolicy] at verdict
  have cause (early : (c.machine.recordActuator outcome).2.Premature) :
      (.healthyReal, .applied) ∈ (c.record outcome).outcomes := by
    rcases (recordActuator_premature c.machine outcome).mp early with ⟨healthy, rfl⟩ | ⟨before, _⟩
    · rw [record, healthy]
      exact List.mem_cons_self
    · exact List.mem_cons_of_mem _ (inv.premature before)
  constructor
  · exact inv_recordActuator inv.machine outcome
  · exact (recordActuator_policy c.machine outcome).trans inv.samePolicy
  · exact cause
  · intro snap member early
    rcases List.mem_cons.mp member with rfl | old
    · exact cause (not_not.mp (fun calm => early (verdict.mpr calm)))
    · exact List.mem_cons_of_mem _ (inv.explained snap old early)
  · intro recorded
    rcases List.mem_cons.mp recorded with new | old
    · obtain ⟨healthy, applied⟩ := Prod.mk.inj new
      refine ⟨_, List.mem_cons_self, fun authorized => verdict.mp authorized ?_⟩
      exact (recordActuator_premature c.machine outcome).mpr (.inl ⟨healthy.symm, applied.symm⟩)
    · obtain ⟨snap, member, early⟩ := inv.exposed old
      exact ⟨snap, List.mem_cons_of_mem _ member, early⟩

theorem Inv.recount {policy : SafetyPolicy} {c : LibraryClient} (inv : Inv policy c)
    (applies releases : Nat) : Inv policy { c with applies := applies, releases := releases } :=
  ⟨inv.machine, inv.samePolicy, inv.premature, inv.explained, inv.exposed⟩

theorem inv_act {policy : SafetyPolicy} {c : LibraryClient} (inv : Inv policy c)
    (action : ClientAction) : Inv policy (c.act action) := by
  cases action with
  | evaluate frame =>
    refine inv_observe inv (inv_evaluate c.machine frame) (evaluate_policy c.machine frame)
      (fun early => absurd early (evaluate_premature c.machine frame)) (fun early => ?_)
    rw [← inv.samePolicy] at early
    exact absurd (evaluate_authorized c.machine frame) early
  | readSnapshot =>
    refine inv_observe inv inv.machine rfl id (fun early => ?_)
    rw [← inv.samePolicy] at early
    exact not_not.mp (fun calm => early ((snapshot_authorized_iff inv.machine).mpr calm))
  | startApply =>
    simp only [act]
    split_ifs
    · exact inv.recount _ _
    · exact inv
  | startRelease =>
    simp only [act]
    split_ifs
    · exact inv.recount _ _
    · exact inv
  | finishApply failure =>
    simp only [act]
    split_ifs
    · exact inv_record (inv.recount _ _) _
    · exact inv
  | finishRelease failure =>
    simp only [act]
    split_ifs
    · exact inv_record (inv.recount _ _) _
    · exact inv

theorem inv_run (policy : SafetyPolicy) (seeded : Bool) (actions : List ClientAction) :
    Inv policy (run policy seeded actions) := by
  simp only [run]
  induction actions using List.reverseRecOn with
  | nil => exact inv_start policy seeded
  | append_singleton actions action ih =>
    rw [List.foldl_append]
    exact inv_act ih action

theorem release_intent_authorized_iff (policy : SafetyPolicy) (seeded : Bool)
    (actions : List ClientAction) :
    (∀ snap ∈ (run policy seeded actions).returned,
      snap.Authorized policy.config.releaseOkStreak) ↔
      (.healthyReal, .applied) ∉ (run policy seeded actions).outcomes := by
  have inv := inv_run policy seeded actions
  constructor
  · intro authorized recorded
    obtain ⟨snap, member, early⟩ := inv.exposed recorded
    exact early (authorized snap member)
  · intro calm snap member
    by_contra early
    exact calm (inv.explained snap member early)

-- The apply outlives the critical reading that asked for it: an Ok frame is evaluated first.
theorem late_apply_releases_early :
    let actions := [.evaluate (testFrame (.finite 90) (.finite 200)), .startApply,
      .evaluate (testFrame (.finite 65) (.finite 200)), .finishApply none]
    ∃ snap ∈ (run .testPolicy false actions).returned, snap.intent = .release ∧
      snap.hysteresisOkCount = 0 ∧
        ¬ snap.Authorized SafetyPolicy.testPolicy.config.releaseOkStreak := by
  intro actions
  have newest : ∃ snap rest, (run .testPolicy false actions).returned = snap :: rest ∧
      snap.intent = .release ∧ snap.hysteresisOkCount = 0 :=
    ⟨_, _, rfl, by decide +kernel, by decide +kernel⟩
  obtain ⟨snap, rest, returned, release, zero⟩ := newest
  refine ⟨snap, returned ▸ List.mem_cons_self, release, zero, fun authorized => ?_⟩
  have enough := (authorized release).2
  rw [zero] at enough
  exact absurd enough (by decide)

end LibraryClient

end ThalamicRelay
