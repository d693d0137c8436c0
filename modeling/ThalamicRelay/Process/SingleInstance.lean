import ThalamicRelay.Process.Lock

set_option autoImplicit false

namespace ThalamicRelay

open Transition

theorem recordedPid_lockText (pid : Pid) : recordedPid (lockText pid) = some pid := by
  simp [recordedPid, lockText, Decimal.parse_line pid.toNat_lt]

theorem recordedPid_blank : recordedPid "" = none := by
  decide

namespace LockPhase

variable {phase : LockPhase}

theorem claims_cases (claims : phase.claims = true) : phase = .writing ∨ phase = .holding := by
  cases phase <;> simp_all [LockPhase.claims]

theorem claims_live (claims : phase.claims = true) : phase.live = true := by
  cases phase <;> simp_all [LockPhase.claims, LockPhase.live]

theorem outside_judges (outside : phase.outside = true) : phase.judges = none := by
  cases phase <;> simp_all [LockPhase.judges, LockPhase.outside]

end LockPhase

namespace LockWorld

variable {world after : LockWorld} {pid other : Pid} {action : LockAction} {next : LockPhase}

@[simp] theorem enter_path : (world.enter pid next).path = world.path := rfl

@[simp] theorem enter_phase :
    (world.enter pid next).phase other = if other = pid then next else world.phase other := by
  simp [enter, Function.update_apply]

structure Moves (world : LockWorld) (pid : Pid) (next : LockPhase) : Prop where
  claims : next.claims = false
  spent : (world.phase pid).spent = true → next.spent = true
  checking : ∀ judged recorded, next = .checking judged recorded →
    ∃ file, world.path = some file ∧ file.creator = judged ∧
      recordedPid file.content = some recorded
  removing : ∀ judged, next = .removing judged →
    ∃ recorded, world.phase pid = .checking judged recorded ∧ world.alive recorded = false

theorem Moves.quiet (claims : next.claims = false)
    (checking : ∀ judged recorded, next ≠ .checking judged recorded)
    (removing : ∀ judged, next ≠ .removing judged)
    (spent : (world.phase pid).spent = true → next.spent = true) : Moves world pid next where
  claims := claims
  spent := spent
  checking := fun judged recorded entered => absurd entered (checking judged recorded)
  removing := fun judged entered => absurd entered (removing judged)

theorem Moves.fail (error : LockError) : Moves world pid (.failed error) :=
  .quiet rfl (by simp) (by simp) (fun _ => rfl)

inductive Effect (world : LockWorld) (pid : Pid) : LockAction → LockWorld → Prop
  | moved (action : LockAction) (next : LockPhase) (moves : Moves world pid next) :
      Effect world pid action (world.enter pid next)
  | created (phase : world.phase pid = .creating) (free : world.path = none) :
      Effect world pid .create ({ world with path := some ⟨some pid, ""⟩ }.enter pid .writing)
  | written (phase : world.phase pid = .writing) :
      Effect world pid .write ((world.writeFile pid (lockText pid)).enter pid .holding)
  | torn (action : LockAction) (text : String) (error : LockError)
      (phase : world.phase pid = .writing) :
      Effect world pid action ((world.writeFile pid text).enter pid (.failed error))
  | removed (judged : Option Pid) (phase : world.phase pid = .removing judged) :
      Effect world pid .remove ({ world with path := none }.enter pid .creating)
  | dropped (phase : world.phase pid = .holding) :
      Effect world pid .dropGuard ({ world with path := none }.enter pid .released)

section StepEffects

variable {error : LockError} {calling : LockPhase → Bool}

theorem start_effect (started : world.start pid next = some after)
    (outside : next = .creating ∨ next = .bystander) : Effect world pid action after := by
  unfold start at started
  split at started
  next absent =>
    cases started
    refine .moved _ _ ?_
    cases outside with
    | inl creating =>
      subst creating
      exact .quiet rfl (by simp) (by simp) (by simp [absent, LockPhase.spent])
    | inr bystander =>
      subst bystander
      exact .quiet rfl (by simp) (by simp) (by simp [absent, LockPhase.spent])
  next => contradiction

theorem create_effect (created : world.create pid = some after) :
    Effect world pid .create after := by
  unfold create at created
  split at created
  next creating =>
    split at created
    next free =>
      cases created
      exact .created creating free
    next =>
      cases created
      exact .moved _ _ (.quiet rfl (by simp) (by simp) (by simp [creating, LockPhase.spent]))
  next => contradiction

theorem read_effect (found : world.read pid = some after) : Effect world pid .read after := by
  unfold read at found
  split at found
  next reading =>
    split at found
    next =>
      cases found
      exact .moved _ _ (.fail _)
    next file linked =>
      split at found
      next =>
        cases found
        exact .moved _ _ (.fail _)
      next recorded parsed =>
        cases found
        refine .moved _ _ ⟨rfl, by simp [reading, LockPhase.spent], ?_, by simp⟩
        intro judged noted entered
        cases entered
        exact ⟨file, linked, rfl, parsed⟩
  next => contradiction

theorem check_effect (checked : world.check pid = some after) :
    Effect world pid .check after := by
  unfold check at checked
  split at checked
  next judged recorded checking =>
    split at checked
    next =>
      cases checked
      exact .moved _ _ (.fail _)
    next gone =>
      cases checked
      refine .moved _ _ ⟨rfl, by simp [checking, LockPhase.spent], by simp, ?_⟩
      intro condemned entered
      cases entered
      exact ⟨recorded, checking, by simpa using gone⟩
  next => contradiction

theorem remove_effect (cleared : world.remove pid = some after) :
    Effect world pid .remove after := by
  unfold remove at cleared
  split at cleared
  next judged removing =>
    split at cleared
    next =>
      cases cleared
      exact .moved _ _ (.fail _)
    next file found =>
      cases cleared
      exact .removed judged removing
  next => contradiction

theorem fail_effect (failed : world.fail pid calling error = some after) :
    Effect world pid action after := by
  unfold fail at failed
  split at failed
  next =>
    cases failed
    exact .moved _ _ (.fail _)
  next => contradiction

theorem step_effect (stepped : world.step (pid, action) = some after) :
    Effect world pid action after := by
  cases action with
  | start => exact start_effect stepped (.inl rfl)
  | startBystander => exact start_effect stepped (.inr rfl)
  | create => exact create_effect stepped
  | read => exact read_effect stepped
  | check => exact check_effect stepped
  | remove => exact remove_effect stepped
  | createFails _ | readFails | removeFails _ =>
    simp only [step] at stepped
    exact fail_effect stepped
  | write =>
    simp only [step, write] at stepped
    split at stepped
    next writing =>
      cases stepped
      exact .written writing
    next => contradiction
  | writeFails written cause =>
    simp only [step, write] at stepped
    split at stepped
    next writing =>
      cases stepped
      exact .torn _ _ _ writing
    next => contradiction
  | dropGuard =>
    simp only [step, dropGuard] at stepped
    split at stepped
    next holding =>
      cases stepped
      exact .dropped holding
    next => contradiction
  | dropGuardFails =>
    simp only [step, dropGuard] at stepped
    split at stepped
    next =>
      cases stepped
      exact .moved _ _ (.quiet rfl (by simp) (by simp) (fun _ => rfl))
    next => contradiction
  | exit =>
    simp only [step] at stepped
    split at stepped
    next =>
      cases stepped
      exact .moved _ _ (.quiet rfl (by simp) (by simp) (fun _ => rfl))
    next => contradiction

end StepEffects

structure Judged (world : LockWorld) (phase : LockPhase) : Prop where
  spent : ∀ owner, phase.judges = some owner → (world.phase owner).spent = true
  checked : ∀ owner recorded, phase = .checking (some owner) recorded →
    (world.phase owner).claims = true → recorded = owner
  condemned : ∀ owner, phase = .removing (some owner) → (world.phase owner).claims = false

structure Inv (world : LockWorld) : Prop where
  blank : ∀ pid, world.phase pid = .writing → world.path = some ⟨some pid, ""⟩
  recorded : ∀ pid, world.phase pid = .holding → world.path = some ⟨some pid, lockText pid⟩
  linked : ∀ owner content, world.path = some ⟨some owner, content⟩ →
    (world.phase owner).spent = true
  judged : ∀ pid, world.Judged (world.phase pid)

structure Keeps (before after : LockWorld) : Prop where
  spent : ∀ pid, (before.phase pid).spent = true → (after.phase pid).spent = true
  claims : ∀ pid, (before.phase pid).spent = true → (after.phase pid).claims = true →
    (before.phase pid).claims = true

theorem Keeps.enter {path : Option LockFile}
    (spent : (world.phase pid).spent = true → next.spent = true)
    (claims : (world.phase pid).spent = true → next.claims = true →
      (world.phase pid).claims = true) :
    Keeps world ({ world with path := path }.enter pid next) := by
  constructor
  next =>
    intro other before
    by_cases same : other = pid
    next =>
      subst same
      simpa using spent before
    next => simpa [same] using before
  next =>
    intro other before after
    by_cases same : other = pid
    next =>
      subst same
      exact claims before (by simpa using after)
    next => simpa [same] using after

theorem Judged.quiet (judges : next.judges = none) : world.Judged next where
  spent := fun owner judged => by
    simp [judges] at judged
  checked := fun owner recorded checking => by
    simp [checking, LockPhase.judges] at judges
  condemned := fun owner removing => by
    simp [removing, LockPhase.judges] at judges

theorem Judged.keep (judged : world.Judged next) (keeps : Keeps world after) :
    after.Judged next where
  spent := fun owner found => keeps.spent owner (judged.spent owner found)
  checked := fun owner recorded checking claims => by
    have spent := judged.spent owner (by simp [checking, LockPhase.judges])
    exact judged.checked owner recorded checking (keeps.claims owner spent claims)
  condemned := fun owner removing => by
    have spent := judged.spent owner (by simp [removing, LockPhase.judges])
    have unclaimed := judged.condemned owner removing
    by_contra claims
    simp [keeps.claims owner spent (by simpa using claims)] at unclaimed

theorem Inv.judged_enter (inv : world.Inv) {path : Option LockFile} (own : world.Judged next)
    (keeps : Keeps world ({ world with path := path }.enter pid next)) (other : Pid) :
    ({ world with path := path }.enter pid next).Judged
      (({ world with path := path }.enter pid next).phase other) := by
  by_cases same : other = pid
  next => simpa [same] using own.keep keeps
  next => simpa [same] using (inv.judged other).keep keeps

theorem Inv.start (initially : world.Initial) : world.Inv where
  blank := fun pid writing => by
    simpa [writing, LockPhase.outside] using initially.outside pid
  recorded := fun pid holding => by
    simpa [holding, LockPhase.outside] using initially.outside pid
  linked := fun owner content found => by
    simpa using initially.foreign _ found
  judged := fun pid => .quiet (LockPhase.outside_judges (initially.outside pid))

theorem Inv.claimed (inv : world.Inv) (claims : (world.phase pid).claims = true) :
    ∃ content, world.path = some ⟨some pid, content⟩ := by
  cases LockPhase.claims_cases claims with
  | inl writing => exact ⟨_, inv.blank pid writing⟩
  | inr holding => exact ⟨_, inv.recorded pid holding⟩

theorem Inv.sole (inv : world.Inv) {content : String}
    (mine : world.path = some ⟨some pid, content⟩) (claims : (world.phase other).claims = true) :
    other = pid := by
  obtain ⟨text, found⟩ := inv.claimed claims
  simp only [mine, Option.some.injEq, LockFile.mk.injEq] at found
  exact found.1.symm

theorem Inv.unclaimed (inv : world.Inv) (free : world.path = none) :
    (world.phase other).claims = false := by
  by_contra claims
  obtain ⟨text, found⟩ := inv.claimed (by simpa using claims)
  simp [free] at found

theorem Inv.named (inv : world.Inv) {owner recorded : Pid} {content : String}
    (found : world.path = some ⟨some owner, content⟩)
    (parsed : recordedPid content = some recorded)
    (claims : (world.phase owner).claims = true) : recorded = owner := by
  cases LockPhase.claims_cases claims with
  | inl writing =>
    have blank := inv.blank owner writing
    simp only [found, Option.some.injEq, LockFile.mk.injEq, true_and] at blank
    simp [blank, recordedPid_blank] at parsed
  | inr holding =>
    have text := inv.recorded owner holding
    simp only [found, Option.some.injEq, LockFile.mk.injEq, true_and] at text
    simpa [text, recordedPid_lockText, eq_comm] using parsed

theorem Moves.judged (inv : world.Inv) (moves : Moves world pid next) : world.Judged next where
  spent := fun owner found => by
    cases next with
    | checking judged recorded =>
      obtain ⟨⟨creator, content⟩, linked, same, _⟩ := moves.checking judged recorded rfl
      simp only [LockPhase.judges] at found
      subst found same
      exact inv.linked owner content linked
    | removing judged =>
      obtain ⟨recorded, checking, _⟩ := moves.removing judged rfl
      simp only [LockPhase.judges] at found
      subst found
      exact (inv.judged pid).spent owner (by simp [checking, LockPhase.judges])
    | _ => simp [LockPhase.judges] at found
  checked := fun owner recorded checking claims => by
    obtain ⟨⟨creator, content⟩, linked, same, parsed⟩ := moves.checking _ _ checking
    simp only at same
    subst same
    exact inv.named linked parsed claims
  condemned := fun owner removing => by
    obtain ⟨recorded, checking, gone⟩ := moves.removing _ removing
    by_contra claims
    simp only [Bool.not_eq_false] at claims
    -- The owner recorded itself, so the check found it alive.
    have same := (inv.judged pid).checked owner recorded checking claims
    simp [alive, same, LockPhase.claims_live claims] at gone

theorem Inv.moved (inv : world.Inv) (moves : Moves world pid next) :
    (world.enter pid next).Inv := by
  have keeps : Keeps world (world.enter pid next) :=
    Keeps.enter moves.spent (fun _ claims => by simp [moves.claims] at claims)
  have idle : next ≠ .writing ∧ next ≠ .holding := by
    constructor <;> intro entered <;> simpa [entered, LockPhase.claims] using moves.claims
  constructor
  next =>
    intro other writing
    by_cases same : other = pid
    next => simp [same, idle.1] at writing
    next => exact inv.blank other (by simpa [same] using writing)
  next =>
    intro other holding
    by_cases same : other = pid
    next => simp [same, idle.2] at holding
    next => exact inv.recorded other (by simpa [same] using holding)
  next =>
    intro owner content found
    exact keeps.spent owner (inv.linked owner content found)
  next => exact inv.judged_enter (moves.judged inv) keeps

theorem Inv.cleared (inv : world.Inv) (claims : next.claims = false)
    (judges : next.judges = none)
    (spent : (world.phase pid).spent = true → next.spent = true)
    (alone : ∀ other, other ≠ pid → (world.phase other).claims = false) :
    ({ world with path := none }.enter pid next).Inv := by
  have unclaimed : ∀ other,
      (({ world with path := none }.enter pid next).phase other).claims = false := by
    intro other
    by_cases same : other = pid
    next => simpa [same] using claims
    next => simpa [same] using alone other same
  constructor
  next =>
    intro other writing
    have idle := unclaimed other
    rw [writing] at idle
    contradiction
  next =>
    intro other holding
    have idle := unclaimed other
    rw [holding] at idle
    contradiction
  next =>
    intro owner content found
    simp at found
  next =>
    refine inv.judged_enter (.quiet judges) (Keeps.enter spent ?_)
    intro _ entered
    simp [claims] at entered

theorem Inv.linkOwn (inv : world.Inv) {content : String} (judges : next.judges = none)
    (spent : next.spent = true)
    (claims : (world.phase pid).spent = true → next.claims = true →
      (world.phase pid).claims = true)
    (alone : ∀ other, other ≠ pid → (world.phase other).claims = false)
    (blank : next = .writing → content = "")
    (recorded : next = .holding → content = lockText pid) :
    ({ world with path := some ⟨some pid, content⟩ }.enter pid next).Inv := by
  have keeps : Keeps world ({ world with path := some ⟨some pid, content⟩ }.enter pid next) :=
    Keeps.enter (fun _ => spent) claims
  constructor
  next =>
    intro other writing
    by_cases same : other = pid
    next =>
      subst same
      simpa using blank (by simpa using writing)
    next =>
      simp only [enter_phase, same, if_false] at writing
      simpa [writing, LockPhase.claims] using alone other same
  next =>
    intro other holding
    by_cases same : other = pid
    next =>
      subst same
      simpa using recorded (by simpa using holding)
    next =>
      simp only [enter_phase, same, if_false] at holding
      simpa [holding, LockPhase.claims] using alone other same
  next =>
    intro owner text found
    simp only [enter_path, Option.some.injEq, LockFile.mk.injEq] at found
    simpa [← found.1] using spent
  next => exact inv.judged_enter (.quiet judges) keeps

theorem Inv.wrote (inv : world.Inv) (text : String) (writing : world.phase pid = .writing) :
    world.writeFile pid text = { world with path := some ⟨some pid, text⟩ } := by
  simp [writeFile, inv.blank pid writing]

theorem Inv.alone (inv : world.Inv) (claims : (world.phase pid).claims = true)
    (distinct : other ≠ pid) : (world.phase other).claims = false := by
  obtain ⟨content, mine⟩ := inv.claimed claims
  by_contra claimed
  exact distinct (inv.sole mine (by simpa using claimed))

theorem Inv.stale (inv : world.Inv) {judged : Option Pid}
    (removing : world.phase pid = .removing judged)
    (current : world.overtaken pid = false) : (world.phase other).claims = false := by
  by_contra claims
  simp only [Bool.not_eq_false] at claims
  obtain ⟨content, mine⟩ := inv.claimed claims
  have same : judged = some other := by
    simpa [overtaken, removing, mine, claims] using current
  have unclaimed := (inv.judged pid).condemned other (by rw [removing, same])
  simp [claims] at unclaimed

theorem Inv.step (inv : world.Inv) (atomic : world.Atomic (pid, action))
    (effect : Effect world pid action after) : after.Inv := by
  cases effect with
  | moved action next moves => exact inv.moved moves
  | created creating free =>
    refine inv.linkOwn rfl rfl ?_ (fun other _ => inv.unclaimed free) (fun _ => rfl) (by simp)
    simp [creating, LockPhase.spent]
  | written writing =>
    rw [inv.wrote _ writing]
    have claims : (world.phase pid).claims = true := by rw [writing]; rfl
    exact inv.linkOwn rfl rfl (fun _ _ => claims) (fun _ => inv.alone claims) (by simp)
      (fun _ => rfl)
  | torn action text error writing =>
    rw [inv.wrote _ writing]
    have claims : (world.phase pid).claims = true := by rw [writing]; rfl
    exact inv.linkOwn rfl rfl (fun _ _ => claims) (fun _ => inv.alone claims) (by simp) (by simp)
  | removed judged removing =>
    refine inv.cleared rfl rfl (by simp [removing, LockPhase.spent]) ?_
    exact fun other _ => inv.stale removing (atomic rfl)
  | dropped holding =>
    have claims : (world.phase pid).claims = true := by rw [holding]; rfl
    exact inv.cleared rfl rfl (fun _ => rfl) (fun _ => inv.alone claims)

theorem Inv.single (inv : world.Inv) : world.SingleInstance := by
  intro first second holding held
  exact inv.sole (inv.recorded second held) (by rw [holding]; rfl)

theorem inv_reachable (reachable : (system.restrict Atomic).Reachable world) : world.Inv := by
  refine reachable.invariant Inv (fun _ => Inv.start) ?_
  intro before label after _ inv stepped
  exact inv.step stepped.1 (step_effect stepped.2)

theorem single_instance (reachable : (system.restrict Atomic).Reachable world) :
    world.SingleInstance :=
  (inv_reachable reachable).single

theorem finish (world : LockWorld) (pid : Pid) (claims : (world.phase pid).claims = true) :
    ∃ labels last, system.Run world labels last ∧ last.phase pid = .holding ∧
      ∀ other, other ≠ pid → last.phase other = world.phase other := by
  cases LockPhase.claims_cases claims with
  | inl writing =>
    refine ⟨[(pid, .write)], (world.writeFile pid (lockText pid)).enter pid .holding,
      System.Run.single ?_, by simp, ?_⟩
    · simp [system, System.ofPartial, step, write, writing]
    · intro other distinct
      simp [distinct, writeFile]
  | inr holding => exact ⟨[], world, System.Run.nil world, holding, fun _ _ => rfl⟩

theorem overtaken_removal_doubles (overtaken : world.overtaken pid = true) :
    ∃ labels last, system.Run world ((pid, .remove) :: labels) last ∧ ¬ last.SingleInstance := by
  obtain ⟨judged, owner, content, removing, found, claims⟩ :
      ∃ judged owner content, world.phase pid = .removing judged ∧
        world.path = some ⟨some owner, content⟩ ∧ (world.phase owner).claims = true := by
    unfold LockWorld.overtaken at overtaken
    split at overtaken
    next judged owner content removing found =>
      simp only [Bool.and_eq_true] at overtaken
      exact ⟨judged, owner, content, removing, found, overtaken.2⟩
    next => contradiction
  have distinct : owner ≠ pid := by
    intro same
    simp [same, removing, LockPhase.claims] at claims
  let freed := { world with path := none }.enter pid .creating
  let retaken := { freed with path := some ⟨some pid, ""⟩ }.enter pid .writing
  have removal : system.Run world [(pid, .remove)] freed := by
    refine System.Run.single ?_
    simp [system, System.ofPartial, step, remove, removing, found, freed]
  have creation : system.Run freed [(pid, .create)] retaken := by
    refine System.Run.single ?_
    simp [system, System.ofPartial, step, create, freed, retaken]
  obtain ⟨first, middle, firstRun, mine, others⟩ :=
    finish retaken pid (by simp [retaken, LockPhase.claims])
  have kept : middle.phase owner = world.phase owner := by
    simp [others owner distinct, retaken, freed, distinct]
  obtain ⟨second, last, secondRun, theirs, rest⟩ :=
    finish middle owner (by rw [kept, claims])
  refine ⟨_, last, removal.append (creation.append (firstRun.append secondRun)), ?_⟩
  intro single
  have held : last.phase pid = .holding := by
    rw [rest pid distinct.symm, mine]
  exact distinct (single owner pid theirs held)

def staleLock : LockWorld where
  path := some ⟨none, "7\n"⟩
  phase := fun pid => if pid = 7 then .dead else .absent

theorem staleLock_initial : staleLock.Initial where
  outside := fun pid => by
    by_cases seven : pid = 7 <;> simp [staleLock, seven, LockPhase.outside]
  foreign := fun file found => by
    simp only [staleLock, Option.some.injEq] at found
    rw [← found]

def reclamation : List (Pid × LockAction) :=
  [(100, .start), (200, .start), (100, .create), (100, .read), (100, .check), (100, .remove),
    (100, .create), (100, .write), (200, .create), (200, .read), (200, .check)]

theorem single_instance_reclaimed : ∃ world, (system.restrict Atomic).Reachable world ∧
    world.phase 100 = .holding ∧ world.phase 200 = .failed (.alreadyActive 100) ∧
    world.SingleInstance := by
  have held : (reclamation.foldlM
      (fun world label => if Atomic world label then world.step label else none) staleLock).map
        (fun world => (world.phase 100, world.phase 200)) =
      some (.holding, .failed (.alreadyActive 100)) := by
    decide +kernel
  obtain ⟨world, ran, phases⟩ := Option.map_eq_some_iff.mp held
  simp only [Prod.mk.injEq] at phases
  have reachable : (system.restrict Atomic).Reachable world :=
    ⟨staleLock, reclamation, staleLock_initial, System.run_restrict ran⟩
  exact ⟨world, reachable, phases.1, phases.2, single_instance reachable⟩

/-- Both find the stale file; the second removes the lock that the first one just took. -/
def removalRace : List (Pid × LockAction) :=
  [(100, .start), (200, .start), (100, .create), (200, .create), (100, .read), (200, .read),
    (100, .check), (200, .check), (100, .remove), (100, .create), (100, .write),
    (200, .remove), (200, .create), (200, .write)]

theorem stale_removal_doubles : ¬ ∀ world, system.Reachable world → world.SingleInstance := by
  intro single
  have held : (removalRace.foldlM step staleLock).map
      (fun world => (world.phase 100, world.phase 200)) = some (.holding, .holding) := by
    decide +kernel
  obtain ⟨world, ran, phases⟩ := Option.map_eq_some_iff.mp held
  simp only [Prod.mk.injEq] at phases
  have reachable : system.Reachable world :=
    ⟨staleLock, removalRace, staleLock_initial, System.run_ofPartial ran⟩
  have same := single world reachable 100 200 phases.1 phases.2
  contradiction

end LockWorld

end ThalamicRelay
