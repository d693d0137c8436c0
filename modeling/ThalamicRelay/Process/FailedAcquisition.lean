import ThalamicRelay.Process.SingleInstance

set_option autoImplicit false

namespace ThalamicRelay

open Transition

namespace LockWorld

variable {world after : LockWorld} {pid other owner : Pid} {action : LockAction}
  {content : String} {error : LockError}

/-- An action that a process does not have now changes nothing, so every list is a run. -/
def act (world : LockWorld) (label : Pid × LockAction) : LockWorld :=
  (world.step label).getD world

def ownsPath (world : LockWorld) (pid : Pid) : Prop :=
  ∃ content, world.path = some ⟨some pid, content⟩

def NothingLeft (world : LockWorld) : Prop :=
  ∀ pid error, world.phase pid = .failed error → ¬ world.ownsPath pid

def WritesPid (world : LockWorld) (label : Pid × LockAction) : Prop :=
  ∀ written cause, label.2 = .writeFails written cause → world.phase label.1 = .writing →
    ¬ world.ownsPath label.1

def Linked (world : LockWorld) : Prop :=
  ∀ pid, world.ownsPath pid → (world.phase pid).spent = true

theorem writeFile_ownsPath {text : String} (owned : (world.writeFile pid text).ownsPath owner) :
    world.ownsPath owner := by
  obtain ⟨content, found⟩ := owned
  simp only [writeFile, Option.map_eq_some_iff] at found
  obtain ⟨file, linked, same⟩ := found
  have creator : file.creator = some owner := by
    have kept := congrArg LockFile.creator same
    split_ifs at kept <;> exact kept
  exact ⟨file.content, by rw [linked, ← creator]⟩

theorem Effect.ownsPath (effect : Effect world pid action after) (owned : after.ownsPath owner) :
    world.ownsPath owner ∨ owner = pid ∧ after.phase pid = .writing := by
  cases effect with
  | moved action next moves => exact .inl owned
  | created creating free =>
    obtain ⟨content, found⟩ := owned
    simp only [enter_path, Option.some.injEq, LockFile.mk.injEq] at found
    exact .inr ⟨found.1.symm, by simp⟩
  | written writing => exact .inl (writeFile_ownsPath owned)
  | torn action text error writing => exact .inl (writeFile_ownsPath owned)
  | removed judged removing =>
    obtain ⟨content, found⟩ := owned
    simp at found
  | dropped holding =>
    obtain ⟨content, found⟩ := owned
    simp at found

theorem Effect.others (effect : Effect world pid action after) (distinct : other ≠ pid) :
    after.phase other = world.phase other := by
  cases effect <;> simp [distinct, writeFile]

theorem Effect.spent (effect : Effect world pid action after)
    (spent : (world.phase pid).spent = true) : (after.phase pid).spent = true := by
  cases effect with
  | moved action next moves => simpa using moves.spent spent
  | created creating free => simp [LockPhase.spent]
  | written writing => simp [LockPhase.spent]
  | torn action text error writing => simp [LockPhase.spent]
  | removed judged removing => simp [removing, LockPhase.spent] at spent
  | dropped holding => simp [LockPhase.spent]

theorem fails_before_create (stepped : world.step (pid, action) = some after)
    (failed : after.phase pid = .failed error)
    (unwritten : ∀ written cause, action ≠ .writeFails written cause) :
    (world.phase pid).spent = false := by
  cases action with
  | start | startBystander =>
    simp only [step, start] at stepped
    split at stepped
    next absent => simp [absent, LockPhase.spent]
    next => contradiction
  | create =>
    simp only [step, create] at stepped
    split at stepped
    next creating => simp [creating, LockPhase.spent]
    next => contradiction
  | read =>
    simp only [step, read] at stepped
    split at stepped
    next reading => simp [reading, LockPhase.spent]
    next => contradiction
  | check =>
    simp only [step, check] at stepped
    split at stepped
    next judged recorded checking => simp [checking, LockPhase.spent]
    next => contradiction
  | remove =>
    simp only [step, remove] at stepped
    split at stepped
    next judged removing => simp [removing, LockPhase.spent]
    next => contradiction
  | createFails cause | readFails =>
    simp only [step, fail, decide_eq_true_eq] at stepped
    split at stepped
    next calling => simp [calling, LockPhase.spent]
    next => contradiction
  | removeFails cause =>
    simp only [step, fail] at stepped
    split at stepped
    next calling =>
      cases phase : world.phase pid <;> simp_all [LockPhase.isRemoving, LockPhase.spent]
    next => contradiction
  | writeFails written cause => exact absurd rfl (unwritten written cause)
  | write =>
    simp only [step, write] at stepped
    split at stepped
    next =>
      cases stepped
      simp at failed
    next => contradiction
  | dropGuard | dropGuardFails =>
    simp only [step, dropGuard] at stepped
    split at stepped
    next =>
      cases stepped
      simp at failed
    next => contradiction
  | exit =>
    simp only [step] at stepped
    split at stepped
    next =>
      cases stepped
      simp at failed
    next => contradiction

theorem linked_act (linked : world.Linked) (label : Pid × LockAction) :
    (world.act label).Linked := by
  obtain ⟨pid, action⟩ := label
  cases stepped : world.step (pid, action) with
  | none => simpa [act, stepped] using linked
  | some after =>
    have effect := step_effect stepped
    simp only [act, stepped, Option.getD_some]
    intro owner owned
    cases effect.ownsPath owned with
    | inl before =>
      by_cases same : owner = pid
      next =>
        subst same
        exact effect.spent (linked owner before)
      next =>
        rw [effect.others same]
        exact linked owner before
    | inr created => simp [created.1, created.2, LockPhase.spent]

theorem nothingLeft_step (linked : world.Linked) (clean : world.NothingLeft)
    (writes : world.WritesPid (pid, action)) (stepped : world.step (pid, action) = some after) :
    after.NothingLeft := by
  have effect := step_effect stepped
  intro owner error failed owned
  cases effect.ownsPath owned with
  | inr created =>
    rw [created.1, created.2] at failed
    contradiction
  | inl before =>
    by_cases same : owner = pid
    next =>
      subst same
      have unspent : (world.phase owner).spent = false := by
        apply fails_before_create stepped failed
        intro written cause torn
        have writing : world.phase owner = .writing := by
          simp only [torn, step, write] at stepped
          split at stepped
          next writing => exact writing
          next => contradiction
        exact writes written cause torn writing before
      rw [linked owner before] at unspent
      contradiction
    next =>
      rw [effect.others same] at failed
      exact clean owner error failed before

theorem torn_write_left {written : Nat} {cause : String} (writing : world.phase pid = .writing)
    (owned : world.ownsPath pid) : ¬ (world.act (pid, .writeFails written cause)).NothingLeft := by
  intro clean
  obtain ⟨content, found⟩ := owned
  apply clean pid (.writePid cause)
  next => simp [act, step, write, writing]
  next => simp [act, step, write, writing, ownsPath, writeFile, found]

theorem nothingLeft_act (linked : world.Linked) (clean : world.NothingLeft)
    (label : Pid × LockAction) : (world.act label).NothingLeft ↔ world.WritesPid label := by
  obtain ⟨pid, action⟩ := label
  constructor
  next =>
    intro after written cause torn writing owned
    simp only at torn
    subst torn
    exact torn_write_left writing owned after
  next =>
    intro writes
    cases stepped : world.step (pid, action) with
    | none => simpa [act, stepped] using clean
    | some after =>
      simp only [act, stepped, Option.getD_some]
      apply nothingLeft_step linked clean writes stepped

theorem linked_initial (initially : world.Initial) : world.Linked := by
  intro pid owned
  obtain ⟨content, found⟩ := owned
  simpa using initially.foreign _ found

theorem nothingLeft_initial (initially : world.Initial) : world.NothingLeft := by
  intro pid error failed
  have outside := initially.outside pid
  simp [failed, LockPhase.outside] at outside

theorem failed_acquisition_leaves_nothing_iff (start : LockWorld) (initially : start.Initial)
    (labels : List (Pid × LockAction)) :
    System.Throughout act NothingLeft start labels ↔
      System.EveryStep act WritesPid start labels := by
  have kept (world : LockWorld) (label : Pid × LockAction) (linked : world.Linked) :
      (world.act label).Linked := linked_act linked label
  have exactly (world : LockWorld) (label : Pid × LockAction) (linked : world.Linked)
      (clean : world.NothingLeft) : (world.act label).NothingLeft ↔ world.WritesPid label :=
    nothingLeft_act linked clean label
  exact System.throughout_iff_under kept exactly (linked_initial initially)
    (nothingLeft_initial initially) labels

def freePath : LockWorld where
  path := none
  phase := fun _ => .absent

theorem freePath_initial : freePath.Initial where
  outside := fun _ => rfl
  foreign := fun file found => by simp [freePath] at found

def tornStart : List (Pid × LockAction) :=
  [(100, .start), (100, .create), (100, .writeFails 0 "No space left on device (os error 28)"),
    (100, .exit), (200, .start), (200, .create), (200, .read)]

theorem torn_write_refuses_later_start :
    freePath.Initial ∧ (tornStart.foldl act freePath).phase 200 = .failed .unreadable ∧
      ¬ System.Throughout act NothingLeft freePath tornStart := by
  have refused : (tornStart.foldl act freePath).phase 200 = .failed .unreadable := by
    decide +kernel
  refine ⟨freePath_initial, refused, ?_⟩
  intro throughout
  apply throughout.2.2.2.1 100 (.writePid "No space left on device (os error 28)")
  next => decide +kernel
  next => exact ⟨"", by decide +kernel⟩

theorem failed_acquisition_reclaim_refused :
    System.Throughout act NothingLeft staleLock
      [(100, .start), (100, .create), (100, .read), (100, .check), (100, .remove),
        (100, .createFails "Permission denied (os error 13)")] := by
  apply (failed_acquisition_leaves_nothing_iff staleLock staleLock_initial _).mpr
  simp [System.EveryStep, WritesPid]

end LockWorld

end ThalamicRelay
