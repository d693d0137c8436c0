import ThalamicRelay.Actuator.Ownership

set_option autoImplicit false

namespace ThalamicRelay

open Saturating

-- The device's cells in milliwatts; every query divides and a command writes whole watts.
structure PowerLimits where
  limitMw : UInt32
  defaultMw : UInt32
  deriving DecidableEq, Repr

-- A killed command may have written before it was killed; a panic may come after the write.
inductive PowerLimitCommand
  | succeeds
  | notStarted (message : String)
  | fails (wrote : Bool)
  | panics (wrote : Bool) (message : String)
  deriving DecidableEq, Repr

def PowerLimitCommand.Ambiguous : PowerLimitCommand → Prop
  | .succeeds | .notStarted _ => False
  | .fails wrote | .panics wrote _ => wrote = true

instance (command : PowerLimitCommand) : Decidable command.Ambiguous :=
  match command with
  | .succeeds | .notStarted _ => isFalse id
  | .fails wrote | .panics wrote _ => inferInstanceAs (Decidable (wrote = true))

structure Attempt where
  targetResolved : Bool
  currentReadable : Bool
  defaultReadable : Bool
  command : PowerLimitCommand
  deriving DecidableEq, Repr

def Attempt.running (command : PowerLimitCommand) : Attempt where
  targetResolved := true
  currentReadable := true
  defaultReadable := true
  command := command

def noTargetError : ActuatorError :=
  .commandFailed "no GPU target resolved at startup; refusing power-limit mutation"

namespace PowerLimits

def currentW (limits : PowerLimits) : UInt32 :=
  limits.limitMw / 1000

def defaultW (limits : PowerLimits) : UInt32 :=
  limits.defaultMw / 1000

def query (readable : Bool) (watts : UInt32) : Option UInt32 :=
  if readable then some watts else none

def set (limits : PowerLimits) (limitW : UInt32) : PowerLimits :=
  { limits with limitMw := limitW * 1000 }

def runPowerLimitCommand (limits : PowerLimits) (command : PowerLimitCommand) (limitW : UInt32) :
    TaskResult × PowerLimits :=
  match command with
  | .succeeds => (.ok, limits.set limitW)
  | .notStarted message =>
    (.err (.commandFailed ("Failed to exec nvidia-smi: " ++ message)), limits)
  | .fails wrote =>
    (.err (.commandFailed ("nvidia-smi -pl " ++ toString limitW ++
      " failed (timeout, missing passwordless sudo, or command error)")),
      if wrote then limits.set limitW else limits)
  | .panics wrote message => (.panicked message, if wrote then limits.set limitW else limits)

def applyEmergencyBrake (limits : PowerLimits) (attempt : Attempt) : TaskResult × PowerLimits :=
  if attempt.targetResolved = false then (.err noTargetError, limits)
  else match planBrakeApply (query attempt.currentReadable limits.currentW)
      (query attempt.defaultReadable limits.defaultW) brakeFraction with
  | .error error => (.err error, limits)
  | .ok none => (.ok, limits)
  | .ok (some target) => limits.runPowerLimitCommand attempt.command target

def releaseEmergencyBrake (limits : PowerLimits) (attempt : Attempt) : TaskResult × PowerLimits :=
  if attempt.targetResolved = false then (.err noTargetError, limits)
  else match planBrakeRelease (query attempt.currentReadable limits.currentW)
      (query attempt.defaultReadable limits.defaultW) with
  | .error error => (.err error, limits)
  | .ok limitW => limits.runPowerLimitCommand attempt.command limitW

/-- The limit the device enforces is the relay's brake target, up to the matching tolerance. -/
def Braked (limits : PowerLimits) : Prop :=
  ∃ target, unambiguousBrakeTarget limits.defaultW brakeFraction = some target ∧
    Word.absDiff limits.currentW target ≤ brakeMatchToleranceW

instance (limits : PowerLimits) : Decidable limits.Braked :=
  inferInstanceAs (Decidable (∃ target ∈ unambiguousBrakeTarget limits.defaultW brakeFraction,
    Word.absDiff limits.currentW target ≤ brakeMatchToleranceW))

theorem query_some {readable : Bool} {watts known : UInt32}
    (answered : query readable watts = some known) : watts = known := by
  cases readable with
  | false => simp [query] at answered
  | true => exact Option.some.inj answered

theorem set_currentW (limits : PowerLimits) {limitW : UInt32}
    (bound : limitW.toNat ≤ limits.defaultW.toNat) : (limits.set limitW).currentW = limitW := by
  have thousand : (1000 : UInt32).toNat = 1000 := rfl
  have small : limits.defaultW.toNat ≤ 4294967 := by
    have word := limits.defaultMw.toNat_lt
    simp only [defaultW, UInt32.toNat_div, thousand]
    omega
  apply UInt32.toNat_inj.mp
  simp only [set, currentW, UInt32.toNat_div, UInt32.toNat_mul, thousand]
  omega

theorem planBrakeApply_ok {current default : Option UInt32} {planned : Option UInt32}
    (plan : planBrakeApply current default brakeFraction = .ok planned) :
    ∃ currentW defaultW target, current = some currentW ∧ default = some defaultW ∧
      unambiguousBrakeTarget defaultW brakeFraction = some target ∧
      ((planned = none ∧ Word.absDiff currentW target ≤ brakeMatchToleranceW) ∨
        planned = some target) := by
  by_cases unreadable : classifyPowerLimit current default brakeFraction = .unreadable
  · obtain ⟨⟨error, refused⟩, _⟩ := plans_unreadable unreadable
    rw [plan] at refused
    exact absurd refused (by simp)
  obtain ⟨currentW, defaultW, target, rfl, rfl, known⟩ := classifyPowerLimit_readable unreadable
  refine ⟨currentW, defaultW, target, rfl, rfl, known, ?_⟩
  have applies := planBrakeApply_ownership currentW known
  cases owner : ownership currentW.toNat defaultW.toNat target.toNat with
  | braked =>
    rw [owner] at applies
    obtain rfl : none = planned := Except.ok.inj (applies.symm.trans plan)
    have band : currentW.toNat ≤ target.toNat + 2 ∧ target.toNat ≤ currentW.toNat + 2 := by
      by_contra outside
      rw [ownership, if_neg outside] at owner
      split at owner <;> simp at owner
    exact .inl ⟨rfl, (Word.absDiff_le _ _ _).mpr band⟩
  | atDefault =>
    rw [owner] at applies
    exact .inr (Except.ok.inj (applies.symm.trans plan)).symm
  | foreign =>
    rw [owner] at applies
    obtain ⟨error, refused⟩ := applies
    rw [plan] at refused
    exact absurd refused (by simp)

theorem runPowerLimitCommand_ok {limits : PowerLimits} {command : PowerLimitCommand}
    {limitW : UInt32} (succeeded : (limits.runPowerLimitCommand command limitW).1 = .ok) :
    (limits.runPowerLimitCommand command limitW).2 = limits.set limitW := by
  cases command with
  | succeeds => rfl
  | notStarted | fails | panics => simp [runPowerLimitCommand] at succeeded

theorem runPowerLimitCommand_unambiguous {limits : PowerLimits} {command : PowerLimitCommand}
    {limitW : UInt32} (clear : ¬ command.Ambiguous)
    (failed : (limits.runPowerLimitCommand command limitW).1 ≠ .ok) :
    (limits.runPowerLimitCommand command limitW).2 = limits := by
  cases command with
  | succeeds => exact absurd rfl failed
  | notStarted => rfl
  | fails wrote | panics wrote =>
    cases wrote with
    | false => rfl
    | true => exact absurd rfl clear

theorem apply_braked {limits : PowerLimits} {attempt : Attempt}
    (succeeded : (limits.applyEmergencyBrake attempt).1 = .ok) :
    (limits.applyEmergencyBrake attempt).2.Braked := by
  simp only [applyEmergencyBrake] at succeeded ⊢
  split at succeeded
  · simp at succeeded
  next resolved =>
    rw [if_neg resolved]
    cases plan : planBrakeApply (query attempt.currentReadable limits.currentW)
        (query attempt.defaultReadable limits.defaultW) brakeFraction with
    | error error => simp [plan] at succeeded
    | ok planned =>
      obtain ⟨currentW, defaultW, target, current, default, known, planned⟩ :=
        planBrakeApply_ok plan
      obtain rfl := query_some current
      obtain rfl := query_some default
      rcases planned with ⟨rfl, band⟩ | rfl
      · exact ⟨target, known, band⟩
      · simp only [plan] at succeeded ⊢
        rw [runPowerLimitCommand_ok succeeded]
        have bounds := unambiguousBrakeTarget_bounds known
        refine ⟨target, known, ?_⟩
        rw [set_currentW limits (by omega)]
        exact (Word.absDiff_le _ _ _).mpr ⟨Nat.le_add_right _ _, Nat.le_add_right _ _⟩

-- The ambiguity matters only where the planner lets the command run.
theorem release_unchanged {limits : PowerLimits} {attempt : Attempt}
    (clear : ¬ (attempt.command.Ambiguous ∧ attempt.targetResolved = true ∧
      ∃ limitW, planBrakeRelease (query attempt.currentReadable limits.currentW)
        (query attempt.defaultReadable limits.defaultW) = .ok limitW))
    (failed : (limits.releaseEmergencyBrake attempt).1 ≠ .ok) :
    (limits.releaseEmergencyBrake attempt).2 = limits := by
  simp only [releaseEmergencyBrake] at failed ⊢
  split at failed
  next unresolved => rw [if_pos unresolved]
  next resolved =>
    rw [if_neg resolved]
    cases plan : planBrakeRelease (query attempt.currentReadable limits.currentW)
        (query attempt.defaultReadable limits.defaultW) with
    | error error => rfl
    | ok limitW =>
      simp only [plan] at failed ⊢
      have unambiguous : ¬ attempt.command.Ambiguous := fun ambiguous =>
        clear ⟨ambiguous, by simpa using resolved, limitW, plan⟩
      exact runPowerLimitCommand_unambiguous unambiguous failed

theorem braked_of_seeded {limits : PowerLimits} {currentReadable defaultReadable : Bool}
    {brake : BrakeMatch}
    (owned : classifyPowerLimit (query currentReadable limits.currentW)
      (query defaultReadable limits.defaultW) brakeFraction = .relayOwnedBrake brake) :
    limits.Braked := by
  obtain ⟨currentW, defaultW, target, current, default, known⟩ :=
    classifyPowerLimit_readable (by rw [owned]; simp)
  rw [current, default] at owned
  obtain rfl := query_some current
  obtain rfl := query_some default
  refine ⟨target, known, ?_⟩
  by_contra outside
  simp only [classifyPowerLimit, known, if_neg outside] at owned
  split at owned <;> simp at owned

theorem runPowerLimitCommand_written (limits : PowerLimits) (command : PowerLimitCommand)
    (limitW : UInt32) :
    (limits.runPowerLimitCommand command limitW).2 = limits ∨
      (limits.runPowerLimitCommand command limitW).2 = limits.set limitW := by
  cases command with
  | succeeds => exact .inr rfl
  | notStarted message => exact .inl rfl
  | fails wrote | panics wrote =>
    cases wrote with
    | false => exact .inl rfl
    | true => exact .inr rfl

theorem apply_written (limits : PowerLimits) (attempt : Attempt) :
    (limits.applyEmergencyBrake attempt).2 = limits ∨
    ∃ target, unambiguousBrakeTarget limits.defaultW brakeFraction = some target ∧
      ownership limits.currentW.toNat limits.defaultW.toNat target.toNat = .atDefault ∧
      (limits.applyEmergencyBrake attempt).2 = limits.set target := by
  simp only [applyEmergencyBrake]
  split
  next => exact .inl rfl
  next =>
    split
    next => exact .inl rfl
    next => exact .inl rfl
    next target plan =>
      rcases limits.runPowerLimitCommand_written attempt.command target with same | written
      next => exact .inl same
      next =>
        right
        obtain ⟨currentW, defaultW, known, current, default, found, planned⟩ :=
          planBrakeApply_ok plan
        obtain rfl := query_some current
        obtain rfl := query_some default
        obtain ⟨none, _⟩ | same := planned
        next => simp at none
        next =>
          obtain rfl := Option.some.inj same
          refine ⟨target, found, ?_, written⟩
          have applies := planBrakeApply_ownership limits.currentW found
          rw [← current, ← default] at applies
          cases owner : ownership limits.currentW.toNat limits.defaultW.toNat target.toNat with
          | atDefault => rfl
          | braked =>
            rw [owner, plan] at applies
            simp at applies
          | foreign =>
            rw [owner, plan] at applies
            simp at applies

theorem ownership_braked {current default target : Nat} :
    ownership current default target = .braked ↔ current ≤ target + 2 ∧ target ≤ current + 2 := by
  unfold ownership
  split_ifs with band <;> simp [band]

theorem braked_iff {limits : PowerLimits} :
    limits.Braked ↔ ∃ target, unambiguousBrakeTarget limits.defaultW brakeFraction = some target ∧
      ownership limits.currentW.toNat limits.defaultW.toNat target.toNat = .braked := by
  refine exists_congr fun target => and_congr_right fun _ => ?_
  rw [ownership_braked, Word.absDiff_le]
  rfl

theorem planBrakeRelease_ok {limits : PowerLimits} {attempt : Attempt} {limitW : UInt32}
    (plan : planBrakeRelease (query attempt.currentReadable limits.currentW)
      (query attempt.defaultReadable limits.defaultW) = .ok limitW) :
    limits.Braked ∧ limitW = limits.defaultW := by
  have readable : classifyPowerLimit (query attempt.currentReadable limits.currentW)
      (query attempt.defaultReadable limits.defaultW) brakeFraction ≠ .unreadable := by
    intro unreadable
    obtain ⟨_, error, refused⟩ := plans_unreadable unreadable
    rw [plan] at refused
    simp at refused
  obtain ⟨currentW, defaultW, target, current, default, known⟩ :=
    classifyPowerLimit_readable readable
  rw [current, default] at plan
  obtain rfl := query_some current
  obtain rfl := query_some default
  have releases := planBrakeRelease_ownership limits.currentW known
  cases owner : ownership limits.currentW.toNat limits.defaultW.toNat target.toNat with
  | braked =>
    rw [owner, plan] at releases
    exact ⟨braked_iff.mpr ⟨target, known, owner⟩, Except.ok.inj releases⟩
  | atDefault | foreign =>
    rw [owner, plan] at releases
    simp at releases

theorem release_written (limits : PowerLimits) (attempt : Attempt) :
    (limits.releaseEmergencyBrake attempt).2 = limits ∨
    (limits.Braked ∧ (limits.releaseEmergencyBrake attempt).2 = limits.set limits.defaultW) := by
  simp only [releaseEmergencyBrake]
  split
  next => exact .inl rfl
  next =>
    split
    next => exact .inl rfl
    next limitW plan =>
      obtain ⟨braked, rfl⟩ := planBrakeRelease_ok plan
      rcases limits.runPowerLimitCommand_written attempt.command limits.defaultW with
        same | written
      next => exact .inl same
      next => exact .inr ⟨braked, written⟩

-- A command of the relay's cannot take a brake off, and no command touches a foreign cap.
theorem apply_keeps {limits : PowerLimits} (braked : limits.Braked) (attempt : Attempt) :
    (limits.applyEmergencyBrake attempt).2 = limits := by
  rcases limits.apply_written attempt with same | ⟨target, known, owner, _⟩
  next => exact same
  next =>
    obtain ⟨other, found, owned⟩ := braked_iff.mp braked
    obtain rfl := Option.some.inj (known.symm.trans found)
    rw [owner] at owned
    simp at owned

end PowerLimits

end ThalamicRelay
