import ThalamicRelay.Actuator.PowerLimit

set_option autoImplicit false

namespace ThalamicRelay

open Saturating

inductive Ownership
  | braked
  | atDefault
  | foreign
  deriving DecidableEq, Repr

def ownership (current default target : Nat) : Ownership :=
  if current ≤ target + 2 ∧ target ≤ current + 2 then .braked
  else if default ≤ current + 2 then .atDefault
  else .foreign

def Ownership.observation (owner : Ownership) (current default target : UInt32) :
    PowerLimitObservation :=
  match owner with
  | .braked => .relayOwnedBrake ⟨current, default, target⟩
  | .atDefault => .atOrAboveDefault current default
  | .foreign => .foreignSubDefaultCap current default target

theorem Ownership.observation_readable (owner : Ownership) (current default target : UInt32) :
    owner.observation current default target ≠ .unreadable := by
  cases owner <;> simp [observation]

theorem classifyPowerLimit_ownership {current default target : UInt32}
    (known : unambiguousBrakeTarget default brakeFraction = some target) :
    classifyPowerLimit (some current) (some default) brakeFraction =
      (ownership current.toNat default.toNat target.toNat).observation current default target := by
  simp only [classifyPowerLimit, known, Word.absDiff_le, Word.le_saturatingAdd, ownership,
    show brakeMatchToleranceW.toNat = 2 from rfl]
  split_ifs <;> rfl

theorem unambiguousBrakeTarget_default_pos {default target : UInt32}
    (known : unambiguousBrakeTarget default brakeFraction = some target) : 0 < default := by
  have bounds := unambiguousBrakeTarget_bounds known
  rw [UInt32.lt_iff_toNat_lt]
  exact Nat.lt_of_le_of_lt (Nat.zero_le _) bounds.2

theorem ownership_zero {current default target : UInt32}
    (known : unambiguousBrakeTarget default brakeFraction = some target) (zero : current = 0) :
    ownership current.toNat default.toNat target.toNat = .foreign := by
  obtain ⟨low, gap⟩ := unambiguousBrakeTarget_bounds known
  have none : current.toNat = 0 := by simp [zero]
  rw [ownership, if_neg (by omega), if_neg (by omega)]

theorem ownership_positive (current : UInt32) {default target : UInt32}
    (known : unambiguousBrakeTarget default brakeFraction = some target)
    (owned : ownership current.toNat default.toNat target.toNat ≠ .foreign) :
    current ≠ 0 ∧ default ≠ 0 := by
  refine ⟨fun zero => owned (ownership_zero known zero), fun zero => ?_⟩
  have positive := unambiguousBrakeTarget_default_pos known
  simp [zero] at positive

theorem planBrakeApply_ownership (current : UInt32) {default target : UInt32}
    (known : unambiguousBrakeTarget default brakeFraction = some target) :
    match ownership current.toNat default.toNat target.toNat with
    | .braked => planBrakeApply (some current) (some default) brakeFraction = .ok none
    | .atDefault => planBrakeApply (some current) (some default) brakeFraction = .ok (some target)
    | .foreign => ∃ error, planBrakeApply (some current) (some default) brakeFraction =
        .error error := by
  have positive := unambiguousBrakeTarget_default_pos known
  have bounds := unambiguousBrakeTarget_bounds known
  by_cases zero : current = 0
  · rw [ownership_zero known zero]
    exact ⟨.powerLimitUnavailable, by simp [planBrakeApply, Option.filter, zero]⟩
  · have above : 0 < current := UInt32.pos_iff_ne_zero.mpr zero
    simp only [planBrakeApply, ne_eq, not_true_eq_false, if_false, Option.filter, above, positive,
      decide_true, if_true, known, Word.absDiff_le, Word.lt_saturatingSub, ownership,
      show brakeMatchToleranceW.toNat = 2 from rfl]
    -- The planner's below-target test never fires inside a band.
    split_ifs <;> first | omega | simp

theorem planBrakeRelease_ownership (current : UInt32) {default target : UInt32}
    (known : unambiguousBrakeTarget default brakeFraction = some target) :
    match ownership current.toNat default.toNat target.toNat with
    | .braked => planBrakeRelease (some current) (some default) = .ok default
    | .atDefault | .foreign => ∃ error, planBrakeRelease (some current) (some default) =
        .error error := by
  have positive := unambiguousBrakeTarget_default_pos known
  by_cases zero : current = 0
  · rw [ownership_zero known zero]
    exact ⟨.powerLimitUnavailable, by simp [planBrakeRelease, zero]⟩
  · have nonzero : default ≠ 0 := fun same => by simp [same] at positive
    have readable : ¬ ((some current = none ∨ some current = some 0) ∨
        (some default = none ∨ some default = some 0)) := by simp [zero, nonzero]
    have above : 0 < current := UInt32.pos_iff_ne_zero.mpr zero
    rw [planBrakeRelease, if_neg readable, classifyPowerLimit_ownership known]
    cases ownership current.toNat default.toNat target.toNat with
    | braked => simp [Ownership.observation, above, positive]
    | atDefault => exact ⟨_, rfl⟩
    | foreign => exact ⟨_, rfl⟩

theorem plans_unreadable {current default : Option UInt32}
    (unreadable : classifyPowerLimit current default brakeFraction = .unreadable) :
    (∃ error, planBrakeApply current default brakeFraction = .error error) ∧
      ∃ error, planBrakeRelease current default = .error error := by
  constructor
  · simp only [planBrakeApply]
    rw [if_neg (by simp)]
    split
    next current default readable known =>
      obtain ⟨rfl, _⟩ := Option.filter_eq_some_iff.mp readable
      obtain ⟨rfl, _⟩ := Option.filter_eq_some_iff.mp known
      cases target : unambiguousBrakeTarget default brakeFraction with
      | none => exact ⟨_, rfl⟩
      | some target =>
        rw [classifyPowerLimit_ownership target] at unreadable
        exact absurd unreadable (Ownership.observation_readable _ _ _ _)
    next => exact ⟨_, rfl⟩
  · simp only [planBrakeRelease]
    split
    · exact ⟨_, rfl⟩
    · rw [unreadable]
      exact ⟨_, rfl⟩

theorem classifyPowerLimit_readable {current default : Option UInt32}
    (readable : classifyPowerLimit current default brakeFraction ≠ .unreadable) :
    ∃ currentW defaultW target, current = some currentW ∧ default = some defaultW ∧
      unambiguousBrakeTarget defaultW brakeFraction = some target := by
  simp only [classifyPowerLimit] at readable
  split at readable
  next currentW defaultW =>
    cases known : unambiguousBrakeTarget defaultW brakeFraction with
    | none => simp [known] at readable
    | some target => exact ⟨currentW, defaultW, target, rfl, rfl, known⟩
  next => exact absurd rfl readable

theorem classify_after_apply {default target : UInt32}
    (known : unambiguousBrakeTarget default brakeFraction = some target) :
    classifyPowerLimit (some target) (some default) brakeFraction =
      .relayOwnedBrake ⟨target, default, target⟩ := by
  rw [classifyPowerLimit_ownership known, ownership, if_pos (by omega)]
  rfl

theorem classify_after_release {default target : UInt32}
    (known : unambiguousBrakeTarget default brakeFraction = some target) :
    classifyPowerLimit (some default) (some default) brakeFraction =
      .atOrAboveDefault default default := by
  have bounds := unambiguousBrakeTarget_bounds known
  rw [classifyPowerLimit_ownership known, ownership, if_neg (by omega), if_pos (by omega)]
  rfl

theorem ownership_agreement (current default : Option UInt32) :
    let seen := classifyPowerLimit current default brakeFraction
    let apply := planBrakeApply current default brakeFraction
    let release := planBrakeRelease current default
    (apply = .ok none ↔ ∃ brake, seen = .relayOwnedBrake brake) ∧
    ((∃ limitW, release = .ok limitW) ↔ ∃ brake, seen = .relayOwnedBrake brake) ∧
    (∀ limitW, release = .ok limitW → default = some limitW) ∧
    ((∃ target, apply = .ok (some target)) ↔
      ∃ currentW defaultW, seen = .atOrAboveDefault currentW defaultW) ∧
    (∀ target, apply = .ok (some target) →
      ∃ defaultW, default = some defaultW ∧
        unambiguousBrakeTarget defaultW brakeFraction = some target) ∧
    ((∀ brake, seen ≠ .relayOwnedBrake brake) →
      (∀ currentW defaultW, seen ≠ .atOrAboveDefault currentW defaultW) →
      (∃ error, apply = .error error) ∧ ∃ error, release = .error error) ∧
    (current = some 0 ∨ default = some 0 →
      (∃ error, apply = .error error) ∧ ∃ error, release = .error error) ∧
    (∀ target, apply = .ok (some target) →
      ∃ defaultW, default = some defaultW ∧
        classifyPowerLimit (some target) default brakeFraction =
          .relayOwnedBrake ⟨target, defaultW, target⟩) ∧
    (∀ limitW, release = .ok limitW →
      classifyPowerLimit (some limitW) default brakeFraction =
        .atOrAboveDefault limitW limitW) := by
  intro seen apply release
  by_cases unreadable : seen = .unreadable
  · obtain ⟨⟨refusal, refused⟩, ⟨denial, denied⟩⟩ := plans_unreadable unreadable
    have noApply : apply = .error refusal := refused
    have noRelease : release = .error denial := denied
    simp [unreadable, noApply, noRelease]
  · obtain ⟨currentW, defaultW, target, rfl, rfl, known⟩ := classifyPowerLimit_readable unreadable
    have seenAs : seen = _ := classifyPowerLimit_ownership known
    have applies := planBrakeApply_ownership currentW known
    have releases := planBrakeRelease_ownership currentW known
    have braked := classify_after_apply known
    have restored := classify_after_release known
    have positive := ownership_positive currentW known
    cases owner : ownership currentW.toNat defaultW.toNat target.toNat with
    | braked =>
      rw [owner] at seenAs applies releases
      have applies : apply = .ok none := applies
      have releases : release = .ok defaultW := releases
      simp [seenAs, applies, releases, Ownership.observation, restored, positive (by simp [owner])]
    | atDefault =>
      rw [owner] at seenAs applies releases
      have applies : apply = .ok (some target) := applies
      obtain ⟨denial, denied⟩ := releases
      have releases : release = .error denial := denied
      simp [seenAs, applies, releases, Ownership.observation, braked, known,
        positive (by simp [owner])]
    | foreign =>
      rw [owner] at seenAs applies releases
      obtain ⟨refusal, refused⟩ := applies
      obtain ⟨denial, denied⟩ := releases
      have applies : apply = .error refusal := refused
      have releases : release = .error denial := denied
      simp [seenAs, applies, releases, Ownership.observation]

end ThalamicRelay
