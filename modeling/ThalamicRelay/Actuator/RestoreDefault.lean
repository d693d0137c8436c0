import ThalamicRelay.Actuator.Hardware

set_option autoImplicit false

namespace ThalamicRelay

def PowerLimitCommand.Writes : PowerLimitCommand → Prop
  | .succeeds => True
  | .notStarted _ => False
  | .fails wrote | .panics wrote _ => wrote = true

structure Attempt.TakesEffect (attempt : Attempt) : Prop where
  resolved : attempt.targetResolved = true
  currentRead : attempt.currentReadable = true
  defaultRead : attempt.defaultReadable = true
  writes : attempt.command.Writes

namespace PowerLimits

def atDefault (defaultMw : UInt32) : PowerLimits :=
  { limitMw := defaultMw, defaultMw }

@[simp] theorem set_limitMw (limits : PowerLimits) (limitW : UInt32) :
    (limits.set limitW).limitMw = limitW * 1000 := rfl

@[simp] theorem set_defaultW (limits : PowerLimits) (limitW : UInt32) :
    (limits.set limitW).defaultW = limits.defaultW := rfl

theorem runPowerLimitCommand_writes {command : PowerLimitCommand} (writes : command.Writes)
    (limits : PowerLimits) (limitW : UInt32) :
    (limits.runPowerLimitCommand command limitW).2 = limits.set limitW := by
  cases command with
  | succeeds => rfl
  | notStarted message => exact writes.elim
  | fails wrote | panics wrote message =>
    obtain rfl : wrote = true := writes
    rfl

theorem apply_takesEffect {limits : PowerLimits} {attempt : Attempt} {target : UInt32}
    (effect : attempt.TakesEffect)
    (planned : planBrakeApply (some limits.currentW) (some limits.defaultW) brakeFraction =
      .ok (some target)) :
    (limits.applyEmergencyBrake attempt).2 = limits.set target := by
  simp only [applyEmergencyBrake, query, effect.resolved, effect.currentRead, effect.defaultRead,
    if_true, planned]
  exact runPowerLimitCommand_writes effect.writes limits target

theorem release_takesEffect {limits : PowerLimits} {attempt : Attempt} {limitW : UInt32}
    (effect : attempt.TakesEffect)
    (planned : planBrakeRelease (some limits.currentW) (some limits.defaultW) = .ok limitW) :
    (limits.releaseEmergencyBrake attempt).2 = limits.set limitW := by
  simp only [releaseEmergencyBrake, query, effect.resolved, effect.currentRead,
    effect.defaultRead, if_true, planned]
  exact runPowerLimitCommand_writes effect.writes limits limitW

theorem release_planned {limits : PowerLimits} {target : UInt32}
    (planned : planBrakeApply (some limits.currentW) (some limits.defaultW) brakeFraction =
      .ok (some target)) :
    planBrakeRelease (some (limits.set target).currentW) (some (limits.set target).defaultW) =
      .ok limits.defaultW := by
  obtain ⟨_, defaultW, expected, _, default, known, choice⟩ := planBrakeApply_ok planned
  obtain rfl := Option.some.inj default
  obtain rfl : target = expected := by
    rcases choice with ⟨none, _⟩ | some
    next => contradiction
    next => exact Option.some.inj some
  have bounds := unambiguousBrakeTarget_bounds known
  have releases := planBrakeRelease_ownership target known
  rw [ownership, if_pos (by omega)] at releases
  rw [set_currentW limits (by omega), set_defaultW]
  exact releases

theorem whole_watts (watts milliwatts : UInt32) (read : watts = milliwatts / 1000) :
    watts * 1000 = milliwatts ↔ 1000 ∣ milliwatts.toNat := by
  have thousand : (1000 : UInt32).toNat = 1000 := rfl
  have word := milliwatts.toNat_lt
  rw [← UInt32.toNat_inj, Nat.dvd_iff_div_mul_eq, read, UInt32.toNat_mul, UInt32.toNat_div,
    thousand, Nat.mod_eq_of_lt (by omega)]

theorem release_restores_whole_watts {defaultMw target : UInt32} {apply release : Attempt}
    (planned : planBrakeApply (some (atDefault defaultMw).currentW)
      (some (atDefault defaultMw).defaultW) brakeFraction = .ok (some target))
    (applied : apply.TakesEffect) (released : release.TakesEffect) :
    let braked := ((atDefault defaultMw).applyEmergencyBrake apply).2
    planBrakeRelease (some braked.currentW) (some braked.defaultW) = .ok braked.defaultW ∧
      ((braked.releaseEmergencyBrake release).2.limitMw = defaultMw ↔
        1000 ∣ defaultMw.toNat) := by
  intro braked
  have applied : braked = (atDefault defaultMw).set target := apply_takesEffect applied planned
  have release : planBrakeRelease (some braked.currentW) (some braked.defaultW) =
      .ok braked.defaultW := by
    rw [applied]
    exact release_planned planned
  refine ⟨release, ?_⟩
  rw [release_takesEffect released release, set_limitMw]
  exact whole_watts _ _ (by rw [applied]; rfl)

theorem release_restores_300_watts :
    let attempt : Attempt :=
      { targetResolved := true, currentReadable := true, defaultReadable := true,
        command := .succeeds }
    (((atDefault 300000).applyEmergencyBrake attempt).2.releaseEmergencyBrake attempt).2.limitMw =
      300000 := by
  intro attempt
  have effect : attempt.TakesEffect := ⟨rfl, rfl, rfl, trivial⟩
  have planned : planBrakeApply (some (atDefault 300000).currentW)
      (some (atDefault 300000).defaultW) brakeFraction = .ok (some 150) := by decide +kernel
  exact (release_restores_whole_watts planned effect effect).2.mpr (by decide)

-- The default is 300.5 W; both commands succeed and the device is left at 300 W.
theorem release_loses_half_a_watt :
    let attempt : Attempt :=
      { targetResolved := true, currentReadable := true, defaultReadable := true,
        command := .succeeds }
    let braked := ((atDefault 300500).applyEmergencyBrake attempt).2
    planBrakeApply (some (atDefault 300500).currentW) (some (atDefault 300500).defaultW)
        brakeFraction = .ok (some 150) ∧
      attempt.TakesEffect ∧
      planBrakeRelease (some braked.currentW) (some braked.defaultW) = .ok 300 ∧
      (braked.releaseEmergencyBrake attempt).2.limitMw ≠ 300500 := by
  intro attempt braked
  refine ⟨by decide +kernel, ⟨rfl, rfl, rfl, trivial⟩, ?_, ?_⟩
  all_goals decide +kernel

end PowerLimits

end ThalamicRelay
