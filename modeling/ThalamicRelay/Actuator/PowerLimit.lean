import ThalamicRelay.Safety.Policy

set_option autoImplicit false

namespace ThalamicRelay

open BinaryFloat Saturating

def brakeMatchToleranceW : UInt32 := 2

inductive ActuatorError
  | powerLimitUnavailable
  | commandFailed (message : String)
  deriving DecidableEq, Repr

def ActuatorError.toString : ActuatorError → String
  | .powerLimitUnavailable => "power limit unavailable via backend; refusing arbitrary fallback"
  | .commandFailed message => "actuation command failed: " ++ message

inductive TaskResult
  | ok
  | err (error : ActuatorError)
  | panicked (message : String)
  deriving DecidableEq, Repr

def TaskResult.failure : TaskResult → Option String
  | .ok => none
  | .err error => some error.toString
  | .panicked message => some message

structure BrakeMatch where
  currentW : UInt32
  defaultW : UInt32
  expectedW : UInt32
  deriving DecidableEq, Repr

inductive PowerLimitObservation
  | unreadable
  | atOrAboveDefault (currentW defaultW : UInt32)
  | relayOwnedBrake (brake : BrakeMatch)
  | foreignSubDefaultCap (currentW defaultW expectedBrakeW : UInt32)
  deriving DecidableEq, Repr

-- default_w as f32 * pct, truncated back to u32.
def brakeProduct (defaultW : UInt32) (pct : F32) : UInt32 :=
  .ofNat ((binary32.mul (binary32.round defaultW.toNat) pct).truncate u32Max)

def unambiguousBrakeTarget (defaultW : UInt32) (pct : F32) : Option UInt32 :=
  if pct.isFinite = false ∨ ¬ (f32 (1 / 10) ≤ pct ∧ pct < .finite 1) then none
  else
    let target := brakeProduct defaultW pct
    if 0 < target ∧ 2 * brakeMatchToleranceW < Word.saturatingSub defaultW target then some target
    else none

def classifyPowerLimit (currentW defaultW : Option UInt32) (brakeFraction : F32) :
    PowerLimitObservation :=
  match currentW, defaultW with
  | some currentW, some defaultW =>
    match unambiguousBrakeTarget defaultW brakeFraction with
    | none => .unreadable
    | some expectedBrakeW =>
      if Word.absDiff currentW expectedBrakeW ≤ brakeMatchToleranceW then
        .relayOwnedBrake { currentW, defaultW, expectedW := expectedBrakeW }
      else if defaultW ≤ Word.saturatingAdd currentW brakeMatchToleranceW then
        .atOrAboveDefault currentW defaultW
      else .foreignSubDefaultCap currentW defaultW expectedBrakeW
  | _, _ => .unreadable

def planBrakeApply (current default : Option UInt32) (pct : F32) :
    Except ActuatorError (Option UInt32) :=
  if pct ≠ brakeFraction then .error (.commandFailed "unsupported brake fraction")
  else match current.filter (0 < ·), default.filter (0 < ·) with
  | some current, some default =>
    match unambiguousBrakeTarget default pct with
    | none => .error .powerLimitUnavailable
    | some target =>
      if current < Word.saturatingSub target brakeMatchToleranceW then
        .error (.commandFailed
          "power limit is below relay target; preserving operator/device cap")
      else if Word.absDiff current target ≤ brakeMatchToleranceW then .ok none
      -- Raising a foreign cap to the default later would not be a release.
      else if current < Word.saturatingSub default brakeMatchToleranceW then
        .error (.commandFailed "foreign sub-default power cap; refusing relay ownership")
      else .ok (some target)
  | _, _ => .error .powerLimitUnavailable

def planBrakeRelease (current default : Option UInt32) : Except ActuatorError UInt32 :=
  if (current = none ∨ current = some 0) ∨ (default = none ∨ default = some 0) then
    .error .powerLimitUnavailable
  else match classifyPowerLimit current default brakeFraction with
  | .relayOwnedBrake brake =>
    if 0 < brake.defaultW ∧ 0 < brake.currentW then .ok brake.defaultW
    else .error (.commandFailed
      "current power limit does not match relay brake; refusing restore")
  | _ => .error (.commandFailed
      "current power limit does not match relay brake; refusing restore")

theorem brakeProduct_small {defaultW : UInt32} (exact : defaultW.toNat < 2 ^ 24) :
    (brakeProduct defaultW brakeFraction).toNat = defaultW.toNat / 2 := by
  have digits : |(defaultW.toNat : ℤ)| < 2 ^ binary32.precision := by
    rw [abs_of_nonneg (by omega)]
    exact_mod_cast exact
  have whole : binary32.round defaultW.toNat = .finite defaultW.toNat := by
    simpa using binary32.round_representable defaultW.toNat 0 digits (by decide) (by decide)
  have half : binary32.mul (.finite defaultW.toNat) brakeFraction =
      .finite ((defaultW.toNat : ℚ) / 2) := by
    have scaled := binary32.round_representable defaultW.toNat (-1) digits (by decide) (by decide)
    simpa [Format.mul, brakeFraction, div_eq_mul_inv] using scaled
  have floor : ⌊(defaultW.toNat : ℚ) / 2⌋.toNat = defaultW.toNat / 2 := by
    have := Rat.floor_natCast_div_natCast defaultW.toNat 2
    push_cast at this
    rw [this]
    norm_cast
  rw [brakeProduct, whole, half]
  simp only [Value.truncate, floor, u32Max]
  rw [UInt32.toNat_ofNat_of_lt']
  · omega
  · simp only [UInt32.size]
    omega

-- Above 24 bits the product is rounded, but it keeps its binade.
theorem brakeProduct_large {defaultW : UInt32} (inexact : 2 ^ 24 ≤ defaultW.toNat) :
    2 ^ 23 ≤ (brakeProduct defaultW brakeFraction).toNat := by
  have bound := defaultW.toNat_lt
  obtain ⟨rounded, whole, low, high⟩ := binary32.round_between 24 32 defaultW.toNat (by decide)
    (by decide) (by decide) (by exact_mod_cast inexact) (by exact_mod_cast bound)
  obtain ⟨product, half, floor, _⟩ := binary32.round_between 23 32 (rounded * (1 / 2)) (by decide)
    (by decide) (by decide) (by norm_num at low ⊢; linarith) (by norm_num at high ⊢; linarith)
  have below : 2 ^ 23 ≤ ⌊product⌋ := by
    apply Int.le_floor.mpr
    exact_mod_cast floor
  rw [brakeProduct, whole]
  simp only [brakeFraction, Format.mul, half, Value.truncate, u32Max]
  rw [UInt32.toNat_ofNat_of_lt']
  · omega
  · simp only [UInt32.size]
    omega

theorem unambiguousBrakeTarget_eq {defaultW target : UInt32}
    (known : unambiguousBrakeTarget defaultW brakeFraction = some target) :
    target = brakeProduct defaultW brakeFraction ∧ target.toNat + 4 < defaultW.toNat := by
  unfold unambiguousBrakeTarget at known
  dsimp only at known
  split_ifs at known with unsupported disjoint
  obtain rfl := Option.some.inj known
  refine ⟨rfl, ?_⟩
  have gap := (Word.lt_saturatingSub _ _ _).mp disjoint.2
  rw [show (2 * brakeMatchToleranceW).toNat = 4 from rfl] at gap
  omega

theorem unambiguousBrakeTarget_bounds {defaultW target : UInt32}
    (known : unambiguousBrakeTarget defaultW brakeFraction = some target) :
    3 ≤ target.toNat ∧ target.toNat + 4 < defaultW.toNat := by
  obtain ⟨rfl, gap⟩ := unambiguousBrakeTarget_eq known
  refine ⟨?_, gap⟩
  by_cases exact : defaultW.toNat < 2 ^ 24
  · rw [brakeProduct_small exact] at gap ⊢
    omega
  · have large := brakeProduct_large (Nat.le_of_not_lt exact)
    omega

example : unambiguousBrakeTarget 300 brakeFraction = some 150 := by decide +kernel

-- With a default of 8 W the two bands touch.
example : unambiguousBrakeTarget 8 brakeFraction = none := by decide +kernel

end ThalamicRelay
