import Mathlib.Algebra.Order.Field.Power
import Mathlib.Data.Int.Log
import Mathlib.Data.Rat.Floor
import Mathlib.Tactic.FieldSimp
import Mathlib.Tactic.Linarith
import Mathlib.Tactic.Positivity
import Mathlib.Tactic.Ring

set_option autoImplicit false

namespace BinaryFloat

def roundTiesEven (q : ℚ) : ℤ :=
  let below := ⌊q⌋
  let gap := q - below
  if gap < 1 / 2 then below
  else if 1 / 2 < gap then below + 1
  else if below % 2 = 0 then below
  else below + 1

theorem roundTiesEven_eq (q : ℚ) :
    roundTiesEven q = ⌊q⌋ ∨ roundTiesEven q = ⌊q⌋ + 1 ∧ (⌊q⌋ : ℚ) < q := by
  unfold roundTiesEven
  simp only
  split_ifs with small large even
  · exact .inl rfl
  · exact .inr ⟨rfl, by linarith⟩
  · exact .inl rfl
  · exact .inr ⟨rfl, by linarith⟩

@[simp] theorem roundTiesEven_intCast (n : ℤ) : roundTiesEven n = n := by
  rcases roundTiesEven_eq n with same | ⟨_, above⟩
  · simpa using same
  · simp at above

theorem le_roundTiesEven {n : ℤ} {q : ℚ} (bound : (n : ℚ) ≤ q) : n ≤ roundTiesEven q := by
  have floor : n ≤ ⌊q⌋ := Int.le_floor.mpr bound
  rcases roundTiesEven_eq q with same | ⟨same, _⟩ <;> omega

theorem roundTiesEven_le {n : ℤ} {q : ℚ} (bound : q ≤ (n : ℚ)) : roundTiesEven q ≤ n := by
  rcases roundTiesEven_eq q with same | ⟨same, above⟩
  · have floor : (⌊q⌋ : ℚ) ≤ n := le_trans (Int.floor_le q) bound
    have := Int.cast_le.mp floor
    omega
  · have floor : (⌊q⌋ : ℚ) < n := lt_of_lt_of_le above bound
    have := Int.cast_lt.mp floor
    omega

theorem roundTiesEven_mono {p q : ℚ} (ordered : p ≤ q) : roundTiesEven p ≤ roundTiesEven q := by
  rcases (Int.floor_le_floor ordered).eq_or_lt with same | below
  next =>
    -- Over one integer the larger number has the larger gap.
    unfold roundTiesEven
    simp only [same]
    split_ifs <;> first | omega | linarith
  next =>
    have upper : roundTiesEven p ≤ ⌊p⌋ + 1 := by
      rcases roundTiesEven_eq p with floor | ⟨ceiling, _⟩ <;> omega
    have lower := le_roundTiesEven (Int.floor_le q)
    omega

theorem roundTiesEven_neg (q : ℚ) : roundTiesEven (-q) = -roundTiesEven q := by
  by_cases whole : q = ⌊q⌋
  next =>
    rw [whole, ← Int.cast_neg, roundTiesEven_intCast, roundTiesEven_intCast]
  next =>
    have above : (⌊q⌋ : ℚ) < q := lt_of_le_of_ne (Int.floor_le q) (Ne.symm whole)
    have below : q < ⌊q⌋ + 1 := Int.lt_floor_add_one q
    have floor : ⌊-q⌋ = -⌊q⌋ - 1 := by
      rw [Int.floor_eq_iff]
      push_cast
      constructor <;> linarith
    unfold roundTiesEven
    simp only [floor]
    push_cast
    split_ifs <;> first | omega | linarith

theorem roundTiesEven_error (q : ℚ) : |(roundTiesEven q : ℚ) - q| ≤ 1 / 2 := by
  have below : (⌊q⌋ : ℚ) ≤ q := Int.floor_le q
  have above : q < ⌊q⌋ + 1 := Int.lt_floor_add_one q
  unfold roundTiesEven
  simp only
  rw [abs_le]
  split_ifs <;> constructor <;> push_cast <;> linarith

theorem roundTiesEven_of_near {n : ℤ} {q : ℚ} (near : |q - n| < 1 / 2) : roundTiesEven q = n := by
  have error := roundTiesEven_error q
  rw [abs_le] at error
  rw [abs_lt] at near
  have upper : (roundTiesEven q : ℚ) < (n + 1 : ℤ) := by
    push_cast
    linarith
  have lower : ((n - 1 : ℤ) : ℚ) < roundTiesEven q := by
    push_cast
    linarith
  have upper := Int.cast_lt.mp upper
  have lower := Int.cast_lt.mp lower
  omega

/-- Finite values are the multiples of 2 ^ minExponent with at most precision bits, all below 2 ^
maxExponent. -/
structure Format where
  precision : ℕ
  minExponent : ℤ
  maxExponent : ℤ
  deriving DecidableEq, Repr

def binary32 : Format := { precision := 24, minExponent := -149, maxExponent := 128 }

def binary64 : Format := { precision := 53, minExponent := -1074, maxExponent := 1024 }

def Format.quantum (format : Format) (q : ℚ) : ℤ :=
  max (Int.log 2 |q| + 1 - format.precision) format.minExponent

def Format.nearest (format : Format) (q : ℚ) : ℚ :=
  roundTiesEven (q / 2 ^ format.quantum q) * 2 ^ format.quantum q

theorem Format.nearest_representable (format : Format) (m e : ℤ)
    (digits : |m| < 2 ^ format.precision) (low : format.minExponent ≤ e) :
    format.nearest (m * 2 ^ e) = m * 2 ^ e := by
  by_cases zero : m = 0
  · have none : roundTiesEven 0 = 0 := by simpa using roundTiesEven_intCast 0
    simp [nearest, zero, none]
  have two : (2 : ℚ) ≠ 0 := by norm_num
  have positive : 0 < |(m : ℚ) * 2 ^ e| := by
    have : (m : ℚ) ≠ 0 := by exact_mod_cast zero
    positivity
  have magnitude : |(m : ℚ) * 2 ^ e| < 2 ^ ((format.precision : ℤ) + e) := by
    rw [abs_mul, abs_of_pos (by positivity : (0 : ℚ) < 2 ^ e), zpow_add₀ two, zpow_natCast]
    have cast : |(m : ℚ)| < 2 ^ format.precision := by exact_mod_cast digits
    gcongr
  have log : Int.log 2 |(m : ℚ) * 2 ^ e| < (format.precision : ℤ) + e :=
    (Int.lt_zpow_iff_log_lt (by norm_num) positive).mp (by exact_mod_cast magnitude)
  have coarse : format.quantum (m * 2 ^ e) ≤ e := by
    simp only [quantum]
    omega
  obtain ⟨k, shift⟩ := Int.eq_ofNat_of_zero_le (sub_nonneg.mpr coarse)
  have scaled : (m : ℚ) * 2 ^ e / 2 ^ format.quantum (m * 2 ^ e) = ((m * 2 ^ k : ℤ) : ℚ) := by
    rw [mul_div_assoc, ← zpow_sub₀ two, shift]
    push_cast
    simp
  have exactly := roundTiesEven_intCast (m * 2 ^ k)
  rw [← scaled] at exactly
  rw [nearest, exactly, ← scaled]
  field_simp

theorem Format.nearest_error (format : Format) (q : ℚ) :
    |format.nearest q - q| ≤ 2 ^ format.quantum q / 2 := by
  have unit : (0 : ℚ) < 2 ^ format.quantum q := by positivity
  have error := roundTiesEven_error (q / 2 ^ format.quantum q)
  have scaled : format.nearest q - q =
      (roundTiesEven (q / 2 ^ format.quantum q) - q / 2 ^ format.quantum q) *
        2 ^ format.quantum q := by
    rw [nearest, sub_mul, div_mul_cancel₀ _ unit.ne']
  have bound : |(roundTiesEven (q / 2 ^ format.quantum q) : ℚ) - q / 2 ^ format.quantum q| *
      2 ^ format.quantum q ≤ 1 / 2 * 2 ^ format.quantum q := by gcongr
  rw [scaled, abs_mul, abs_of_pos unit]
  linarith

theorem Format.roundTiesEven_digits (format : Format) (q : ℚ) :
    |roundTiesEven (q / 2 ^ format.quantum q)| ≤ 2 ^ format.precision := by
  have unit : (0 : ℚ) < 2 ^ format.quantum q := by positivity
  have magnitude : |q| ≤ 2 ^ format.precision * 2 ^ format.quantum q := by
    by_cases zero : q = 0
    · rw [zero, abs_zero]
      positivity
    have above : |q| < 2 ^ (Int.log 2 |q| + 1) := by
      exact_mod_cast Int.lt_zpow_succ_log_self (b := 2) (by norm_num) |q|
    have exponent : Int.log 2 |q| + 1 ≤ format.precision + format.quantum q := by
      rw [quantum]
      omega
    calc |q| ≤ 2 ^ (Int.log 2 |q| + 1) := above.le
      _ ≤ 2 ^ ((format.precision : ℤ) + format.quantum q) :=
        zpow_le_zpow_right₀ (by norm_num) exponent
      _ = 2 ^ format.precision * 2 ^ format.quantum q := by
        rw [zpow_add₀ two_ne_zero, zpow_natCast]
  have scaled : |q / 2 ^ format.quantum q| ≤ 2 ^ format.precision := by
    rw [abs_div, abs_of_pos unit, div_le_iff₀ unit]
    exact magnitude
  rw [abs_le] at scaled ⊢
  constructor
  · exact le_roundTiesEven (by exact_mod_cast scaled.1)
  · exact roundTiesEven_le (by exact_mod_cast scaled.2)

theorem Format.nearest_nearest (format : Format) (q : ℚ) (digits : 0 < format.precision) :
    format.nearest (format.nearest q) = format.nearest q := by
  have bound := format.roundTiesEven_digits q
  have coarse : format.minExponent ≤ format.quantum q := le_max_right _ _
  rcases bound.lt_or_eq with short | full
  next => exact format.nearest_representable _ _ short coarse
  next =>
    -- The largest multiple is one unit of a coarser binade.
    have small : (1 : ℤ) < 2 ^ format.precision := one_lt_pow₀ (by norm_num) digits.ne'
    have shifted (sign : ℤ) (unit : |sign| = 1)
        (value : roundTiesEven (q / 2 ^ format.quantum q) = sign * 2 ^ format.precision) :
        format.nearest (format.nearest q) = format.nearest q := by
      have moved : format.nearest q = sign * 2 ^ ((format.precision : ℤ) + format.quantum q) := by
        rw [nearest, value, zpow_add₀ two_ne_zero, zpow_natCast]
        push_cast
        ring
      rw [moved]
      exact format.nearest_representable sign _ (by omega) (by omega)
    rcases (abs_eq (by positivity)).mp full with positive | negative
    next => exact shifted 1 (by decide) (by omega)
    next => exact shifted (-1) (by decide) (by omega)

theorem Format.zpow_le_nearest (format : Format) (e : ℤ) (q : ℚ) (digits : 0 < format.precision)
    (low : format.minExponent ≤ e + 1 - format.precision) (bound : 2 ^ e ≤ q) :
    2 ^ e ≤ format.nearest q := by
  have two : (2 : ℚ) ≠ 0 := by norm_num
  have positive : 0 < q := lt_of_lt_of_le (by positivity) bound
  have log : e ≤ Int.log 2 q :=
    (Int.zpow_le_iff_le_log (by norm_num) positive).mp (by exact_mod_cast bound)
  have floor : (2 : ℚ) ^ Int.log 2 q ≤ q := by
    exact_mod_cast Int.zpow_log_le_self (b := 2) (by norm_num) positive
  have quantum : format.quantum q = Int.log 2 q + 1 - format.precision := by
    rw [Format.quantum, abs_of_pos positive]
    omega
  obtain ⟨k, width⟩ : ∃ k : ℕ, format.precision = k + 1 := ⟨format.precision - 1, by omega⟩
  have split : (2 : ℚ) ^ Int.log 2 q = ((2 ^ k : ℤ) : ℚ) * 2 ^ format.quantum q := by
    push_cast
    rw [← zpow_natCast, ← zpow_add₀ two, quantum, width]
    congr 1
    push_cast
    ring
  have scaled : ((2 ^ k : ℤ) : ℚ) ≤ q / 2 ^ format.quantum q := by
    rw [le_div_iff₀ (by positivity), ← split]
    exact floor
  have rounded : ((2 ^ k : ℤ) : ℚ) ≤ roundTiesEven (q / 2 ^ format.quantum q) := by
    exact_mod_cast le_roundTiesEven scaled
  calc (2 : ℚ) ^ e ≤ 2 ^ Int.log 2 q := zpow_le_zpow_right₀ (by norm_num) log
    _ = ((2 ^ k : ℤ) : ℚ) * 2 ^ format.quantum q := split
    _ ≤ format.nearest q := by unfold Format.nearest; gcongr

theorem Format.nearest_le_zpow (format : Format) (e : ℤ) (q : ℚ) (positive : 0 < q)
    (low : format.minExponent ≤ e) (bound : q < 2 ^ e) : format.nearest q ≤ 2 ^ e := by
  have two : (2 : ℚ) ≠ 0 := by norm_num
  have log : Int.log 2 q < e :=
    (Int.lt_zpow_iff_log_lt (by norm_num) positive).mp (by exact_mod_cast bound)
  have coarse : format.quantum q ≤ e := by
    rw [Format.quantum, abs_of_pos positive]
    omega
  obtain ⟨k, shift⟩ := Int.eq_ofNat_of_zero_le (sub_nonneg.mpr coarse)
  have split : (2 : ℚ) ^ e = ((2 ^ k : ℤ) : ℚ) * 2 ^ format.quantum q := by
    push_cast
    rw [← zpow_natCast, ← zpow_add₀ two]
    congr 1
    omega
  have scaled : q / 2 ^ format.quantum q ≤ ((2 ^ k : ℤ) : ℚ) := by
    rw [div_le_iff₀ (by positivity), ← split]
    exact bound.le
  have rounded : (roundTiesEven (q / 2 ^ format.quantum q) : ℚ) ≤ ((2 ^ k : ℤ) : ℚ) := by
    exact_mod_cast roundTiesEven_le scaled
  rw [split]
  simp only [Format.nearest]
  gcongr

theorem Format.nearest_zero (format : Format) : format.nearest 0 = 0 := by
  have none : roundTiesEven 0 = 0 := by simpa using roundTiesEven_intCast 0
  simp [nearest, none]

theorem Format.nearest_nonneg (format : Format) {q : ℚ} (nonneg : 0 ≤ q) :
    0 ≤ format.nearest q := by
  have scaled : ((0 : ℤ) : ℚ) ≤ q / 2 ^ format.quantum q := by
    rw [Int.cast_zero]
    positivity
  have rounded : (0 : ℚ) ≤ roundTiesEven (q / 2 ^ format.quantum q) := by
    exact_mod_cast le_roundTiesEven scaled
  rw [Format.nearest]
  positivity

-- In one binade the quanta agree; across binades a power of two lies between the results.
theorem Format.nearest_mono_pos (format : Format) {p q : ℚ} (digits : 0 < format.precision)
    (positive : 0 < p) (ordered : p ≤ q) : format.nearest p ≤ format.nearest q := by
  have larger : 0 < q := lt_of_lt_of_le positive ordered
  have log : Int.log 2 p ≤ Int.log 2 q := Int.log_mono_right positive ordered
  have first : format.quantum p = max (Int.log 2 p + 1 - format.precision) format.minExponent := by
    rw [quantum, abs_of_pos positive]
  have second : format.quantum q = max (Int.log 2 q + 1 - format.precision) format.minExponent := by
    rw [quantum, abs_of_pos larger]
  by_cases same : format.quantum p = format.quantum q
  next =>
    have scaled : p / 2 ^ format.quantum q ≤ q / 2 ^ format.quantum q := by gcongr
    have rounded : (roundTiesEven (p / 2 ^ format.quantum q) : ℚ) ≤
        roundTiesEven (q / 2 ^ format.quantum q) := by
      exact_mod_cast roundTiesEven_mono scaled
    simp only [nearest, same]
    gcongr
  next =>
    have apart : Int.log 2 p < Int.log 2 q := by omega
    have normal : format.minExponent ≤ Int.log 2 q + 1 - format.precision := by omega
    have below : p < 2 ^ Int.log 2 q := by
      exact_mod_cast (Int.lt_zpow_iff_log_lt (b := 2) (by norm_num) positive).mpr apart
    have above : (2 : ℚ) ^ Int.log 2 q ≤ q := by
      exact_mod_cast Int.zpow_log_le_self (b := 2) (by norm_num) larger
    have ceiling := format.nearest_le_zpow (Int.log 2 q) p positive (by omega) below
    have floor := format.zpow_le_nearest (Int.log 2 q) q digits normal above
    exact le_trans ceiling floor

theorem Format.nearest_neg (format : Format) (q : ℚ) : format.nearest (-q) = -format.nearest q := by
  have same : format.quantum (-q) = format.quantum q := by simp only [quantum, abs_neg]
  simp only [nearest, same, neg_div, roundTiesEven_neg]
  push_cast
  ring

theorem Format.nearest_mono (format : Format) {p q : ℚ} (digits : 0 < format.precision)
    (ordered : p ≤ q) : format.nearest p ≤ format.nearest q := by
  rcases lt_or_ge 0 p with positive | nonpos
  next => exact format.nearest_mono_pos digits positive ordered
  next =>
    have low : 0 ≤ format.nearest (-p) := format.nearest_nonneg (by linarith)
    rcases le_or_gt 0 q with nonneg | negative
    next =>
      have high := format.nearest_nonneg nonneg
      rw [nearest_neg] at low
      linarith
    next =>
      have mirrored := format.nearest_mono_pos digits (by linarith : 0 < -q) (by linarith : -q ≤ -p)
      rw [nearest_neg, nearest_neg] at mirrored
      linarith

/-- One zero: the sign of a zero is never observable through the operations below. -/
inductive Value
  | nan
  | infinite (negative : Bool)
  | finite (value : ℚ)
  deriving DecidableEq, Repr

namespace Value

def isFinite : Value → Bool
  | .finite _ => true
  | _ => false

protected def lt : Value → Value → Prop
  | .finite a, .finite b => a < b
  | .finite _, .infinite negative => negative = false
  | .infinite negative, .finite _ => negative = true
  | .infinite a, .infinite b => a = true ∧ b = false
  | _, _ => False

protected def le : Value → Value → Prop
  | .finite a, .finite b => a ≤ b
  | .finite _, .infinite negative => negative = false
  | .infinite negative, .finite _ => negative = true
  | .infinite a, .infinite b => a = true ∨ b = false
  | _, _ => False

instance : LT Value := ⟨Value.lt⟩

instance : LE Value := ⟨Value.le⟩

instance decidableLt : (a b : Value) → Decidable (a < b)
  | .finite a, .finite b => inferInstanceAs (Decidable (a < b))
  | .finite _, .infinite negative => inferInstanceAs (Decidable (negative = false))
  | .infinite negative, .finite _ => inferInstanceAs (Decidable (negative = true))
  | .infinite a, .infinite b => inferInstanceAs (Decidable (a = true ∧ b = false))
  | .nan, .nan | .nan, .finite _ | .nan, .infinite _ | .finite _, .nan | .infinite _, .nan =>
    .isFalse not_false

instance decidableLe : (a b : Value) → Decidable (a ≤ b)
  | .finite a, .finite b => inferInstanceAs (Decidable (a ≤ b))
  | .finite _, .infinite negative => inferInstanceAs (Decidable (negative = false))
  | .infinite negative, .finite _ => inferInstanceAs (Decidable (negative = true))
  | .infinite a, .infinite b => inferInstanceAs (Decidable (a = true ∨ b = false))
  | .nan, .nan | .nan, .finite _ | .nan, .infinite _ | .finite _, .nan | .infinite _, .nan =>
    .isFalse not_false

@[simp] theorem finite_lt_finite (a b : ℚ) : finite a < finite b ↔ a < b := Iff.rfl

@[simp] theorem finite_le_finite (a b : ℚ) : finite a ≤ finite b ↔ a ≤ b := Iff.rfl

@[simp] theorem not_nan_lt (a : Value) : ¬ nan < a := not_false

@[simp] theorem not_lt_nan (a : Value) : ¬ a < nan := by
  cases a <;> exact not_false

@[simp] theorem not_nan_le (a : Value) : ¬ nan ≤ a := not_false

@[simp] theorem not_le_nan (a : Value) : ¬ a ≤ nan := by
  cases a <;> exact not_false

theorem le_ne_nan {a b : Value} (ordered : a ≤ b) : a ≠ nan := by
  rintro rfl
  simp at ordered

theorem isFinite_ne_nan {a : Value} (known : a.isFinite = true) : a ≠ nan := by
  rintro rfl
  simp [isFinite] at known

theorem le_or_lt {a b : Value} (left : a ≠ nan) (right : b ≠ nan) : a ≤ b ∨ b < a := by
  cases a with
  | nan => exact absurd rfl left
  | infinite negative =>
    cases b with
    | nan => exact absurd rfl right
    | infinite other => cases negative <;> cases other <;> decide
    | finite b => cases negative <;> simp [LT.lt, LE.le, Value.lt, Value.le]
  | finite a =>
    cases b with
    | nan => exact absurd rfl right
    | infinite other => cases other <;> simp [LT.lt, LE.le, Value.lt, Value.le]
    | finite b => exact le_or_gt a b

theorem lt_of_not_le {a bound : Value} (number : a ≠ nan) (known : bound.isFinite = true)
    (above : ¬ bound ≤ a) : a < bound :=
  (le_or_lt (isFinite_ne_nan known) number).resolve_left above

theorem le_of_not_lt {a bound : Value} (number : a ≠ nan) (known : bound.isFinite = true)
    (above : ¬ bound < a) : a ≤ bound :=
  (le_or_lt number (isFinite_ne_nan known)).resolve_right above

protected theorem lt_of_le_of_lt {a b c : Value} (below : a ≤ b) (above : b < c) : a < c := by
  cases a with
  | nan => exact absurd below (not_nan_le b)
  | infinite negative =>
    cases b <;> cases c <;> simp_all [LT.lt, LE.le, Value.lt, Value.le]
  | finite q =>
    cases b with
    | nan => exact absurd above (not_nan_lt c)
    | infinite negative => cases c <;> simp_all [LT.lt, LE.le, Value.lt, Value.le]
    | finite r =>
      cases c with
      | nan | infinite negative => exact above
      | finite s => exact lt_of_le_of_lt (α := ℚ) below above

protected theorem le_trans {a b c : Value} (below : a ≤ b) (above : b ≤ c) : a ≤ c := by
  cases a with
  | nan => exact absurd below (not_nan_le b)
  | infinite negative =>
    cases negative <;> cases b <;> cases c <;> simp_all [LE.le, Value.le]
  | finite q =>
    cases b with
    | nan => exact absurd above (not_nan_le c)
    | infinite negative => cases c <;> simp_all [LE.le, Value.le]
    | finite r =>
      cases c with
      | nan | infinite negative => exact above
      | finite s => exact le_trans (α := ℚ) below above

theorem lt_finite_mono {bound : Value} {a b : ℚ} (above : bound < finite a) (larger : a ≤ b) :
    bound < finite b := by
  cases bound with
  | nan => exact above
  | infinite negative => exact above
  | finite q => exact lt_of_lt_of_le (α := ℚ) above larger

theorem le_finite_mono {bound : Value} {a b : ℚ} (above : bound ≤ finite a) (larger : a ≤ b) :
    bound ≤ finite b := by
  cases bound with
  | nan => exact above
  | infinite negative => exact above
  | finite q => exact le_trans (α := ℚ) above larger

theorem eq_finite_of_isFinite {value : Value} (known : value.isFinite = true) :
    ∃ q, value = finite q := by
  cases value with
  | finite q => exact ⟨q, rfl⟩
  | nan | infinite => simp [isFinite] at known

/-- Arithmetic on exact values, with round taking the exact result to a value. -/
def sub (round : ℚ → Value) : Value → Value → Value
  | .finite a, .finite b => round (a - b)
  | .finite _, .infinite negative => .infinite (!negative)
  | .infinite negative, .finite _ => .infinite negative
  | .infinite a, .infinite b => if a = b then .nan else .infinite a
  | .nan, _ | _, .nan => .nan

def add (round : ℚ → Value) : Value → Value → Value
  | .finite a, .finite b => round (a + b)
  | .finite _, .infinite negative | .infinite negative, .finite _ => .infinite negative
  | .infinite a, .infinite b => if a = b then .infinite a else .nan
  | .nan, _ | _, .nan => .nan

theorem finite_le_cases {a : ℚ} {value : Value} (above : finite a ≤ value) :
    value = infinite false ∨ ∃ q, value = finite q ∧ a ≤ q := by
  cases value with
  | nan => simp at above
  | infinite negative =>
    obtain rfl : negative = false := above
    exact .inl rfl
  | finite q => exact .inr ⟨q, rfl, above⟩

theorem finite_between {a b : ℚ} {value : Value} (above : finite a ≤ value)
    (below : value ≤ finite b) : ∃ q, value = finite q ∧ a ≤ q ∧ q ≤ b := by
  rcases finite_le_cases above with rfl | ⟨q, rfl, low⟩
  next => exact absurd below (by simp [LE.le, Value.le])
  next => exact ⟨q, rfl, low, below⟩

theorem add_cases (round : ℚ → Value) {a b : ℚ} {left right : Value} (first : finite a ≤ left)
    (second : finite b ≤ right) :
    add round left right = infinite false ∨
      ∃ q, add round left right = round q ∧ a + b ≤ q := by
  rcases finite_le_cases first with rfl | ⟨p, rfl, low⟩ <;>
    rcases finite_le_cases second with rfl | ⟨q, rfl, high⟩
  · exact .inl rfl
  · exact .inl rfl
  · exact .inl rfl
  · exact .inr ⟨p + q, rfl, by linarith⟩

theorem add_finite {round : ℚ → Value} {left right : Value} {q : ℚ}
    (sum : add round left right = finite q) : ∃ p, round p = finite q := by
  cases left with
  | nan => simp [add] at sum
  | infinite negative =>
    cases right with
    | nan | finite => simp [add] at sum
    | infinite other => by_cases same : negative = other <;> simp [add, same] at sum
  | finite a =>
    cases right with
    | nan | infinite => simp [add] at sum
    | finite b => exact ⟨a + b, sum⟩

-- Division by a zero needs the sign of the zero and is left to its caller to exclude.
def div (round : ℚ → Value) : Value → Value → Value
  | .finite a, .finite b =>
    if b ≠ 0 then round (a / b) else if a = 0 then .nan else .infinite (decide (a < 0))
  | .finite _, .infinite _ => .finite 0
  | .infinite negative, .finite b => .infinite (negative ^^ decide (b < 0))
  | .infinite _, .infinite _ => .nan
  | .nan, _ | _, .nan => .nan

def abs : Value → Value
  | .nan => .nan
  | .infinite _ => .infinite false
  | .finite q => .finite |q|

def clamp (value low high : Value) : Value :=
  if value < low then low else if high < value then high else value

theorem clamp_finite (q low high : ℚ) (ordered : low ≤ high) :
    clamp (.finite q) (.finite low) (.finite high) = .finite (max low (min high q)) := by
  simp only [clamp, finite_lt_finite]
  split_ifs with below above
  · rw [min_eq_right (below.le.trans ordered), max_eq_left below.le]
  · rw [min_eq_left above.le, max_eq_right ordered]
  · rw [min_eq_right (not_lt.mp above), max_eq_right (not_lt.mp below)]

theorem clamp_range {value : Value} (number : value ≠ nan) {low high : ℚ} (ordered : low ≤ high) :
    ∃ q, clamp value (finite low) (finite high) = finite q ∧ low ≤ q ∧ q ≤ high := by
  cases value with
  | nan => exact absurd rfl number
  | infinite negative =>
    cases negative with
    | true => exact ⟨low, by simp [clamp, LT.lt, Value.lt], le_rfl, ordered⟩
    | false => exact ⟨high, by simp [clamp, LT.lt, Value.lt], ordered, le_rfl⟩
  | finite q =>
    refine ⟨_, clamp_finite q low high ordered, le_max_left _ _, ?_⟩
    exact max_le ordered (min_le_left _ _)

theorem clamp_mono {value larger : Value} (above : value ≤ larger) {low high : ℚ}
    (ordered : low ≤ high) :
    clamp value (finite low) (finite high) ≤ clamp larger (finite low) (finite high) := by
  have number := le_ne_nan above
  have known : larger ≠ nan := by
    rintro rfl
    simp at above
  obtain ⟨p, first, lowest, highest⟩ := clamp_range number ordered
  obtain ⟨q, second, lower, higher⟩ := clamp_range known ordered
  rw [first, second, finite_le_finite]
  cases value with
  | nan => exact absurd rfl number
  | infinite negative =>
    cases negative with
    | true =>
      have bottom : clamp (infinite true) (finite low) (finite high) = finite low := by
        simp [clamp, LT.lt, Value.lt]
      obtain rfl := Value.finite.inj (bottom.symm.trans first)
      exact lower
    | false =>
      obtain rfl : larger = infinite false := by
        cases larger with
        | nan => exact absurd rfl known
        | infinite other => simpa [LE.le, Value.le] using above
        | finite q => simp [LE.le, Value.le] at above
      obtain rfl := Value.finite.inj (first.symm.trans second)
      exact le_rfl
  | finite v =>
    rw [clamp_finite v low high ordered] at first
    obtain rfl := Value.finite.inj first
    cases larger with
    | nan => exact absurd rfl known
    | infinite other =>
      obtain rfl : other = false := above
      have top : clamp (infinite false) (finite low) (finite high) = finite high := by
        simp [clamp, LT.lt, Value.lt]
      obtain rfl := Value.finite.inj (top.symm.trans second)
      exact highest
    | finite w =>
      rw [clamp_finite w low high ordered] at second
      obtain rfl := Value.finite.inj second
      have above : v ≤ w := above
      gcongr

/-- Conversion to an unsigned integer truncates, saturates at the limit and sends NaN to zero. -/
def truncate (limit : ℕ) : Value → ℕ
  | .nan | .infinite true => 0
  | .infinite false => limit
  | .finite q => min ⌊q⌋.toNat limit

-- Printing without decimals rounds the exact value, ties to even.
def toWholeString : Value → String
  | .nan => "NaN"
  | .infinite negative => if negative then "-inf" else "inf"
  | .finite q => (if q < 0 then "-" else "") ++ toString (roundTiesEven |q|)

end Value

def Format.round (format : Format) (q : ℚ) : Value :=
  if 2 ^ format.maxExponent ≤ |format.nearest q| then .infinite (decide (q < 0))
  else .finite (format.nearest q)

def Format.mul (format : Format) : Value → Value → Value
  | .finite a, .finite b => format.round (a * b)
  | .finite a, .infinite negative | .infinite negative, .finite a =>
    if a = 0 then .nan else .infinite (negative ^^ decide (a < 0))
  | .infinite a, .infinite b => .infinite (a ^^ b)
  | .nan, _ | _, .nan => .nan

theorem Format.round_of_lt (format : Format) {q : ℚ}
    (bound : |format.nearest q| < 2 ^ format.maxExponent) :
    format.round q = .finite (format.nearest q) := by
  rw [Format.round, if_neg (not_le.mpr bound)]

theorem Format.zpow_le_round (format : Format) (e : ℤ) (q : ℚ) (digits : 0 < format.precision)
    (low : format.minExponent ≤ e + 1 - format.precision) (bound : 2 ^ e ≤ q) :
    .finite (2 ^ e) ≤ format.round q := by
  have positive : 0 < q := lt_of_lt_of_le (by positivity) bound
  rw [Format.round]
  split
  next => simpa [LE.le, Value.le] using positive.le
  next => exact format.zpow_le_nearest e q digits low bound

theorem Format.zpow_le_add (format : Format) (e : ℤ) (digits : 0 < format.precision)
    (low : format.minExponent ≤ e + 1 - format.precision) {a b : ℚ} {left right : Value}
    (first : .finite a ≤ left) (second : .finite b ≤ right) (bound : 2 ^ e ≤ a + b) :
    .finite (2 ^ e) ≤ Value.add format.round left right := by
  rcases Value.add_cases format.round first second with infinite | ⟨q, sum, large⟩
  · rw [infinite]
    rfl
  · rw [sum]
    exact format.zpow_le_round e q digits low (le_trans bound large)

theorem Format.zero_le_round (format : Format) {q : ℚ} (nonneg : 0 ≤ q) :
    .finite 0 ≤ format.round q := by
  rw [Format.round]
  split
  next => simpa [LE.le, Value.le] using nonneg
  next => exact format.nearest_nonneg nonneg

theorem Format.round_mono (format : Format) {p q : ℚ} (digits : 0 < format.precision)
    (ordered : p ≤ q) : format.round p ≤ format.round q := by
  have nearest := format.nearest_mono digits ordered
  simp only [Format.round]
  split_ifs with low high high
  next =>
    -- Overflow keeps the sign, and the signs are ordered.
    by_cases negative : p < 0
    next => simp [LE.le, Value.le, negative]
    next => simp [LE.le, Value.le, not_lt.mpr (le_trans (not_lt.mp negative) ordered)]
  next =>
    by_cases negative : p < 0
    next => simpa [LE.le, Value.le] using negative
    next =>
      have nonneg := format.nearest_nonneg (not_lt.mp negative)
      rw [abs_of_nonneg nonneg] at low
      rw [abs_of_nonneg (le_trans nonneg nearest)] at high
      exact absurd (le_trans low nearest) high
  next =>
    by_cases negative : q < 0
    next =>
      have nonneg := format.nearest_nonneg (by linarith : 0 ≤ -q)
      rw [nearest_neg] at nonneg
      rw [abs_of_nonpos (by linarith)] at high
      rw [abs_of_nonpos (by linarith)] at low
      exact absurd (by linarith) low
    next => simpa [LE.le, Value.le] using negative
  next => exact nearest

theorem Format.div_mono (format : Format) {value larger : Value} {q : ℚ}
    (digits : 0 < format.precision) (positive : 0 < q) (above : value ≤ larger) :
    Value.div format.round value (.finite q) ≤ Value.div format.round larger (.finite q) := by
  have nonzero : q ≠ 0 := positive.ne'
  cases value with
  | nan => simp at above
  | infinite negative =>
    cases larger with
    | nan => simp at above
    | infinite other => simpa [Value.div, not_lt.mpr positive.le] using above
    | finite w =>
      obtain rfl : negative = true := above
      simp only [Value.div, if_pos nonzero, Format.round]
      split_ifs <;> simp [LE.le, Value.le, not_lt.mpr positive.le]
  | finite v =>
    cases larger with
    | nan => simp at above
    | infinite other =>
      obtain rfl : other = false := above
      simp only [Value.div, if_pos nonzero, Format.round]
      split_ifs <;> simp [LE.le, Value.le, not_lt.mpr positive.le]
    | finite w =>
      have above : v ≤ w := above
      simp only [Value.div, if_pos nonzero]
      apply format.round_mono digits
      gcongr

theorem Format.round_zero (format : Format) : format.round 0 = .finite 0 := by
  rw [format.round_of_lt, format.nearest_zero]
  rw [format.nearest_zero, abs_zero]
  positivity

theorem Format.round_representable (format : Format) (m e : ℤ)
    (digits : |m| < 2 ^ format.precision) (low : format.minExponent ≤ e)
    (high : format.precision + e ≤ format.maxExponent) :
    format.round (m * 2 ^ e) = .finite (m * 2 ^ e) := by
  have exactly := format.nearest_representable m e digits low
  rw [format.round_of_lt, exactly]
  rw [exactly, abs_mul, abs_of_pos (by positivity : (0 : ℚ) < 2 ^ e)]
  have cast : |(m : ℚ)| < 2 ^ format.precision := by exact_mod_cast digits
  calc |(m : ℚ)| * 2 ^ e < 2 ^ format.precision * 2 ^ e := by gcongr
    _ = 2 ^ ((format.precision : ℤ) + e) := by rw [zpow_add₀ two_ne_zero, zpow_natCast]
    _ ≤ 2 ^ format.maxExponent := zpow_le_zpow_right₀ (by norm_num) high

theorem Format.round_round (format : Format) {q r : ℚ} (digits : 0 < format.precision)
    (rounded : format.round q = .finite r) : format.round r = .finite r := by
  rw [Format.round] at rounded
  split at rounded
  next => simp at rounded
  next bounded =>
    obtain rfl := Value.finite.inj rounded
    have again := format.nearest_nearest q digits
    rw [format.round_of_lt, again]
    rw [again]
    exact not_le.mp bounded

-- Below a power of two the error is at most half of the last digit there.
theorem Format.round_near (format : Format) (e : ℤ) {q : ℚ}
    (normal : format.minExponent ≤ e - format.precision) (finite : e < format.maxExponent)
    (nonneg : 0 ≤ q) (below : q < 2 ^ e) :
    ∃ r, format.round q = .finite r ∧ 0 ≤ r ∧ r ≤ 2 ^ e ∧
      |r - q| ≤ 2 ^ (e - format.precision) / 2 := by
  have low := format.nearest_nonneg nonneg
  have high : format.nearest q ≤ 2 ^ e := by
    rcases nonneg.eq_or_lt with rfl | positive
    next =>
      rw [format.nearest_zero]
      positivity
    next => exact format.nearest_le_zpow e q positive (by omega) below
  have error : |format.nearest q - q| ≤ 2 ^ (e - format.precision) / 2 := by
    rcases nonneg.eq_or_lt with rfl | positive
    next =>
      rw [format.nearest_zero, sub_zero, abs_zero]
      positivity
    next =>
      have log : Int.log 2 q < e :=
        (Int.lt_zpow_iff_log_lt (by norm_num) positive).mp (by exact_mod_cast below)
      have coarse : format.quantum q ≤ e - format.precision := by
        rw [Format.quantum, abs_of_pos positive]
        omega
      have unit : (2 : ℚ) ^ format.quantum q ≤ 2 ^ (e - format.precision) :=
        zpow_le_zpow_right₀ (by norm_num) coarse
      have half := format.nearest_error q
      linarith
  refine ⟨format.nearest q, format.round_of_lt ?_, low, high, error⟩
  rw [abs_of_nonneg low]
  exact lt_of_le_of_lt high (zpow_lt_zpow_right₀ (by norm_num) finite)

-- Rounding stays inside the binades around the exact value.
theorem Format.round_between (format : Format) (low high : ℤ) (q : ℚ)
    (digits : 0 < format.precision) (normal : format.minExponent ≤ low + 1 - format.precision)
    (finite : high < format.maxExponent) (above : 2 ^ low ≤ q) (below : q < 2 ^ high) :
    ∃ r, format.round q = .finite r ∧ 2 ^ low ≤ r ∧ r ≤ 2 ^ high := by
  have positive : 0 < q := lt_of_lt_of_le (by positivity) above
  have ordered : low < high :=
    (zpow_lt_zpow_iff_right₀ (by norm_num : (1 : ℚ) < 2)).mp (lt_of_le_of_lt above below)
  have floor := format.zpow_le_nearest low q digits normal above
  have ceiling := format.nearest_le_zpow high q positive (by omega) below
  refine ⟨format.nearest q, format.round_of_lt ?_, floor, ceiling⟩
  rw [abs_of_pos (lt_of_lt_of_le (by positivity) floor)]
  exact lt_of_le_of_lt ceiling (zpow_lt_zpow_right₀ (by norm_num) finite)

end BinaryFloat
