import Mathlib.Data.Nat.Init
import Mathlib.Tactic.SplitIfs
import ThalamicRelay.Shared.Transition

set_option autoImplicit false

namespace Saturating

def u32Max : Nat := 0xFFFFFFFF

def u64Max : Nat := 0xFFFFFFFFFFFFFFFF

def increment (limit count : Nat) : Nat :=
  min (count + 1) limit

def multiply (limit a b : Nat) : Nat :=
  min (a * b) limit

theorem increment_le (limit count : Nat) : increment limit count ≤ count + 1 :=
  Nat.min_le_left _ _

theorem increment_min (count limit : Nat) :
    increment limit (min count limit) = min (count + 1) limit := by
  simp only [increment]
  omega

theorem counter_tally {State Label : Type} {step : State → Label → State} {counter : State → Nat}
    {counted : State → Label → Bool} {limit : Nat}
    (stepped : ∀ state label, counter (step state label) =
      if counted state label then increment limit (counter state) else counter state)
    {start : State} {earlier : Nat} (initially : counter start = min earlier limit)
    (labels : List Label) :
    counter (labels.foldl step start) =
      min (earlier + Transition.System.tally step counted start labels) limit := by
  induction labels generalizing start earlier with
  | nil => simpa [Transition.System.tally] using initially
  | cons label later ih =>
    have first := stepped start label
    rw [List.foldl_cons, Transition.System.tally]
    cases counts : counted start label with
    | true =>
      have next : counter (step start label) = min (earlier + 1) limit := by
        simpa [counts, initially, increment_min] using first
      simpa [Nat.add_assoc] using ih next
    | false =>
      have next : counter (step start label) = min earlier limit := by
        simpa [counts, initially] using first
      simpa using ih next

theorem multiply_multiply (limit a b c : Nat) (positive : 0 < c) :
    multiply limit (multiply limit a b) c = multiply limit a (b * c) := by
  have wider : limit ≤ limit * c := Nat.le_mul_of_pos_right limit positive
  simp only [multiply, ← Nat.mul_assoc]
  rcases Nat.le_total (a * b) limit with small | large
  · rw [Nat.min_eq_left small]
  · have product : limit * c ≤ a * b * c := Nat.mul_le_mul_right c large
    rw [Nat.min_eq_right large, Nat.min_eq_right wider,
      Nat.min_eq_right (Nat.le_trans wider product)]

namespace Word

def saturatingAdd (a b : UInt32) : UInt32 :=
  UInt32.ofNat (min (a.toNat + b.toNat) u32Max)

def saturatingSub (a b : UInt32) : UInt32 :=
  UInt32.ofNat (a.toNat - b.toNat)

def absDiff (a b : UInt32) : UInt32 :=
  if a < b then b - a else a - b

@[simp] theorem saturatingAdd_toNat (a b : UInt32) :
    (saturatingAdd a b).toNat = min (a.toNat + b.toNat) u32Max := by
  apply UInt32.toNat_ofNat_of_lt'
  simp only [u32Max, UInt32.size]
  omega

@[simp] theorem saturatingSub_toNat (a b : UInt32) :
    (saturatingSub a b).toNat = a.toNat - b.toNat := by
  apply UInt32.toNat_ofNat_of_lt'
  have bound := a.toNat_lt
  simp only [UInt32.size]
  omega

@[simp] theorem absDiff_toNat (a b : UInt32) :
    (absDiff a b).toNat = (a.toNat - b.toNat) + (b.toNat - a.toNat) := by
  simp only [absDiff]
  split_ifs with less
  · have ordered := UInt32.lt_iff_toNat_lt.mp less
    rw [UInt32.toNat_sub_of_le _ _ (UInt32.le_iff_toNat_le.mpr (Nat.le_of_lt ordered))]
    omega
  · have ordered : b.toNat ≤ a.toNat := by
      simpa [UInt32.lt_iff_toNat_lt] using less
    rw [UInt32.toNat_sub_of_le _ _ (UInt32.le_iff_toNat_le.mpr ordered)]
    omega

theorem absDiff_le (a b bound : UInt32) :
    absDiff a b ≤ bound ↔
      a.toNat ≤ b.toNat + bound.toNat ∧ b.toNat ≤ a.toNat + bound.toNat := by
  rw [UInt32.le_iff_toNat_le, absDiff_toNat]
  omega

theorem le_saturatingAdd (a b c : UInt32) :
    a ≤ saturatingAdd b c ↔ a.toNat ≤ b.toNat + c.toNat := by
  have bound := a.toNat_lt
  rw [UInt32.le_iff_toNat_le, saturatingAdd_toNat, u32Max]
  omega

theorem lt_saturatingSub (a b c : UInt32) :
    a < saturatingSub b c ↔ a.toNat + c.toNat < b.toNat := by
  rw [UInt32.lt_iff_toNat_lt, saturatingSub_toNat]
  omega

end Word

end Saturating
