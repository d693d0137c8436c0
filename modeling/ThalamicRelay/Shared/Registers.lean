import Mathlib.Logic.Function.Basic

set_option autoImplicit false

namespace Registers

universe u v

variable {Key : Type u} {Value : Type v} [DecidableEq Key]

-- Single writes are atomic; a batch of them is not.
def write (board : Key → Option Value) (entry : Key × Value) : Key → Option Value :=
  Function.update board entry.1 (some entry.2)

def Settling (due coming : List (Key × Value)) (board : Key → Option Value) : Prop :=
  ∀ entry ∈ due, entry ∈ coming ∨ board entry.1 = some entry.2

omit [DecidableEq Key] in
theorem Settling.begun (due : List (Key × Value)) (board : Key → Option Value) :
    Settling due due board :=
  fun _ member => .inl member

omit [DecidableEq Key] in
theorem Settling.settled {due : List (Key × Value)} {board : Key → Option Value}
    (settling : Settling due [] board) : ∀ entry ∈ due, board entry.1 = some entry.2 := by
  intro entry member
  simpa using settling entry member

omit [DecidableEq Key] in
theorem Settling.mono {due coming more : List (Key × Value)} {board : Key → Option Value}
    (settling : Settling due coming board) (included : ∀ entry ∈ coming, entry ∈ more) :
    Settling due more board := by
  intro entry member
  exact (settling entry member).imp_left (included entry)

theorem Settling.write {due coming : List (Key × Value)} {board : Key → Option Value}
    {written : Key × Value}
    (functional : ∀ first ∈ due, ∀ second ∈ due, first.1 = second.1 → first.2 = second.2)
    (settling : Settling due (written :: coming) board) (current : written ∈ due) :
    Settling due coming (write board written) := by
  intro entry member
  by_cases same : entry.1 = written.1
  next =>
    right
    simp [Registers.write, same, functional entry member written current same]
  next =>
    rcases settling entry member with waiting | held
    next =>
      rcases List.mem_cons.mp waiting with rfl | later
      next => exact absurd rfl same
      next => exact .inl later
    next =>
      right
      simpa [Registers.write, Function.update, same] using held

def bump (limit : Nat) (counters : Key → Nat) (key : Key) : Key → Nat :=
  Function.update counters key ((counters key + 1) % limit)

def Owing (total : Key → Nat) (coming : List Key) (counters : Key → Nat) : Prop :=
  ∀ key, counters key + coming.count key = total key

theorem Owing.bump {limit : Nat} {total counters : Key → Nat} {coming : List Key}
    (owing : Owing total coming counters) {key : Key} (due : key ∈ coming)
    (below : total key < limit) : Owing total (coming.erase key) (bump limit counters key) := by
  intro other
  have counted := owing other
  by_cases same : other = key
  next =>
    subst same
    have positive : 0 < coming.count other := List.count_pos_iff.mpr due
    have fits : counters other + 1 < limit := by omega
    simp only [Registers.bump, Function.update_self, Nat.mod_eq_of_lt fits,
      List.count_erase_self]
    omega
  next =>
    simpa [Registers.bump, same, List.count_erase_of_ne same] using counted

theorem Owing.more {before after : Key → Nat} {counters : Key → Nat} {coming started : List Key}
    (owing : Owing before coming counters)
    (counted : ∀ key, after key = before key + started.count key) :
    Owing after (coming ++ started) counters := by
  intro key
  have earlier := owing key
  rw [List.count_append, counted key]
  omega

theorem Owing.perm {total counters : Key → Nat} {coming other : List Key}
    (owing : Owing total coming counters) (same : coming.Perm other) :
    Owing total other counters := by
  intro key
  rw [← same.count_eq key]
  exact owing key

theorem Owing.paid {total counters : Key → Nat} (owing : Owing total [] counters) :
    counters = total := by
  funext key
  simpa using owing key

end Registers
