import Mathlib.Data.List.Basic

set_option autoImplicit false

namespace History

universe u

variable {Event : Type u}

-- Histories are newest first, so the events before a position are its tail.

def Always (holds : Event → List Event → Prop) (history : List Event) : Prop :=
  ∀ newer event older, history = newer ++ event :: older → holds event older

theorem Always.nil {holds : Event → List Event → Prop} : Always holds [] := by
  intro newer event older split
  simp at split

theorem Always.cons {holds : Event → List Event → Prop} {event : Event} {older : List Event}
    (now : holds event older) (before : Always holds older) : Always holds (event :: older) := by
  intro newer found rest split
  cases newer with
  | nil =>
    simp only [List.nil_append, List.cons.injEq] at split
    rw [← split.1, ← split.2]
    exact now
  | cons first newer =>
    simp only [List.cons_append, List.cons.injEq] at split
    exact before newer found rest split.2

inductive Mark
  | counts
  | resets
  | neutral
  deriving DecidableEq, Repr

def streak (mark : Event → Mark) : List Event → Nat
  | [] => 0
  | event :: older =>
    match mark event with
    | .counts => streak mark older + 1
    | .resets => 0
    | .neutral => streak mark older

theorem streak_counts {mark : Event → Mark} {event : Event} {older : List Event}
    (counts : mark event = .counts) : streak mark (event :: older) = streak mark older + 1 := by
  simp only [streak, counts]

theorem streak_neutral {mark : Event → Mark} {event : Event} {older : List Event}
    (neutral : mark event = .neutral) : streak mark (event :: older) = streak mark older := by
  simp only [streak, neutral]

def Unbroken (mark : Event → Mark) (count : Nat) (history : List Event) : Prop :=
  ∃ recent older, history = recent ++ older ∧ (∀ event ∈ recent, mark event ≠ .resets) ∧
    count ≤ recent.countP (mark · = .counts)

theorem unbroken_streak (mark : Event → Mark) (history : List Event) :
    Unbroken mark (streak mark history) history := by
  induction history with
  | nil => exact ⟨[], [], rfl, by simp, Nat.le_refl 0⟩
  | cons event older ih =>
    obtain ⟨recent, rest, split, unbroken, counted⟩ := ih
    cases marked : mark event with
    | counts =>
      refine ⟨event :: recent, rest, by rw [split]; rfl, ?_, ?_⟩
      · simpa [marked] using unbroken
      · rw [streak_counts marked, List.countP_cons_of_pos (by simp [marked])]
        omega
    | resets => exact ⟨[], event :: older, rfl, by simp, by simp [streak, marked]⟩
    | neutral =>
      refine ⟨event :: recent, rest, by rw [split]; rfl, ?_, ?_⟩
      · simpa [marked] using unbroken
      · rw [streak_neutral marked, List.countP_cons_of_neg (by simp [marked])]
        exact counted

theorem Unbroken.weaken {mark : Event → Mark} {count fewer : Nat} {history : List Event}
    (unbroken : Unbroken mark count history) (less : fewer ≤ count) :
    Unbroken mark fewer history := by
  obtain ⟨recent, older, split, clear, counted⟩ := unbroken
  exact ⟨recent, older, split, clear, Nat.le_trans less counted⟩

end History
