import Mathlib.Data.List.TakeDrop
import ThalamicRelay.Shared.Transition

set_option autoImplicit false

namespace Transition

universe u v

variable {State : Type u} {Label : Type v}

structure Fair (allowed helpful : Label → Prop) (pace : Nat) (window : List Label) : Prop where
  allowed : ∀ label ∈ window, allowed label
  helped : ∀ early, early + pace ≤ window.length →
    ∃ label ∈ (window.drop early).take pace, helpful label

section Progress

variable (step : State → Label → State) (allowed helpful : Label → Prop) (pace : Nat)

def LeadsTo (bound : Nat) (before after : State → Prop) : Prop :=
  ∀ state window, before state → Fair allowed helpful pace window → bound ≤ window.length →
    ∃ taken, taken ≤ bound ∧ after ((window.take taken).foldl step state)

def Stable (property : State → Prop) : Prop :=
  ∀ state label, property state → allowed label → property (step state label)

variable {step allowed helpful pace} {bound further : Nat} {window : List Label}
  {before middle after property : State → Prop}

theorem Fair.replicate {label : Label} (positive : 0 < pace) (ok : allowed label)
    (helps : helpful label) (count : Nat) :
    Fair allowed helpful pace (List.replicate count label) where
  allowed := by
    intro other member
    rwa [List.eq_of_mem_replicate member]
  helped := by
    intro early enough
    rw [List.length_replicate] at enough
    refine ⟨label, ?_, helps⟩
    rw [List.drop_replicate, List.take_replicate, List.mem_replicate]
    exact ⟨by omega, rfl⟩

theorem Fair.drop (fair : Fair allowed helpful pace window) (early : Nat) :
    Fair allowed helpful pace (window.drop early) where
  allowed := fun label member => fair.allowed label (List.mem_of_mem_drop member)
  helped := by
    intro later enough
    rw [List.length_drop] at enough
    rw [List.drop_drop]
    rcases Nat.eq_zero_or_pos pace with rfl | positive
    next => simpa using fair.helped 0 (Nat.zero_le _)
    next => exact fair.helped (early + later) (by omega)

theorem Stable.run (stable : Stable step allowed property) {state : State} (holds : property state)
    (every : ∀ label ∈ window, allowed label) : property (window.foldl step state) := by
  induction window generalizing state with
  | nil => exact holds
  | cons label later ih =>
    obtain ⟨now, rest⟩ := List.forall_mem_cons.mp every
    exact ih (stable state label holds now) rest

namespace LeadsTo

theorem trans (first : LeadsTo step allowed helpful pace bound before middle)
    (second : LeadsTo step allowed helpful pace further middle after) :
    LeadsTo step allowed helpful pace (bound + further) before after := by
  intro state window holds fair enough
  obtain ⟨early, soon, reached⟩ := first state window holds fair (by omega)
  have rest : further ≤ (window.drop early).length := by
    rw [List.length_drop]
    omega
  obtain ⟨later, bounded, last⟩ := second _ (window.drop early) reached (fair.drop early) rest
  refine ⟨early + later, by omega, ?_⟩
  rw [List.take_add, List.foldl_append]
  exact last

theorem final (leads : LeadsTo step allowed helpful pace bound before after)
    (stable : Stable step allowed after) {state : State} (holds : before state)
    (fair : Fair allowed helpful pace window) (enough : bound ≤ window.length) :
    after (window.foldl step state) := by
  obtain ⟨taken, _, reached⟩ := leads state window holds fair enough
  rw [← List.take_append_drop taken window, List.foldl_append]
  exact stable.run reached fun label member => fair.allowed label (List.mem_of_mem_drop member)

theorem someStep_taken {state : State}
    (served : System.SomeStep step (fun state label => after (step state label)) state window) :
    ∃ taken, taken ≤ window.length ∧ after ((window.take taken).foldl step state) := by
  induction window generalizing state with
  | nil => exact served.elim
  | cons label later ih =>
    rcases served with now | served
    next => exact ⟨1, by simp, now⟩
    next =>
      obtain ⟨taken, bounded, reached⟩ := ih served
      exact ⟨taken + 1, by simpa using bounded, reached⟩

theorem of_waits (waits : Nat → State → Prop)
    (each : ∀ waited state label, waits waited state → allowed label →
      after (step state label) ∨ waits (waited + 1) (step state label))
    (arrived : ∀ state, waits bound state → after state) :
    LeadsTo step allowed helpful pace bound (waits 0) after := by
  intro state window holds fair enough
  have full : (window.take bound).length = bound := by
    rw [List.length_take, Nat.min_eq_left enough]
  have every (label : Label) (member : label ∈ window.take bound) : allowed label :=
    fair.allowed label (List.mem_of_mem_take member)
  rcases System.served_or_waits waits each holds every with served | waiting
  next =>
    obtain ⟨taken, bounded, reached⟩ := someStep_taken served
    rw [full] at bounded
    rw [List.take_take, Nat.min_eq_left bounded] at reached
    exact ⟨taken, bounded, reached⟩
  next =>
    rw [full, Nat.zero_add] at waiting
    exact ⟨bound, Nat.le_refl _, arrived _ waiting⟩

theorem of_helped
    (each : ∀ state label, before state → allowed label →
      after (step state label) ∨ before (step state label))
    (helps : ∀ state label, before state → allowed label → helpful label →
      after (step state label)) :
    LeadsTo step allowed helpful pace pace before after := by
  intro state window holds fair enough
  have waiting (waited : Nat) (state : State) (label : Label) (holds : before state)
      (ok : allowed label) :
      after (step state label) ∨ (before (step state label) ∧ ¬ helpful label) := by
    by_cases helping : helpful label
    next => exact .inl (helps state label holds ok helping)
    next => exact (each state label holds ok).imp_right fun still => ⟨still, helping⟩
  have every (label : Label) (member : label ∈ window.take pace) : allowed label :=
    fair.allowed label (List.mem_of_mem_take member)
  have opened : ∃ label ∈ window.take pace, helpful label := by
    simpa using fair.helped 0 (by simpa using enough)
  have served : System.SomeStep step (fun state label => after (step state label)) state
      (window.take pace) :=
    @System.served_at _ _ step _ allowed helpful (fun _ => before) waiting state 0 holds _ every
      opened
  obtain ⟨taken, bounded, reached⟩ := someStep_taken served
  rw [List.length_take, Nat.min_eq_left enough] at bounded
  rw [List.take_take, Nat.min_eq_left bounded] at reached
  exact ⟨taken, bounded, reached⟩

end LeadsTo

end Progress

end Transition
