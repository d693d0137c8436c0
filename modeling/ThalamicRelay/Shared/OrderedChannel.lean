import Mathlib.Data.List.Infix
import ThalamicRelay.Shared.Transition

set_option autoImplicit false

namespace OrderedChannel

open Transition

universe u

/-- An ordered channel that may lose items, with its history; each list is oldest first. -/
structure Channel (Item : Type u) where
  offered : List Item
  accepted : List Item
  received : List Item
  buffered : List Item

inductive Action (Item : Type u)
  | lose (item : Item)
  | accept (item : Item)
  | evict
  | receive

namespace Channel

variable {Item : Type u}

def empty : Channel Item where
  offered := []
  accepted := []
  received := []
  buffered := []

def lose (c : Channel Item) (item : Item) : Channel Item :=
  { c with offered := c.offered ++ [item] }

def accept (c : Channel Item) (item : Item) : Channel Item :=
  { c with
    offered := c.offered ++ [item]
    accepted := c.accepted ++ [item]
    buffered := c.buffered ++ [item] }

def Next (before : Channel Item) (action : Action Item) (after : Channel Item) : Prop :=
  match action with
  | .lose item => after = before.lose item
  | .accept item => after = before.accept item
  | .evict => ∃ item, before.buffered = item :: after.buffered ∧
      after = { before with buffered := after.buffered }
  | .receive => ∃ item, before.buffered = item :: after.buffered ∧
      after = { before with
        buffered := after.buffered, received := before.received ++ [item] }

def system : System (Channel Item) (Action Item) where
  initial := fun c => c = empty
  next := Next

structure Ordered (c : Channel Item) : Prop where
  offers : c.accepted.Sublist c.offered
  retained : ∃ gone, c.accepted = gone ++ c.buffered ∧ c.received.Sublist gone

def Lossless (c : Channel Item) : Prop :=
  c.accepted = c.received ++ c.buffered

theorem ordered_empty : (empty : Channel Item).Ordered where
  offers := List.Sublist.slnil
  retained := ⟨[], rfl, List.Sublist.slnil⟩

theorem Ordered.next {before after : Channel Item} {action : Action Item} (ordered : before.Ordered)
    (step : Next before action after) : after.Ordered := by
  obtain ⟨offers, gone, retained, received⟩ := ordered
  cases action with
  | lose item =>
    obtain rfl := step
    exact ⟨offers.trans (List.sublist_append_left _ _), gone, retained, received⟩
  | accept item =>
    obtain rfl := step
    refine ⟨offers.append (List.Sublist.refl [item]), gone, ?_, received⟩
    simp [accept, retained]
  | evict =>
    obtain ⟨item, oldest, same⟩ := step
    rw [same]
    refine ⟨offers, gone ++ [item], ?_, received.trans (List.sublist_append_left _ _)⟩
    simp [retained, oldest]
  | receive =>
    obtain ⟨item, oldest, same⟩ := step
    rw [same]
    refine ⟨offers, gone ++ [item], ?_, received.append (List.Sublist.refl [item])⟩
    simp [retained, oldest]

theorem Ordered.run {before after : Channel Item} {actions : List (Action Item)}
    (ordered : before.Ordered) (run : system.Run before actions after) : after.Ordered := by
  induction run with
  | nil => exact ordered
  | snoc _ step ih => exact ih.next step

theorem Lossless.next {before after : Channel Item} {action : Action Item}
    (lossless : before.Lossless) (step : Next before action after)
    (kept : action = .evict → False) : after.Lossless := by
  simp only [Lossless] at lossless ⊢
  cases action with
  | lose item =>
    obtain rfl := step
    exact lossless
  | accept item =>
    obtain rfl := step
    simp [accept, lossless]
  | evict => exact absurd rfl kept
  | receive =>
    obtain ⟨item, oldest, same⟩ := step
    rw [same]
    simp [lossless, oldest]

theorem Lossless.run {before after : Channel Item} {actions : List (Action Item)}
    (lossless : before.Lossless) (run : system.Run before actions after)
    (kept : Action.evict ∉ actions) : after.Lossless := by
  induction run with
  | nil => exact lossless
  | snoc _ step ih =>
    simp only [List.mem_append, List.mem_singleton, not_or] at kept
    exact (ih kept.1).next step (fun evict => kept.2 evict.symm)

theorem mem_run {before after : Channel Item} {actions : List (Action Item)}
    (run : system.Run before actions after) (kept : Action.evict ∉ actions) {item : Item}
    (member : item ∈ before.received ++ before.buffered) :
    item ∈ after.received ++ after.buffered := by
  induction run with
  | nil => exact member
  | @snoc middle last labels action _ step ih =>
    simp only [List.mem_append, List.mem_singleton, not_or] at kept
    have earlier := ih kept.1
    cases action with
    | lose other =>
      obtain rfl := step
      exact earlier
    | accept other =>
      obtain rfl := step
      simp only [accept, ← List.append_assoc]
      exact List.mem_append_left _ earlier
    | evict => exact absurd rfl kept.2
    | receive =>
      obtain ⟨oldest, split, same⟩ := step
      rw [same]
      simpa [split, List.append_assoc] using earlier

theorem Ordered.sublist {c : Channel Item} (ordered : c.Ordered) :
    (c.received ++ c.buffered).Sublist c.offered := by
  obtain ⟨offers, gone, retained, received⟩ := ordered
  rw [retained] at offers
  exact (received.append (List.Sublist.refl _)).trans offers

theorem Ordered.suffix {c : Channel Item} (ordered : c.Ordered) : c.buffered <:+ c.accepted := by
  obtain ⟨_, gone, retained, _⟩ := ordered
  exact ⟨gone, retained.symm⟩

theorem run_evictAll (c : Channel Item) :
    system.Run c (List.replicate c.buffered.length .evict) { c with buffered := [] } := by
  obtain ⟨offered, accepted, received, buffered⟩ := c
  induction buffered with
  | nil => exact .nil _
  | cons item rest ih =>
    have evict : system.Run (Channel.mk offered accepted received (item :: rest)) [Action.evict]
        (Channel.mk offered accepted received rest) := .single ⟨item, rfl, rfl⟩
    exact evict.append ih

end Channel

end OrderedChannel
