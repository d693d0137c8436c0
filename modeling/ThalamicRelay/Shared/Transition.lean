import Mathlib.Data.List.Induction

set_option autoImplicit false

namespace Transition

universe u v

structure System (State : Type u) (Label : Type v) where
  initial : State → Prop
  next : State → Label → State → Prop

namespace System

variable {State : Type u} {Label : Type v}

/-- Labels carry every choice of the environment, so a run is a start and a list. -/
inductive Run (system : System State Label) : State → List Label → State → Prop
  | nil (state : State) : Run system state [] state
  | snoc {start middle last : State} {labels : List Label} {label : Label} :
      Run system start labels middle → system.next middle label last →
      Run system start (labels ++ [label]) last

def Reachable (system : System State Label) (state : State) : Prop :=
  ∃ start labels, system.initial start ∧ system.Run start labels state

def ofFunction (initial : State → Prop) (step : State → Label → State) : System State Label where
  initial := initial
  next := fun before label after => step before label = after

def ofPartial (initial : State → Prop) (step : State → Label → Option State) :
    System State Label where
  initial := initial
  next := fun before label after => step before label = some after

def restrict (system : System State Label) (allowed : State → Label → Prop) :
    System State Label where
  initial := system.initial
  next := fun before label after => allowed before label ∧ system.next before label after

variable {system : System State Label}

theorem Run.single {before after : State} {label : Label} (step : system.next before label after) :
    system.Run before [label] after := by
  simpa using Run.snoc (Run.nil before) step

theorem Run.append {start middle last : State} {first second : List Label}
    (before : system.Run start first middle) (after : system.Run middle second last) :
    system.Run start (first ++ second) last := by
  induction after with
  | nil => simpa using before
  | snoc _ step ih => simpa [List.append_assoc] using Run.snoc ih step

theorem Run.invariant (property : State → Prop) {start last : State} {labels : List Label}
    (preserved : ∀ before label after, property before → system.next before label after →
      property after)
    (run : system.Run start labels last) (initially : property start) : property last := by
  induction run with
  | nil => exact initially
  | snoc _ step ih => exact preserved _ _ _ ih step

theorem Reachable.start {state : State} (initially : system.initial state) :
    system.Reachable state :=
  ⟨state, [], initially, Run.nil state⟩

theorem Reachable.run {state last : State} {labels : List Label}
    (reachable : system.Reachable state) (run : system.Run state labels last) :
    system.Reachable last := by
  obtain ⟨start, earlier, initially, before⟩ := reachable
  exact ⟨start, earlier ++ labels, initially, before.append run⟩

theorem Reachable.step {before after : State} {label : Label}
    (reachable : system.Reachable before) (step : system.next before label after) :
    system.Reachable after :=
  reachable.run (Run.single step)

theorem Reachable.invariant (property : State → Prop) {state : State}
    (initially : ∀ start, system.initial start → property start)
    (preserved : ∀ before label after, system.Reachable before → property before →
      system.next before label after → property after)
    (reachable : system.Reachable state) : property state := by
  obtain ⟨start, labels, first, run⟩ := reachable
  have kept : system.Reachable state ∧ property state := by
    refine run.invariant (fun state => system.Reachable state ∧ property state) ?_
      ⟨.start first, initially start first⟩
    rintro before label after ⟨reached, holds⟩ step
    exact ⟨reached.step step, preserved before label after reached holds step⟩
  exact kept.2

theorem Run.mono {larger : System State Label} {start last : State} {labels : List Label}
    (included : ∀ before label after, system.next before label after →
      larger.next before label after)
    (run : system.Run start labels last) : larger.Run start labels last := by
  induction run with
  | nil => exact Run.nil _
  | snoc _ step ih => exact Run.snoc ih (included _ _ _ step)

theorem Reachable.unrestricted {allowed : State → Label → Prop} {state : State}
    (reachable : (system.restrict allowed).Reachable state) : system.Reachable state := by
  obtain ⟨start, labels, initially, run⟩ := reachable
  have included (before : State) (label : Label) (after : State)
      (step : (system.restrict allowed).next before label after) :
      system.next before label after := step.2
  exact ⟨start, labels, initially, run.mono included⟩

theorem run_ofPartial {initial : State → Prop} {step : State → Label → Option State}
    {start last : State} {labels : List Label} (ran : labels.foldlM step start = some last) :
    (ofPartial initial step).Run start labels last := by
  induction labels generalizing start with
  | nil =>
    obtain rfl : start = last := by simpa using ran
    exact Run.nil start
  | cons label labels ih =>
    rw [List.foldlM_cons] at ran
    obtain ⟨middle, first, rest⟩ := Option.bind_eq_some_iff.mp ran
    simpa using (Run.single first).append (ih rest)

theorem run_ofFunction {initial : State → Prop} {step : State → Label → State}
    (start : State) (labels : List Label) :
    (ofFunction initial step).Run start labels (labels.foldl step start) := by
  induction labels using List.reverseRecOn with
  | nil => exact Run.nil start
  | append_singleton labels label ih =>
    rw [List.foldl_append]
    exact Run.snoc ih rfl

theorem run_restrict {initial : State → Prop} {step : State → Label → Option State}
    {allowed : State → Label → Prop} [∀ state label, Decidable (allowed state label)]
    {start last : State} {labels : List Label}
    (ran : labels.foldlM (fun state label =>
      if allowed state label then step state label else none) start = some last) :
    ((ofPartial initial step).restrict allowed).Run start labels last := by
  refine Run.mono ?_ (run_ofPartial ran : (ofPartial initial _).Run start labels last)
  intro before label after stepped
  simpa [ofPartial, restrict] using stepped

section Runs

variable (step : State → Label → State)

def Throughout (property : State → Prop) : State → List Label → Prop
  | state, [] => property state
  | state, label :: later => property state ∧ Throughout property (step state label) later

def EveryStep (allowed : State → Label → Prop) : State → List Label → Prop
  | _, [] => True
  | state, label :: later => allowed state label ∧ EveryStep allowed (step state label) later

def tally (counted : State → Label → Bool) : State → List Label → Nat
  | _, [] => 0
  | state, label :: later =>
    (if counted state label then 1 else 0) + tally counted (step state label) later

def SomeStep (asked : State → Label → Prop) : State → List Label → Prop
  | _, [] => False
  | state, label :: later => asked state label ∨ SomeStep asked (step state label) later

variable {step} {property invariant : State → Prop} {allowed asked : State → Label → Prop}

theorem tally_labels (counted : Label → Bool) (state : State) (labels : List Label) :
    tally step (fun _ label => counted label) state labels = labels.countP counted := by
  induction labels generalizing state with
  | nil => rfl
  | cons label later ih => rw [tally, ih, List.countP_cons, Nat.add_comm]

theorem Throughout.start {state : State} {labels : List Label}
    (throughout : Throughout step property state labels) : property state := by
  cases labels with
  | nil => exact throughout
  | cons label later => exact throughout.1

-- The property fails at the first step that is not allowed, so the two can be read off each other.
theorem throughout_iff_under
    (kept : ∀ state label, invariant state → invariant (step state label))
    (exact : ∀ state label, invariant state → property state →
      (property (step state label) ↔ allowed state label))
    {start : State} (known : invariant start) (initially : property start) (labels : List Label) :
    Throughout step property start labels ↔ EveryStep step allowed start labels := by
  induction labels generalizing start with
  | nil => simpa [Throughout, EveryStep] using initially
  | cons label later ih =>
    have decides := exact start label known initially
    have after := ih (kept start label known)
    simp only [Throughout, EveryStep, initially, true_and]
    constructor
    next =>
      intro throughout
      have next := throughout.start
      exact ⟨decides.mp next, (after next).mp throughout⟩
    next =>
      intro every
      exact (after (decides.mpr every.1)).mpr every.2

theorem everyStep_iff_under {other : State → Label → Prop}
    (kept : ∀ state label, invariant state → invariant (step state label))
    (same : ∀ state label, invariant state → (allowed state label ↔ other state label))
    {start : State} (known : invariant start) (labels : List Label) :
    EveryStep step allowed start labels ↔ EveryStep step other start labels := by
  induction labels generalizing start with
  | nil => exact Iff.rfl
  | cons label later ih => exact and_congr (same start label known) (ih (kept start label known))

theorem throughout_iff_everyStep
    (exact : ∀ state label, property state → (property (step state label) ↔ allowed state label))
    {start : State} (initially : property start) (labels : List Label) :
    Throughout step property start labels ↔ EveryStep step allowed start labels := by
  have kept (state : State) (label : Label) (known : (fun _ => True) state) :
      (fun _ => True) (step state label) := known
  exact throughout_iff_under kept (fun state label _ => exact state label) trivial initially labels

theorem someStep_append (start : State) (first second : List Label) :
    SomeStep step asked start (first ++ second) ↔
      SomeStep step asked start first ∨ SomeStep step asked (first.foldl step start) second := by
  induction first generalizing start with
  | nil => simp [SomeStep]
  | cons label later ih => simp [SomeStep, ih, or_assoc]

theorem served_or_waits {allowed : Label → Prop} (waits : Nat → State → Prop)
    (each : ∀ waited state label, waits waited state → allowed label →
      asked state label ∨ waits (waited + 1) (step state label))
    {start : State} {waited : Nat} (initially : waits waited start) {labels : List Label}
    (every : ∀ label ∈ labels, allowed label) :
    SomeStep step asked start labels ∨
      waits (waited + labels.length) (labels.foldl step start) := by
  induction labels generalizing start waited with
  | nil => exact .inr initially
  | cons label later ih =>
    obtain ⟨now, rest⟩ := List.forall_mem_cons.mp every
    rcases each waited start label initially now with served | waiting
    next => exact .inl (.inl served)
    next =>
      rcases ih waiting rest with served | still
      next => exact .inl (.inr served)
      next =>
        right
        rwa [List.length_cons, Nat.add_comm later.length, ← Nat.add_assoc]

theorem served_at {allowed opens : Label → Prop} (waits : Nat → State → Prop)
    (each : ∀ waited state label, waits waited state → allowed label →
      asked state label ∨ (waits (waited + 1) (step state label) ∧ ¬ opens label))
    {start : State} {waited : Nat} (initially : waits waited start) {labels : List Label}
    (every : ∀ label ∈ labels, allowed label) (opened : ∃ label ∈ labels, opens label) :
    SomeStep step asked start labels := by
  induction labels generalizing start waited with
  | nil => simp at opened
  | cons label later ih =>
    obtain ⟨now, rest⟩ := List.forall_mem_cons.mp every
    rcases each waited start label initially now with served | ⟨waiting, closed⟩
    next => exact .inl served
    next =>
      obtain ⟨opening, member, opens⟩ := opened
      rcases List.mem_cons.mp member with rfl | member
      next => exact absurd opens closed
      next => exact .inr (ih waiting rest ⟨opening, member, opens⟩)

end Runs

end System

/-- One concrete step may be any number of abstract steps, also none. -/
structure Simulation {State : Type u} {Label : Type v} {Abstract : Type u} {Action : Type v}
    (concrete : System State Label) (abstract : System Abstract Action) where
  relation : State → Abstract → Prop
  initial : ∀ state, concrete.initial state →
    ∃ image, abstract.initial image ∧ relation state image
  step : ∀ before label after image, relation before image → concrete.next before label after →
    ∃ actions next, abstract.Run image actions next ∧ relation after next

namespace Simulation

variable {State : Type u} {Label : Type v} {Abstract : Type u} {Action : Type v}
  {concrete : System State Label} {abstract : System Abstract Action}

theorem reachable (simulation : Simulation concrete abstract) {state : State}
    (reached : concrete.Reachable state) :
    ∃ image, abstract.Reachable image ∧ simulation.relation state image := by
  refine reached.invariant
    (fun state => ∃ image, abstract.Reachable image ∧ simulation.relation state image)
    (fun start initially => ?_)
    (fun before label after _ related step => ?_)
  · obtain ⟨image, first, related⟩ := simulation.initial start initially
    exact ⟨image, System.Reachable.start first, related⟩
  · obtain ⟨image, reachable, related⟩ := related
    obtain ⟨actions, next, run, after⟩ := simulation.step before label after image related step
    exact ⟨next, reachable.run run, after⟩

end Simulation

end Transition
