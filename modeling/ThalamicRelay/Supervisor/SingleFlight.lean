import ThalamicRelay.Shared.Exclusive
import ThalamicRelay.Supervisor.NvmlGate

set_option autoImplicit false

namespace ThalamicRelay

open Transition Exclusive

def Call.holdsPermit (call : Call) : Bool :=
  call.phase.holdsPermit

theorem NvmlGate.tryEnter_busy (gate : NvmlGate) :
    gate.tryEnter = .error .busy ↔ gate.busy = true := by
  cases busy : gate.busy <;> simp [tryEnter, busy]

theorem NvmlGate.tryEnter_ok {gate entered : NvmlGate} (admitted : gate.tryEnter = .ok entered) :
    gate.busy = false ∧ entered.busy = true := by
  cases busy : gate.busy
  · simp only [tryEnter, busy, Bool.false_eq_true, if_false, Except.ok.injEq] at admitted
    simp [← admitted]
  · simp [tryEnter, busy] at admitted

theorem WorkerStep.next_holdsPermit {step : WorkerStep} {before after : Phase}
    (moved : step.next before = some after) :
    before.holdsPermit = true ∧ after.holdsPermit = true := by
  cases step <;> cases before <;> simp [WorkerStep.next] at moved <;> subst moved <;>
    exact ⟨rfl, rfl⟩

namespace GateState

structure Inv (s : GateState) : Prop where
  guarded : Guards Call.holdsPermit s.gate.busy s.calls
  exclusive : s.slots.Exclusive

theorem inv_initial : Inv initial where
  guarded := Guards.nil
  exclusive := .inl rfl

theorem inv_enroll {s : GateState} {gate : NvmlGate} (inv : Inv s)
    (admitted : s.gate.tryEnter = .ok gate) (operation : Operation) (phase : Phase)
    (member : phase.holdsPermit = true) : Inv (s.enroll gate operation phase) := by
  obtain ⟨free, taken⟩ := NvmlGate.tryEnter_ok admitted
  have guarded := inv.guarded
  rw [free] at guarded
  constructor
  · simp only [enroll, taken]
    exact guarded.enroll member
  · exact inv.exclusive

theorem inv_dispatch {s : GateState} (inv : Inv s) (snap : SafetySnapshot) :
    Inv (s.dispatch snap) := by
  simp only [dispatch]
  split
  next => exact ⟨inv.guarded, spawnIntent_exclusive snap none inv.exclusive⟩
  next gate admitted =>
    have exclusive := spawnIntent_exclusive snap (some s.calls.length) inv.exclusive
    split
    next slots spawned =>
      rw [spawned] at exclusive
      exact ⟨(inv_enroll inv admitted _ _ rfl).guarded, exclusive⟩
    next result slots spawned =>
      rw [spawned] at exclusive
      exact ⟨inv.guarded, exclusive⟩

theorem inv_act {s : GateState} (inv : Inv s) (action : GateAction) : Inv (s.act action) := by
  cases action with
  | enter =>
    simp only [act]
    split
    next => exact inv
    next gate admitted => exact inv_enroll inv admitted .read .entered rfl
  | worker id step =>
    simp only [act]
    split
    next => exact inv
    next call member =>
      split
      next => exact inv
      next phase moved =>
        obtain ⟨before, after⟩ := WorkerStep.next_holdsPermit moved
        refine ⟨inv.guarded.replace member ?_, inv.exclusive⟩
        exact after.trans before.symm
  | dropPermit id =>
    simp only [act]
    split
    next operation failed waiter member =>
      exact ⟨inv.guarded.release member rfl rfl, inv.exclusive⟩
    next => exact inv
  | waiter id step =>
    simp only [act]
    split
    next => exact inv
    next call member => exact ⟨inv.guarded.replace member rfl, inv.exclusive⟩
  | dispatch snap => exact inv_dispatch inv snap
  | join slot =>
    simp only [act]
    split
    next => exact ⟨inv.guarded, s.slots.take_exclusive slot⟩
    next => exact inv
  | abandon slot => exact ⟨inv.guarded, s.slots.take_exclusive slot⟩

theorem run_reachable (actions : List GateAction) : system.Reachable (run actions) :=
  System.Reachable.run (System.Reachable.start rfl) (System.run_ofFunction _ actions)

theorem inv_reachable {s : GateState} (reachable : system.Reachable s) : Inv s := by
  refine reachable.invariant Inv ?_ ?_
  · intro start first
    rw [first]
    exact inv_initial
  · intro before action after _ inv step
    rw [← step]
    exact inv_act inv action

def Moves (action : GateAction) (id : Nat) (before after : Phase) : Prop :=
  after = before ∨
  (∃ step, action = .worker id step ∧ step.next before = some after) ∨
  (∃ failed, action = .dropPermit id ∧ before = .leaving failed ∧ after = .returned failed)

theorem getElem?_set_moves {s : GateState} {action : GateAction} {id other : Nat}
    {call selected updated : Call} (member : s.calls[id]? = some call)
    (target : s.calls[other]? = some selected)
    (moved : Moves action other selected.phase updated.phase) :
    ∃ next, (s.calls.set other updated)[id]? = some next ∧
      Moves action id call.phase next.phase := by
  by_cases same : other = id
  · subst same
    obtain rfl : selected = call := Option.some.inj (target.symm.trans member)
    obtain ⟨bound, _⟩ := getElem?_lt target
    exact ⟨updated, List.getElem?_set_self bound, moved⟩
  · exact ⟨call, (List.getElem?_set_ne same).trans member, .inl rfl⟩

theorem getElem?_enroll {s : GateState} (gate : NvmlGate) (operation : Operation) (phase : Phase)
    {id : Nat} {call : Call} (member : s.calls[id]? = some call) :
    (s.enroll gate operation phase).calls[id]? = some call := by
  obtain ⟨bound, _⟩ := getElem?_lt member
  exact (List.getElem?_append_left bound).trans member

theorem act_moves (s : GateState) (action : GateAction) {id : Nat} {call : Call}
    (member : s.calls[id]? = some call) :
    ∃ next, (s.act action).calls[id]? = some next ∧ Moves action id call.phase next.phase := by
  have still : ∃ next, s.calls[id]? = some next ∧ Moves action id call.phase next.phase :=
    ⟨call, member, .inl rfl⟩
  cases action with
  | enter =>
    simp only [act]
    split
    next => exact still
    next gate admitted => exact ⟨call, getElem?_enroll gate _ _ member, .inl rfl⟩
  | worker other step =>
    simp only [act]
    split
    next => exact still
    next selected target =>
      split
      next => exact still
      next phase moved => exact getElem?_set_moves member target (.inr (.inl ⟨step, rfl, moved⟩))
  | dropPermit other =>
    simp only [act]
    split
    next operation failed waiter target =>
      exact getElem?_set_moves member target (.inr (.inr ⟨failed, rfl, rfl, rfl⟩))
    next => exact still
  | waiter other step =>
    simp only [act]
    split
    next => exact still
    next selected target => exact getElem?_set_moves member target (.inl rfl)
  | dispatch snap =>
    simp only [act, dispatch]
    split
    next => exact still
    next gate admitted =>
      split
      next => exact ⟨call, getElem?_enroll gate _ _ member, .inl rfl⟩
      next => exact still
  | join slot =>
    simp only [act]
    split <;> exact still
  | abandon slot => exact still

theorem holder_persists {s : GateState} {id : Nat} {call : Call} (later : List GateAction)
    (member : s.calls[id]? = some call) (held : call.phase.holdsPermit = true)
    (kept : GateAction.dropPermit id ∉ later) :
    ∃ next, (later.foldl act s).calls[id]? = some next ∧ next.phase.holdsPermit = true := by
  induction later generalizing s call with
  | nil => exact ⟨call, member, held⟩
  | cons action rest ih =>
    rw [List.mem_cons, not_or] at kept
    obtain ⟨next, there, moved⟩ := act_moves s action member
    refine ih there ?_ kept.2
    rcases moved with same | ⟨step, _, moved⟩ | ⟨failed, dropped, _⟩
    · rw [same]
      exact held
    · exact (WorkerStep.next_holdsPermit moved).2
    · exact absurd dropped.symm kept.1

theorem running_persists {s : GateState} {id : Nat} {call : Call} (later : List GateAction)
    (member : s.calls[id]? = some call) (runs : call.phase = .running)
    (unfinished : ∀ failed, GateAction.worker id (.finish failed) ∉ later) :
    ∃ next, (later.foldl act s).calls[id]? = some next ∧ next.phase = .running := by
  induction later generalizing s call with
  | nil => exact ⟨call, member, runs⟩
  | cons action rest ih =>
    obtain ⟨next, there, moved⟩ := act_moves s action member
    have remaining (failed : Bool) : GateAction.worker id (.finish failed) ∉ rest :=
      fun inside => unfinished failed (List.mem_cons_of_mem _ inside)
    refine ih there ?_ remaining
    rw [runs] at moved
    rcases moved with same | ⟨step, named, moved⟩ | ⟨failed, _, impossible, _⟩
    · exact same
    · cases step with
      | finish failed =>
        refine absurd ?_ (unfinished failed)
        rw [named]
        exact List.mem_cons_self
      | spawn | start | discard => simp [WorkerStep.next] at moved
    · simp at impossible

def Excludes (s : GateState) (id : Nat) : Prop :=
  s.gate.tryEnter = .error .busy ∧
  ∀ other call, s.calls[other]? = some call → call.phase.holdsPermit = true → other = id

theorem holder_excludes {s : GateState} (inv : Inv s) {id : Nat} {call : Call}
    (member : s.calls[id]? = some call) (held : call.phase.holdsPermit = true) :
    s.Excludes id := by
  constructor
  · exact (NvmlGate.tryEnter_busy _).mpr (inv.guarded.held member held)
  · intro other second there heldThere
    exact inv.guarded.unique there member heldThere held

def Free (s : GateState) : Prop :=
  s.permits = 0 ∧ ∃ gate, s.gate.tryEnter = .ok gate

theorem free_iff {s : GateState} (inv : Inv s) : s.Free ↔ s.gate.busy = false := by
  have counted : s.permits = s.gate.busy.toNat := inv.guarded
  simp only [Free]
  rw [counted]
  cases busy : s.gate.busy <;> simp [NvmlGate.tryEnter, busy]

theorem dropPermit_frees {s : GateState} (inv : Inv s) {id : Nat} {call : Call} {failed : Bool}
    (member : s.calls[id]? = some call) (leaves : call.phase = .leaving failed) :
    (s.act (.dropPermit id)).Free := by
  apply (free_iff (inv_act inv _)).mpr
  obtain ⟨operation, phase, waiter⟩ := call
  obtain rfl : phase = .leaving failed := leaves
  simp only [act, member]
  rfl

theorem finish_frees {s : GateState} (inv : Inv s) {id : Nat} {call : Call} (failed : Bool)
    (member : s.calls[id]? = some call) (runs : call.phase = .running) :
    ((s.act (.worker id (.finish failed))).act (.dropPermit id)).Free := by
  have finished : s.act (.worker id (.finish failed)) = s.setPhase id call (.leaving failed) := by
    simp only [act, member, runs, WorkerStep.next]
  obtain ⟨bound, _⟩ := getElem?_lt member
  have there : (s.act (.worker id (.finish failed))).calls[id]? =
      some { call with phase := .leaving failed } := by
    rw [finished]
    exact List.getElem?_set_self bound
  exact dropPermit_frees (inv_act inv _) there rfl

theorem executing_le_permits (s : GateState) : s.executing ≤ s.permits := by
  apply List.countP_mono_left
  intro call _ runs
  rw [of_decide_eq_true runs]
  rfl

theorem single_flight (actions : List GateAction) :
    let s := run actions
    s.permits ≤ 1 ∧ (s.gate.busy = true ↔ 0 < s.permits) ∧ s.executing ≤ 1 ∧
    ¬ (s.slots.brakeTask.isSome = true ∧ s.slots.releaseTask.isSome = true) ∧
    ∀ id call, s.calls[id]? = some call →
      (call.phase.holdsPermit = true → ∀ later : List GateAction, .dropPermit id ∉ later →
        (later.foldl act s).Excludes id) ∧
      (call.phase = .running → ∀ later : List GateAction,
        (∀ failed, .worker id (.finish failed) ∉ later) →
        (later.foldl act s).Excludes id ∧ (later.foldl act s).executing = 1) ∧
      (call.phase = .running → ∀ failed,
        ((s.act (.worker id (.finish failed))).act (.dropPermit id)).Free) ∧
      (∀ failed, call.phase = .leaving failed → (s.act (.dropPermit id)).Free) := by
  intro s
  have inv : Inv s := inv_reachable (run_reachable actions)
  have single : s.permits ≤ 1 := inv.guarded.le_one
  have invAfter (later : List GateAction) : Inv (later.foldl act s) :=
    inv_reachable ((run_reachable actions).run (System.run_ofFunction _ later))
  refine ⟨single, inv.guarded.flag_iff, (executing_le_permits s).trans single, ?_, ?_⟩
  · rintro ⟨applying, releasing⟩
    rw [inv.exclusive.releaseTask applying] at releasing
    exact absurd releasing (by decide)
  · intro id call member
    refine ⟨?_, ?_, ?_, ?_⟩
    · intro held later kept
      obtain ⟨next, there, still⟩ := holder_persists later member held kept
      exact holder_excludes (invAfter later) there still
    · intro runs later unfinished
      obtain ⟨next, there, still⟩ := running_persists later member runs unfinished
      refine ⟨holder_excludes (invAfter later) there (by rw [still]; rfl), ?_⟩
      have most := (executing_le_permits _).trans (invAfter later).guarded.le_one
      have least : 0 < (later.foldl act s).executing :=
        List.countP_pos_iff.mpr ⟨next, List.mem_of_getElem? there, decide_eq_true still⟩
      omega
    · intro runs failed
      exact finish_frees inv failed member runs
    · intro failed leaves
      exact dropPermit_frees inv member leaves

end GateState

end ThalamicRelay
