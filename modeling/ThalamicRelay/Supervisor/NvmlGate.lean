import ThalamicRelay.Shared.Transition
import ThalamicRelay.Supervisor.Dispatch

set_option autoImplicit false

namespace ThalamicRelay

inductive NvmlRunError
  | busy
  | timedOut
  | workerFailed
  deriving DecidableEq, Repr

structure NvmlGate where
  busy : Bool
  deriving DecidableEq, Repr

def NvmlGate.default : NvmlGate := { busy := false }

-- compare_exchange(false, true); the permit is the phase of the call that entered.
def NvmlGate.tryEnter (gate : NvmlGate) : Except NvmlRunError NvmlGate :=
  if gate.busy then .error .busy else .ok { busy := true }

-- Drop for Permit.
def NvmlGate.dropPermit (_gate : NvmlGate) : NvmlGate := { busy := false }

inductive Operation
  | read
  | apply
  | release
  deriving DecidableEq, Repr

/-- Where the permit is: with the caller, in a closure the pool has not started, in the worker that
executes the closure, or among the locals of a worker that returns or unwinds. -/
inductive Phase
  | entered
  | queued
  | running
  | leaving (failed : Bool)
  | returned (failed : Bool)
  deriving DecidableEq, Repr

def Phase.holdsPermit : Phase → Bool
  | .entered | .queued | .running | .leaving _ => true
  | .returned _ => false

inductive Waiter
  | waiting
  | answered (result : Except NvmlRunError PUnit)
  | dropped

structure Call where
  operation : Operation
  phase : Phase
  waiter : Waiter

inductive WorkerStep
  | spawn
  | start
  | finish (failed : Bool)
  | discard

-- A closure dropped before it starts never runs its operation.
def WorkerStep.next : WorkerStep → Phase → Option Phase
  | .spawn, .entered => some .queued
  | .start, .queued => some .running
  | .finish failed, .running => some (.leaving failed)
  | .discard, .entered | .discard, .queued => some (.leaving true)
  | _, _ => none

inductive WaiterStep
  | receive
  | timeout
  | cancel

def WaiterStep.next : WaiterStep → Call → Waiter
  | .receive, { phase := .returned failed, waiter := .waiting, .. } =>
    .answered (if failed then .error .workerFailed else .ok ⟨⟩)
  | .timeout, { waiter := .waiting, .. } => .answered (.error .timedOut)
  | .cancel, { waiter := .waiting, .. } => .dropped
  | _, call => call.waiter

/-- Calls are never removed, so a position names a call for the whole run. -/
structure GateState where
  gate : NvmlGate
  calls : List Call
  slots : Slots Nat

inductive GateAction
  | enter
  | worker (id : Nat) (step : WorkerStep)
  | dropPermit (id : Nat)
  | waiter (id : Nat) (step : WaiterStep)
  | dispatch (snap : SafetySnapshot)
  | join (slot : Slot)
  | abandon (slot : Slot)

namespace GateState

def initial : GateState where
  gate := .default
  calls := []
  slots := .empty

def enroll (s : GateState) (gate : NvmlGate) (operation : Operation) (phase : Phase) : GateState :=
  { s with
    gate := gate
    calls := s.calls ++ [{ operation := operation, phase := phase, waiter := .waiting }] }

def operationOf : BrakeIntent → Operation
  | .release => .release
  | .apply | .none => .apply

-- spawn_intent never awaits, so entering and spawning are one step of the supervisor.
def dispatch (s : GateState) (snap : SafetySnapshot) : GateState :=
  match s.gate.tryEnter with
  | .error _ => { s with slots := (spawnIntent snap none s.slots).2 }
  | .ok gate =>
    match spawnIntent snap (some s.calls.length) s.slots with
    | (.spawned, slots) => { s.enroll gate (operationOf snap.intent) .queued with slots := slots }
    | (_, slots) => { s with slots := slots }

def setPhase (s : GateState) (id : Nat) (call : Call) (phase : Phase) : GateState :=
  { s with calls := s.calls.set id { call with phase := phase } }

/-- An action that is not enabled changes nothing, so every list of actions is a run. -/
def act (s : GateState) : GateAction → GateState
  | .enter =>
    match s.gate.tryEnter with
    | .error _ => s
    | .ok gate => s.enroll gate .read .entered
  | .worker id step =>
    match s.calls[id]? with
    | none => s
    | some call =>
      match step.next call.phase with
      | none => s
      | some phase => s.setPhase id call phase
  | .dropPermit id =>
    match s.calls[id]? with
    | some { operation, phase := .leaving failed, waiter } =>
      { s.setPhase id { operation, phase := .leaving failed, waiter } (.returned failed) with
        gate := s.gate.dropPermit }
    | _ => s
  | .waiter id step =>
    match s.calls[id]? with
    | none => s
    | some call => { s with calls := s.calls.set id { call with waiter := step.next call } }
  | .dispatch snap => s.dispatch snap
  | .join slot =>
    match (s.slots.get slot).bind (s.calls[·]?) with
    | some { phase := .returned _, .. } => { s with slots := s.slots.take slot }
    | _ => s
  | .abandon slot => { s with slots := s.slots.take slot }

def system : Transition.System GateState GateAction :=
  .ofFunction (fun s => s = initial) act

def run (actions : List GateAction) : GateState :=
  actions.foldl act initial

def permits (s : GateState) : Nat :=
  s.calls.countP (·.phase.holdsPermit)

def executing (s : GateState) : Nat :=
  s.calls.countP (·.phase = .running)

end GateState

end ThalamicRelay
