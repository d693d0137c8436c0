import Mathlib.Logic.Function.Basic
import ThalamicRelay.Shared.Saturating

set_option autoImplicit false

namespace ThalamicRelay

open Saturating

inductive PublishError
  | absent
  | disconnected
  | slowConsumer
  | sendFailed (message : String)
  deriving DecidableEq, Repr

abbrev PublishResult := Except PublishError PUnit.{1}

inductive QueueFullPolicy
  | dropOldest
  | rejectNewest
  deriving DecidableEq, Repr

inductive DropReason
  | rejectNewest
  | dropOldest
  | absent
  | disconnected
  | sendFailed
  | mutexContended
  deriving DecidableEq, Repr

def DropReason.all : List DropReason :=
  [.rejectNewest, .dropOldest, .absent, .disconnected, .sendFailed, .mutexContended]

inductive QueueConfigError
  | capacityTooSmall (capacity min : Nat)
  | capacityTooLarge (capacity max : Nat)
  deriving DecidableEq, Repr

namespace QueueConfig

def minCapacity : Nat := 1

def maxCapacity : Nat := 4096

def validateCapacity (capacity : Nat) : Except QueueConfigError Nat :=
  if capacity < minCapacity then .error (.capacityTooSmall capacity minCapacity)
  else if maxCapacity < capacity then .error (.capacityTooLarge capacity maxCapacity)
  else .ok capacity

end QueueConfig

structure QueueConfig where
  capacity : Nat
  policy : QueueFullPolicy
  validated : QueueConfig.validateCapacity capacity = .ok capacity

theorem QueueConfig.positive (config : QueueConfig) : 0 < config.capacity := by
  have validated := config.validated
  simp only [validateCapacity] at validated
  split_ifs at validated with small
  simp only [minCapacity] at small
  omega

/-- One count for each reason; as_id only fixes where the array keeps it. -/
abbrev DropCounts := DropReason → Nat

namespace DropCounts

def zero : DropCounts := fun _ => 0

def set (counts : DropCounts) (reason : DropReason) (count : Nat) : DropCounts :=
  Function.update counts reason count

def total (counts : DropCounts) : Nat :=
  counts .rejectNewest + counts .dropOldest + counts .absent + counts .disconnected +
    counts .sendFailed + counts .mutexContended

end DropCounts

structure QueueSnapshot where
  capacity : Nat
  policy : QueueFullPolicy
  depth : Nat
  enqueuedTotal : Nat
  droppedByReason : DropCounts

def QueueSnapshot.droppedTotal (snap : QueueSnapshot) : Nat :=
  snap.droppedByReason.total

structure QueueInner (T : Type) where
  buf : List T
  capacity : Nat
  policy : QueueFullPolicy
  connected : Bool
  producers : Nat
  enqueuedTotal : Nat
  droppedByReason : DropCounts

structure SharedQueue (T : Type) where
  inner : QueueInner T
  droppedLockFree : DropCounts

/-- What the spinning try_lock ends with. -/
inductive TryLock
  | acquired
  | contended
  | poisoned
  deriving DecidableEq, Repr

inductive WorkerPoll (T : Type)
  | message (item : T)
  | idle
  | finished

namespace QueueInner

variable {T : Type}

def snapshot (inner : QueueInner T) : QueueSnapshot where
  capacity := inner.capacity
  policy := inner.policy
  depth := inner.buf.length
  enqueuedTotal := inner.enqueuedTotal
  droppedByReason := inner.droppedByReason

def recordDrop (inner : QueueInner T) (reason : DropReason) : QueueInner T :=
  { inner with
    droppedByReason := inner.droppedByReason.set reason
      (increment u64Max (inner.droppedByReason reason)) }

def recordEnqueue (inner : QueueInner T) : QueueInner T :=
  { inner with enqueuedTotal := increment u64Max inner.enqueuedTotal }

def pushBack (inner : QueueInner T) (item : T) : QueueInner T :=
  { inner with buf := inner.buf ++ [item] }

def popFront (inner : QueueInner T) : QueueInner T :=
  { inner with buf := inner.buf.tail }

@[simp] theorem recordDrop_buf (inner : QueueInner T) (reason : DropReason) :
    (inner.recordDrop reason).buf = inner.buf := rfl

@[simp] theorem recordDrop_enqueuedTotal (inner : QueueInner T) (reason : DropReason) :
    (inner.recordDrop reason).enqueuedTotal = inner.enqueuedTotal := rfl

@[simp] theorem recordEnqueue_buf (inner : QueueInner T) : inner.recordEnqueue.buf = inner.buf :=
  rfl

@[simp] theorem recordEnqueue_dropped (inner : QueueInner T) :
    inner.recordEnqueue.droppedByReason = inner.droppedByReason := rfl

@[simp] theorem pushBack_buf (inner : QueueInner T) (item : T) :
    (inner.pushBack item).buf = inner.buf ++ [item] := rfl

@[simp] theorem pushBack_dropped (inner : QueueInner T) (item : T) :
    (inner.pushBack item).droppedByReason = inner.droppedByReason := rfl

@[simp] theorem pushBack_enqueuedTotal (inner : QueueInner T) (item : T) :
    (inner.pushBack item).enqueuedTotal = inner.enqueuedTotal := rfl

@[simp] theorem popFront_buf (inner : QueueInner T) : inner.popFront.buf = inner.buf.tail := rfl

@[simp] theorem popFront_dropped (inner : QueueInner T) :
    inner.popFront.droppedByReason = inner.droppedByReason := rfl

@[simp] theorem popFront_enqueuedTotal (inner : QueueInner T) :
    inner.popFront.enqueuedTotal = inner.enqueuedTotal := rfl

end QueueInner

namespace SharedQueue

variable {T : Type}

def new (config : QueueConfig) : SharedQueue T where
  inner :=
    { buf := []
      capacity := config.capacity
      policy := config.policy
      connected := true
      producers := 1
      enqueuedTotal := 0
      droppedByReason := .zero }
  droppedLockFree := .zero

-- The slots are atomics, whose additions wrap.
def recordLockFreeDrop (queue : SharedQueue T) (reason : DropReason) : SharedQueue T :=
  { queue with
    droppedLockFree := queue.droppedLockFree.set reason
      ((queue.droppedLockFree reason + 1) % 0x10000000000000000) }

def enqueueLocked (inner : QueueInner T) (item : T) : PublishResult × QueueInner T :=
  if inner.connected = false then (.error .disconnected, inner.recordDrop .disconnected)
  else if inner.buf.length < inner.capacity then (.ok ⟨⟩, (inner.pushBack item).recordEnqueue)
  else match inner.policy with
  | .rejectNewest => (.error .slowConsumer, inner.recordDrop .rejectNewest)
  | .dropOldest =>
    (.ok ⟨⟩, ((inner.popFront.recordDrop .dropOldest).pushBack item).recordEnqueue)

def tryEnqueue (queue : SharedQueue T) (lock : TryLock) (item : T) :
    PublishResult × SharedQueue T :=
  match lock with
  | .poisoned => (.error .disconnected, queue)
  | .contended => (.error .slowConsumer, queue.recordLockFreeDrop .mutexContended)
  | .acquired =>
    let (result, inner) := enqueueLocked queue.inner item
    (result, { queue with inner := inner })

def recordPublishLoss (queue : SharedQueue T) (lock : TryLock) (reason : DropReason) :
    SharedQueue T :=
  match lock with
  | .acquired => { queue with inner := queue.inner.recordDrop reason }
  | .poisoned | .contended => queue.recordLockFreeDrop reason

-- Losses are merged in at the snapshot. The source's sums saturate at u64::MAX and these do not, so
-- a merged count and dropped_total are its own while they stay below.
def snapshot (queue : SharedQueue T) : QueueSnapshot :=
  let snap := queue.inner.snapshot
  { snap with
    droppedByReason := fun reason => snap.droppedByReason reason + queue.droppedLockFree reason }

def tryRecv (queue : SharedQueue T) : Option T × SharedQueue T :=
  (queue.inner.buf.head?, { queue with inner := queue.inner.popFront })

def pollWorker (queue : SharedQueue T) : WorkerPoll T × SharedQueue T :=
  match queue.tryRecv with
  | (some message, queue) => (.message message, queue)
  | (none, queue) => (if queue.inner.producers = 0 then .finished else .idle, queue)

def recordLoss (queue : SharedQueue T) (reason : DropReason) : SharedQueue T :=
  { queue with inner := queue.inner.recordDrop reason }

def dropConsumer (queue : SharedQueue T) : SharedQueue T :=
  let leftover := queue.inner.buf.length
  { queue with
    inner :=
      { queue.inner with
        connected := false
        buf := []
        droppedByReason :=
          if 0 < leftover then
            queue.inner.droppedByReason.set .disconnected
              (min (queue.inner.droppedByReason .disconnected + leftover) u64Max)
          else queue.inner.droppedByReason } }

def cloneProducer (queue : SharedQueue T) : SharedQueue T :=
  { queue with
    inner := { queue.inner with producers := increment u64Max queue.inner.producers } }

def dropProducer (queue : SharedQueue T) : SharedQueue T :=
  { queue with inner := { queue.inner with producers := queue.inner.producers - 1 } }

end SharedQueue

namespace DropCounts

@[simp] theorem set_same (counts : DropCounts) (reason : DropReason) (count : Nat) :
    counts.set reason count reason = count := by
  simp [set]

theorem set_other (counts : DropCounts) {reason other : DropReason} (count : Nat)
    (distinct : other ≠ reason) : counts.set reason count other = counts other := by
  simp [set, distinct]

theorem set_total (counts : DropCounts) (reason : DropReason) (count : Nat) :
    (counts.set reason count).total + counts reason = counts.total + count := by
  cases reason <;> simp [total, set] <;> omega

end DropCounts

section Enqueue

variable {T : Type} (inner : QueueInner T) (item : T)

theorem enqueueLocked_cases :
    (inner.connected = false ∧
      SharedQueue.enqueueLocked inner item =
        (.error .disconnected, inner.recordDrop .disconnected)) ∨
    (inner.connected = true ∧ inner.buf.length < inner.capacity ∧
      SharedQueue.enqueueLocked inner item = (.ok ⟨⟩, (inner.pushBack item).recordEnqueue)) ∨
    (inner.connected = true ∧ inner.capacity ≤ inner.buf.length ∧ inner.policy = .rejectNewest ∧
      SharedQueue.enqueueLocked inner item =
        (.error .slowConsumer, inner.recordDrop .rejectNewest)) ∨
    (inner.connected = true ∧ inner.capacity ≤ inner.buf.length ∧ inner.policy = .dropOldest ∧
      SharedQueue.enqueueLocked inner item =
        (.ok ⟨⟩, ((inner.popFront.recordDrop .dropOldest).pushBack item).recordEnqueue)) := by
  simp only [SharedQueue.enqueueLocked]
  cases connected : inner.connected with
  | false => simp
  | true =>
    by_cases room : inner.buf.length < inner.capacity
    · simp [room]
    · have full : inner.capacity ≤ inner.buf.length := by omega
      cases policy : inner.policy <;> simp [room, full]

end Enqueue

end ThalamicRelay
