import ThalamicRelay.Publish.Publisher

set_option autoImplicit false

namespace ThalamicRelay

open Saturating Transition

structure SharedQueue.BelowMax {T : Type} (queue : SharedQueue T) : Prop where
  enqueued : queue.inner.enqueuedTotal < u64Max
  dropped : ∀ reason, queue.inner.droppedByReason reason < u64Max
  lockFree : ∀ reason, queue.droppedLockFree reason < u64Max

instance {T : Type} (queue : SharedQueue T) : Decidable queue.BelowMax :=
  decidable_of_iff
    (queue.inner.enqueuedTotal < u64Max ∧ ∀ reason ∈ DropReason.all,
      queue.inner.droppedByReason reason < u64Max ∧ queue.droppedLockFree reason < u64Max) (by
    have member (reason : DropReason) : reason ∈ DropReason.all := by cases reason <;> decide
    constructor
    · rintro ⟨enqueued, each⟩
      exact ⟨enqueued, fun reason => (each reason (member reason)).1,
        fun reason => (each reason (member reason)).2⟩
    · rintro ⟨enqueued, dropped, lockFree⟩
      exact ⟨enqueued, fun reason _ => ⟨dropped reason, lockFree reason⟩⟩)

namespace SharedQueue

variable {T : Type} {queue : SharedQueue T}

def losses (queue : SharedQueue T) : Nat :=
  queue.inner.droppedByReason.total + queue.droppedLockFree.total

theorem snapshot_droppedTotal (queue : SharedQueue T) :
    queue.snapshot.droppedTotal = queue.losses := by
  simp only [snapshot, QueueSnapshot.droppedTotal, QueueInner.snapshot, losses, DropCounts.total]
  omega

theorem recordDrop_total (inner : QueueInner T) {reason : DropReason}
    (below : inner.droppedByReason reason < u64Max) :
    (inner.recordDrop reason).droppedByReason.total = inner.droppedByReason.total + 1 := by
  have set := DropCounts.set_total inner.droppedByReason reason
    (increment u64Max (inner.droppedByReason reason))
  have counted : increment u64Max (inner.droppedByReason reason) =
      inner.droppedByReason reason + 1 := by
    simp only [increment]
    omega
  simp only [QueueInner.recordDrop]
  omega

theorem recordLockFreeDrop_total {reason : DropReason}
    (below : queue.droppedLockFree reason < u64Max) :
    (queue.recordLockFreeDrop reason).droppedLockFree.total = queue.droppedLockFree.total + 1 := by
  have set := DropCounts.set_total queue.droppedLockFree reason
    ((queue.droppedLockFree reason + 1) % 0x10000000000000000)
  have counted : (queue.droppedLockFree reason + 1) % 0x10000000000000000 =
      queue.droppedLockFree reason + 1 := by
    simp only [u64Max] at below
    omega
  simp only [recordLockFreeDrop]
  omega

theorem recordDrop_dropOldest (inner : QueueInner T) {reason : DropReason}
    (below : inner.droppedByReason reason < u64Max) :
    (inner.recordDrop reason).droppedByReason .dropOldest =
      inner.droppedByReason .dropOldest + if reason = .dropOldest then 1 else 0 := by
  by_cases same : reason = .dropOldest
  · subst same
    simp only [QueueInner.recordDrop, DropCounts.set_same, increment, if_true]
    omega
  · rw [if_neg same]
    exact DropCounts.set_other _ _ (Ne.symm same)

theorem recordEnqueue_total (inner : QueueInner T) (below : inner.enqueuedTotal < u64Max) :
    inner.recordEnqueue.enqueuedTotal = inner.enqueuedTotal + 1 := by
  simp only [QueueInner.recordEnqueue, increment]
  omega

theorem enqueueLocked_counts {inner : QueueInner T} (enqueued : inner.enqueuedTotal < u64Max)
    (dropped : ∀ reason, inner.droppedByReason reason < u64Max) (positive : 0 < inner.capacity)
    (item : T) :
    let after := (enqueueLocked inner item).2
    after.buf.length + after.droppedByReason.total =
      inner.buf.length + inner.droppedByReason.total + 1 ∧
    after.enqueuedTotal + inner.buf.length + inner.droppedByReason .dropOldest =
      inner.enqueuedTotal + after.buf.length + after.droppedByReason .dropOldest := by
  have total (reason : DropReason) := recordDrop_total inner (dropped reason)
  have oldest (reason : DropReason) := recordDrop_dropOldest inner (dropped reason)
  have enqueue := recordEnqueue_total (inner.pushBack item) enqueued
  rcases enqueueLocked_cases inner item with
    ⟨_, same⟩ | ⟨_, _, same⟩ | ⟨_, _, _, same⟩ | ⟨_, full, _, same⟩
  · simp [same, total, oldest]
    omega
  · simp [same, enqueue]
    omega
  · simp [same, total, oldest]
    omega
  · have evicted := recordDrop_total inner.popFront (dropped .dropOldest)
    have counted := recordDrop_dropOldest inner.popFront (dropped .dropOldest)
    have accepted := recordEnqueue_total
      ((inner.popFront.recordDrop .dropOldest).pushBack item) enqueued
    simp [same, evicted, counted, accepted]
    omega

theorem recordLockFreeDrop_dropOldest {reason : DropReason} (distinct : reason ≠ .dropOldest) :
    (queue.recordLockFreeDrop reason).droppedLockFree .dropOldest =
      queue.droppedLockFree .dropOldest :=
  DropCounts.set_other _ _ distinct.symm

structure Accounts (before after : SharedQueue T) (frames : Nat) : Prop where
  frames : after.inner.buf.length + after.losses = before.inner.buf.length + before.losses + frames
  entries : after.inner.enqueuedTotal + before.inner.buf.length +
      before.inner.droppedByReason .dropOldest =
    before.inner.enqueuedTotal + after.inner.buf.length + after.inner.droppedByReason .dropOldest
  lockFree : after.droppedLockFree .dropOldest = before.droppedLockFree .dropOldest

theorem recordLockFreeDrop_accounts (below : queue.BelowMax) {reason : DropReason}
    (distinct : reason ≠ .dropOldest) : Accounts queue (queue.recordLockFreeDrop reason) 1 where
  frames := by
    have total := recordLockFreeDrop_total (below.lockFree reason)
    simp only [losses, total]
    simp only [recordLockFreeDrop]
    omega
  entries := rfl
  lockFree := recordLockFreeDrop_dropOldest distinct

theorem recordLoss_accounts (below : queue.BelowMax) {reason : DropReason}
    (distinct : reason ≠ .dropOldest) : Accounts queue (queue.recordLoss reason) 1 where
  frames := by
    have total := recordDrop_total queue.inner (below.dropped reason)
    simp only [losses, recordLoss, total, QueueInner.recordDrop_buf]
    omega
  entries := by
    have oldest := recordDrop_dropOldest queue.inner (below.dropped reason)
    rw [if_neg distinct] at oldest
    simp only [recordLoss, oldest, QueueInner.recordDrop_buf, QueueInner.recordDrop_enqueuedTotal]
    omega
  lockFree := rfl

theorem recordPublishLoss_accounts (below : queue.BelowMax) (contended : Bool)
    {reason : DropReason} (distinct : reason ≠ .dropOldest) :
    Accounts queue (queue.recordPublishLoss (.unpoisoned contended) reason) 1 := by
  cases contended with
  | true => exact recordLockFreeDrop_accounts below distinct
  | false => exact recordLoss_accounts below distinct

theorem tryEnqueue_accounts (below : queue.BelowMax) (positive : 0 < queue.inner.capacity)
    (contended : Bool) (item : T) :
    Accounts queue (queue.tryEnqueue (.unpoisoned contended) item).2 1 := by
  cases contended with
  | true => exact recordLockFreeDrop_accounts below (by decide)
  | false =>
    obtain ⟨frames, entries⟩ := enqueueLocked_counts below.enqueued below.dropped positive item
    refine ⟨?_, entries, rfl⟩
    simp only [TryLock.unpoisoned, tryEnqueue, losses, Bool.false_eq_true, if_false]
    omega

theorem dropConsumer_losses (below : queue.dropConsumer.BelowMax) :
    queue.dropConsumer.losses = queue.losses + queue.inner.buf.length := by
  have counted := below.dropped .disconnected
  simp only [losses, dropConsumer] at counted ⊢
  split_ifs at counted ⊢ with leftover
  · have set := DropCounts.set_total queue.inner.droppedByReason .disconnected
      (min (queue.inner.droppedByReason .disconnected + queue.inner.buf.length) u64Max)
    rw [DropCounts.set_same] at counted
    omega
  · omega

theorem dropConsumer_dropOldest (queue : SharedQueue T) :
    queue.dropConsumer.inner.droppedByReason .dropOldest =
      queue.inner.droppedByReason .dropOldest := by
  simp only [dropConsumer]
  split_ifs
  · exact DropCounts.set_other _ _ (by decide)
  · rfl

theorem pollWorker_cases (queue : SharedQueue T) :
    (∃ item rest, queue.inner.buf = item :: rest ∧ queue.pollWorker.1 = .message item) ∨
      (queue.inner.buf = [] ∧
        (queue.pollWorker.1 = .idle ∨ queue.pollWorker.1 = .finished)) := by
  simp only [pollWorker, tryRecv]
  cases queue.inner.buf with
  | nil => by_cases producers : queue.inner.popFront.producers = 0 <;> simp [producers]
  | cons item rest => exact .inl ⟨item, rest, rfl, rfl⟩

end SharedQueue

namespace Publication

structure Conserved (p : Publication) : Prop where
  frames : p.offered = p.sent + p.holding.isSome.toNat +
    p.history.queue.inner.buf.length + p.history.queue.losses
  entries : p.history.queue.inner.enqueuedTotal = p.history.received.length +
    p.history.queue.inner.buf.length + p.history.queue.inner.droppedByReason .dropOldest +
      p.discarded
  lockFree : p.history.queue.droppedLockFree .dropOldest = 0

variable {validate : StimulusBatch → Option String} {config : QueueConfig} {p : Publication}

theorem conserved_new (sessionId : Option String) : (new config sessionId).Conserved :=
  ⟨rfl, rfl, rfl⟩

theorem conserved_tryPublish (conserved : p.Conserved) (inv : QueueHistory.Inv config p.history)
    (below : p.history.queue.BelowMax) (contended : Bool) (mapping : SensoryMapping) :
    (p.tryPublish validate (.unpoisoned contended) mapping).Conserved := by
  have positive : 0 < p.history.queue.inner.capacity := by
    rw [inv.capacity]
    exact config.positive
  have accounts : SharedQueue.Accounts p.history.queue
      (p.tryPublish validate (.unpoisoned contended) mapping).history.queue 1 ∧
      (p.tryPublish validate (.unpoisoned contended) mapping).history.received =
        p.history.received := by
    simp only [tryPublish, publishOp]
    cases validate (p.publisher.nextBatch mapping).1 with
    | some message =>
      exact ⟨SharedQueue.recordPublishLoss_accounts below contended (by decide), rfl⟩
    | none => exact ⟨SharedQueue.tryEnqueue_accounts below positive contended _, rfl⟩
  obtain ⟨⟨frames, entries, lockFree⟩, received⟩ := accounts
  have offered := conserved.frames
  have enqueued := conserved.entries
  refine ⟨?_, ?_, ?_⟩
  · simp only [tryPublish] at frames ⊢
    omega
  · rw [received]
    simp only [tryPublish] at entries ⊢
    omega
  · rw [lockFree, conserved.lockFree]

theorem conserved_dropConsumer (conserved : p.Conserved) (live : p.history.live = true)
    (after : p.history.queue.dropConsumer.BelowMax) : p.dropConsumer.Conserved := by
  have losses := SharedQueue.dropConsumer_losses after
  have oldest := p.history.queue.dropConsumer_dropOldest
  have frames := conserved.frames
  have entries := conserved.entries
  have dropped : p.dropConsumer.history.queue = p.history.queue.dropConsumer := by
    simp [dropConsumer, QueueHistory.step, live]
  have received : p.dropConsumer.history.received = p.history.received := by
    simp [dropConsumer, QueueHistory.step, live]
  refine ⟨?_, ?_, ?_⟩
  · rw [dropped, losses]
    simp only [dropConsumer, SharedQueue.dropConsumer, List.length_nil]
    omega
  · rw [dropped, oldest, received]
    simp only [dropConsumer, SharedQueue.dropConsumer, List.length_nil]
    omega
  · rw [dropped]
    exact conserved.lockFree

theorem conserved_sendFailed (conserved : p.Conserved) (below : p.history.queue.BelowMax)
    (live : p.history.live = true) (held : p.holding.isSome = true) : p.sendFailed.Conserved := by
  have lost : p.sendFailed.history.queue = p.history.queue.recordLoss .sendFailed ∧
      p.sendFailed.history.received = p.history.received := by
    simp [sendFailed, QueueHistory.step, live]
  have accounts : SharedQueue.Accounts p.history.queue
      (p.history.queue.recordLoss .sendFailed) 1 :=
    SharedQueue.recordLoss_accounts below (by decide)
  obtain ⟨counted, entered, lockFree⟩ := accounts
  have frames := conserved.frames
  have entries := conserved.entries
  rw [held] at frames
  refine ⟨?_, ?_, ?_⟩
  · rw [lost.1]
    simp only [sendFailed, Option.isSome_none, Bool.toNat_false]
    simp only [Bool.toNat_true] at frames
    omega
  · rw [lost.1, lost.2]
    simp only [sendFailed]
    omega
  · rw [lost.1, lockFree, conserved.lockFree]

theorem conserved_poll (conserved : p.Conserved) (live : p.history.live = true)
    (idle : p.holding = none) (after : p.poll.history.queue.BelowMax) : p.poll.Conserved := by
  have frames := conserved.frames
  have entries := conserved.entries
  have polled : p.history.step .pollWorker = p.history.tryRecv := by
    simp [QueueHistory.step, live, QueueHistory.pollWorker_eq]
  rcases p.history.queue.pollWorker_cases with
    ⟨item, rest, oldest, message⟩ | ⟨empty, waiting | finished⟩
  · have same : p.poll = { p with history := p.history.tryRecv, holding := some item } := by
      simp [poll, message, polled]
    have received : p.history.tryRecv.received = p.history.received ++ [item] :=
      congrArg OrderedChannel.Channel.received (QueueHistory.tryRecv_cons oldest)
    have queue := p.history.tryRecv_queue
    rw [same]
    refine ⟨?_, ?_, ?_⟩
    · simp only [queue, SharedQueue.losses, QueueInner.popFront_buf, QueueInner.popFront_dropped]
      simp only [oldest, idle, SharedQueue.losses, List.length_cons, List.tail_cons,
        Option.isSome_none, Option.isSome_some, Bool.toNat_true, Bool.toNat_false] at frames ⊢
      omega
    · simp only [queue, received, QueueInner.popFront_buf, QueueInner.popFront_dropped,
        QueueInner.popFront_enqueuedTotal, List.length_append, List.length_singleton]
      simp only [oldest, List.length_cons, List.tail_cons] at entries ⊢
      omega
    · rw [queue]
      exact conserved.lockFree
  · have same : p.poll = p := by
      simp [poll, waiting, polled, QueueHistory.tryRecv_nil empty]
    rw [same]
    exact conserved
  · have same : p.poll = p.dropConsumer := by
      simp [poll, finished, polled, QueueHistory.tryRecv_nil empty, dropConsumer, empty]
    have dropped : p.dropConsumer.history.queue = p.history.queue.dropConsumer := by
      simp [dropConsumer, QueueHistory.step, live]
    rw [same, dropped] at after
    rw [same]
    exact conserved_dropConsumer conserved live after

theorem conserved_step (conserved : p.Conserved) (inv : QueueHistory.Inv config p.history)
    (below : p.history.queue.BelowMax) (label : PublicationStep)
    (after : (p.step validate label).history.queue.BelowMax) :
    (p.step validate label).Conserved := by
  cases label with
  | tryPublish contended mapping => exact conserved_tryPublish conserved inv below contended mapping
  | poll =>
    simp only [step] at after ⊢
    split_ifs at after ⊢ with ready
    · exact conserved_poll conserved ready.1 ready.2 after
    · exact conserved
  | sendSucceeded =>
    simp only [step]
    split_ifs with ready
    · have frames := conserved.frames
      rw [ready.2] at frames
      refine ⟨?_, conserved.entries, conserved.lockFree⟩
      simp only [Option.isSome_none, Bool.toNat_false, Bool.toNat_true] at frames ⊢
      omega
    · exact conserved
  | sendFailed =>
    simp only [step]
    split_ifs with ready
    · exact conserved_sendFailed conserved below ready.1 ready.2
    · exact conserved
  | dropConsumer =>
    simp only [step] at after ⊢
    split_ifs at after ⊢ with live
    · have dropped : p.dropConsumer.history.queue = p.history.queue.dropConsumer := by
        simp [dropConsumer, QueueHistory.step, live]
      rw [dropped] at after
      exact conserved_dropConsumer conserved live after
    · exact conserved
  | clonePublisher | dropPublisher =>
    exact ⟨conserved.frames, conserved.entries, conserved.lockFree⟩

def countedSystem (validate : StimulusBatch → Option String) (config : QueueConfig)
    (sessionId : Option String) : System Publication PublicationStep :=
  (system validate config sessionId).restrict fun p label =>
    (p.step validate label).history.queue.BelowMax

theorem conserved_reachable {sessionId : Option String}
    (reachable : (countedSystem validate config sessionId).Reachable p) : p.Conserved := by
  have kept : p.history.queue.BelowMax ∧ p.Conserved := by
    refine reachable.invariant (fun p => p.history.queue.BelowMax ∧ p.Conserved) ?_ ?_
    · rintro p rfl
      have zero : 0 < u64Max := by decide
      exact ⟨⟨zero, fun _ => zero, fun _ => zero⟩, conserved_new sessionId⟩
    · rintro p label after reached ⟨below, conserved⟩ ⟨allowed, rfl⟩
      have inv := QueueHistory.inv_reachable (history_reachable reached.unrestricted)
      exact ⟨allowed, conserved_step conserved inv below label allowed⟩
  exact kept.2

theorem frames_conserved {sessionId : Option String}
    (reachable : (countedSystem validate config sessionId).Reachable p) :
    let snap := p.history.queue.snapshot
    p.offered = p.sent + p.holding.isSome.toNat + snap.depth + snap.droppedTotal ∧
    snap.enqueuedTotal = p.history.received.length + snap.depth +
      snap.droppedByReason .dropOldest + p.discarded := by
  obtain ⟨frames, entries, lockFree⟩ := conserved_reachable reachable
  intro snap
  refine ⟨?_, ?_⟩
  · rw [SharedQueue.snapshot_droppedTotal]
    exact frames
  · simp only [snap, SharedQueue.snapshot, QueueInner.snapshot, lockFree]
    omega

theorem counted_step {sessionId : Option String}
    (reachable : (countedSystem validate config sessionId).Reachable p) (label : PublicationStep)
    (below : (p.step validate label).history.queue.BelowMax) :
    (countedSystem validate config sessionId).Reachable (p.step validate label) :=
  reachable.step ⟨below, rfl⟩

def maskedValidate (batch : StimulusBatch) : Option String :=
  if batch.validMask.all (fun mask => mask.length = batch.values.length) then none
  else some "valid_mask length"

def singleConfig : QueueConfig where
  capacity := 1
  policy := .dropOldest
  validated := rfl

def coolMapping : SensoryMapping :=
  (assessWithClock (.nvmlTempPower 1700000000000 (.finite 65) (.finite 200)) 1700000000000 100
    (.withSessionId "test")).1.toSensoryMappingAt .finite 1700000000000

-- Contended, accepted, taken, then two more offers, a failed send and the consumer gone.
theorem frames_conserved_overflow :
    let p := [.tryPublish true coolMapping, .tryPublish false coolMapping, .poll,
      .tryPublish false coolMapping, .tryPublish false coolMapping, .sendFailed,
      .dropConsumer].foldl (step maskedValidate) (new singleConfig none)
    let snap := p.history.queue.snapshot
    p.offered = p.sent + p.holding.isSome.toNat + snap.depth + snap.droppedTotal ∧
    snap.enqueuedTotal = p.history.received.length + snap.depth +
      snap.droppedByReason .dropOldest + p.discarded := by
  have start : (countedSystem maskedValidate singleConfig none).Reachable
      (new singleConfig none) := .start rfl
  have contended := counted_step start (.tryPublish true coolMapping) (by decide +kernel)
  have accepted := counted_step contended (.tryPublish false coolMapping) (by decide +kernel)
  have taken := counted_step accepted .poll (by decide +kernel)
  have second := counted_step taken (.tryPublish false coolMapping) (by decide +kernel)
  have third := counted_step second (.tryPublish false coolMapping) (by decide +kernel)
  have failed := counted_step third .sendFailed (by decide +kernel)
  exact frames_conserved (counted_step failed .dropConsumer (by decide +kernel))

end Publication

end ThalamicRelay
