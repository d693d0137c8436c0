import ThalamicRelay.Publish.Exposition
import ThalamicRelay.Publish.QueueRuns
import ThalamicRelay.Shared.Registers

set_option autoImplicit false

namespace ThalamicRelay

open Exposition Registers Saturating Transition

def exportQueueGauges (depth capacity : Nat) (policy : QueueFullPolicy) :
    List (QueueGauge × Nat) :=
  [(.depth, depth), (.capacity, capacity)] ++
    QueueFullPolicy.all.map fun p => (.fullPolicy p, if p = policy then 1 else 0)

namespace QueueInner

variable {T : Type}

def emitGauges (inner : QueueInner T) : List (QueueGauge × Nat) :=
  exportQueueGauges inner.buf.length inner.capacity inner.policy

-- What record_drop and record_enqueue count on the branch an enqueue takes.
def enqueueCounts (inner : QueueInner T) : List QueueCounter :=
  if inner.connected = false then [.dropped .disconnected]
  else if inner.buf.length < inner.capacity then [.enqueuedTotal]
  else match inner.policy with
  | .rejectNewest => [.dropped .rejectNewest]
  | .dropOldest => [.dropped .dropOldest, .enqueuedTotal]

end QueueInner

def SharedQueue.Counted {T : Type} (queue : SharedQueue T) : Prop :=
  ∀ counter, queue.snapshot.counter counter < u64Max

instance {T : Type} (queue : SharedQueue T) : Decidable queue.Counted :=
  decidable_of_iff (∀ counter ∈ QueueCounter.all, queue.snapshot.counter counter < u64Max)
    ⟨fun each counter => each counter counter.mem_all, fun counted counter _ => counted counter⟩

namespace SharedQueue.Counted

variable {T : Type} {queue : SharedQueue T}

theorem enqueued (counted : queue.Counted) : queue.inner.enqueuedTotal < u64Max :=
  counted .enqueuedTotal

theorem dropped (counted : queue.Counted) (reason : DropReason) :
    queue.inner.droppedByReason reason < u64Max := by
  have total := counted (.dropped reason)
  simp only [QueueSnapshot.counter, QueueSnapshot.dropped, snapshot, QueueInner.snapshot] at total
  omega

theorem lockFree (counted : queue.Counted) (reason : DropReason) :
    queue.droppedLockFree reason < u64Max := by
  have total := counted (.dropped reason)
  simp only [QueueSnapshot.counter, QueueSnapshot.dropped, snapshot, QueueInner.snapshot] at total
  omega

end SharedQueue.Counted

/-- What a thread has still to tell the recorder: counts and gauges before it unlocks the mutex,
and the counts that follow. -/
structure Reporting where
  counts : List QueueCounter
  gauges : List (QueueGauge × Nat)
  after : List QueueCounter

namespace Reporting

def nothing : Reporting where
  counts := []
  gauges := []
  after := []

def locked {T : Type} (before after : QueueInner T) : QueueOp T → Reporting
  | .tryEnqueue _ _ =>
    { counts := before.enqueueCounts, gauges := after.emitGauges, after := [] }
  | .recordPublishLoss _ reason | .recordLoss reason =>
    { counts := [.dropped reason], gauges := after.emitGauges, after := [] }
  | .tryRecv | .pollWorker =>
    if before.buf = [] then nothing
    else { counts := [], gauges := after.emitGauges, after := [] }
  | .dropConsumer =>
    { counts := []
      gauges := after.emitGauges
      after := List.replicate before.buf.length (.dropped .disconnected) }
  | .cloneProducer | .dropProducer => nothing

def owed (reporting : Reporting) : List QueueCounter :=
  reporting.counts ++ reporting.after

end Reporting

def QueueOp.lockFreeCounts {T : Type} : QueueOp T → Option (List QueueCounter)
  | .tryEnqueue .contended _ => some [.dropped .mutexContended]
  | .tryEnqueue .poisoned _ => some []
  | .recordPublishLoss .contended reason | .recordPublishLoss .poisoned reason =>
    some [.dropped reason]
  | .tryEnqueue .acquired _ | .recordPublishLoss .acquired _ | .tryRecv | .pollWorker
  | .recordLoss _ | .dropConsumer | .cloneProducer | .dropProducer => none

def QueueOp.consumes {T : Type} : QueueOp T → Bool
  | .tryRecv | .pollWorker | .recordLoss _ | .dropConsumer => true
  | .tryEnqueue _ _ | .recordPublishLoss _ _ | .cloneProducer | .dropProducer => false

structure QueueRegistry where
  counters : QueueCounter → Nat
  gauges : QueueGauge → Option Nat

def QueueRegistry.value (registry : QueueRegistry) : QueueSeries → Nat
  | .gauge gauge => (registry.gauges gauge).getD 0
  | .counter counter => registry.counters counter

/-- A queue, the thread that holds its mutex, the counts of threads that do not, and what a scrape
of the recorder would show. -/
structure LiveQueue (T : Type) where
  history : QueueHistory T
  holder : Option Reporting
  outside : List QueueCounter
  registry : QueueRegistry

inductive LiveStep (T : Type)
  | enter (op : QueueOp T)
  | report
  | reportOutside (counter : QueueCounter)

namespace LiveQueue

variable {T : Type}

def new (config : QueueConfig) : LiveQueue T where
  history := .new config
  holder := none
  outside := []
  registry :=
    { counters := fun _ => 0
      gauges := (exportQueueGauges 0 config.capacity config.policy).foldl write fun _ => none }

def enter (q : LiveQueue T) (op : QueueOp T) : Option (LiveQueue T) :=
  match op.lockFreeCounts with
  | some counts => some { q with history := q.history.step op, outside := q.outside ++ counts }
  | none =>
    if q.holder.isNone ∧ (op.consumes = true → q.history.live = true) then
      let history := q.history.step op
      some
        { q with
          history := history
          holder := some (.locked q.history.queue.inner history.queue.inner op) }
    else none

-- The recorder's operations one by one, in the order of the source; then the mutex is unlocked.
def report (q : LiveQueue T) : Option (LiveQueue T) :=
  match q.holder with
  | none => none
  | some reporting =>
    match reporting.counts, reporting.gauges with
    | counter :: counts, _ =>
      some
        { q with
          holder := some { reporting with counts := counts }
          registry :=
            { q.registry with counters := bump 0x10000000000000000 q.registry.counters counter } }
    | [], entry :: gauges =>
      some
        { q with
          holder := some { reporting with gauges := gauges }
          registry := { q.registry with gauges := write q.registry.gauges entry } }
    | [], [] => some { q with holder := none, outside := q.outside ++ reporting.after }

def reportOutside (q : LiveQueue T) (counter : QueueCounter) : Option (LiveQueue T) :=
  if counter ∈ q.outside then
    some
      { q with
        outside := q.outside.erase counter
        registry :=
          { q.registry with counters := bump 0x10000000000000000 q.registry.counters counter } }
  else none

def step (q : LiveQueue T) : LiveStep T → Option (LiveQueue T)
  | .enter op => q.enter op
  | .report => q.report
  | .reportOutside counter => q.reportOutside counter

def countedStep (q : LiveQueue T) (label : LiveStep T) : Option (LiveQueue T) :=
  (q.step label).filter fun after => after.history.queue.Counted

def system (config : QueueConfig) : System (LiveQueue T) (LiveStep T) :=
  .ofPartial (fun q => q = new config) countedStep

def reporting (q : LiveQueue T) : Reporting :=
  q.holder.getD .nothing

def owed (q : LiveQueue T) : List QueueCounter :=
  q.reporting.owed ++ q.outside

def Shown (config : QueueConfig) : QueueGauge × Nat → Prop
  | (.depth, depth) => depth ≤ config.capacity
  | (.capacity, capacity) => capacity = config.capacity
  | (.fullPolicy policy, hot) => hot = if policy = config.policy then 1 else 0

structure Inv (config : QueueConfig) (q : LiveQueue T) : Prop where
  queue : QueueHistory.Inv config q.history
  counted : q.history.queue.Counted
  counters : Owing q.history.queue.snapshot.counter q.owed q.registry.counters
  gauges : Settling q.history.queue.inner.emitGauges q.reporting.gauges q.registry.gauges
  due : ∀ entry ∈ q.reporting.gauges, entry ∈ q.history.queue.inner.emitGauges
  shown : ∀ gauge, ∃ value, q.registry.gauges gauge = some value ∧ Shown config (gauge, value)

variable {config : QueueConfig} {h : QueueHistory T} {q : LiveQueue T}

theorem recordDrop_counter (inner : QueueInner T) {reason : DropReason}
    (below : inner.droppedByReason reason < u64Max) (counter : QueueCounter) :
    (inner.recordDrop reason).snapshot.counter counter =
      inner.snapshot.counter counter + [QueueCounter.dropped reason].count counter := by
  cases counter with
  | enqueuedTotal => rfl
  | dropped other =>
    by_cases same : other = reason
    next =>
      subst same
      simp only [QueueSnapshot.counter, QueueSnapshot.dropped, QueueInner.snapshot,
        QueueInner.recordDrop, DropCounts.set_same, increment, List.count_singleton_self]
      omega
    next =>
      have distinct : QueueCounter.dropped reason ≠ .dropped other := by
        simpa using Ne.symm same
      simp [QueueSnapshot.counter, QueueSnapshot.dropped, QueueInner.snapshot,
        QueueInner.recordDrop, DropCounts.set_other _ _ same, distinct]

theorem recordEnqueue_counter (inner : QueueInner T) (below : inner.enqueuedTotal < u64Max)
    (counter : QueueCounter) :
    inner.recordEnqueue.snapshot.counter counter =
      inner.snapshot.counter counter + [QueueCounter.enqueuedTotal].count counter := by
  cases counter with
  | enqueuedTotal =>
    simp only [QueueSnapshot.counter, QueueInner.snapshot, QueueInner.recordEnqueue, increment,
      List.count_singleton_self]
    omega
  | dropped reason =>
    simp [QueueSnapshot.counter, QueueSnapshot.dropped, QueueInner.snapshot]

theorem enqueueLocked_counter {inner : QueueInner T} (enqueued : inner.enqueuedTotal < u64Max)
    (dropped : ∀ reason, inner.droppedByReason reason < u64Max) (item : T)
    (counter : QueueCounter) :
    (SharedQueue.enqueueLocked inner item).2.snapshot.counter counter =
      inner.snapshot.counter counter + inner.enqueueCounts.count counter := by
  rcases enqueueLocked_cases inner item with
    ⟨gone, same⟩ | ⟨live, room, same⟩ | ⟨live, full, rejecting, same⟩ |
      ⟨live, full, dropping, same⟩
  · rw [same, QueueInner.enqueueCounts, if_pos gone]
    exact recordDrop_counter inner (dropped _) counter
  · rw [same, QueueInner.enqueueCounts, if_neg (by simp [live]), if_pos room]
    exact recordEnqueue_counter (inner.pushBack item) enqueued counter
  · rw [same, QueueInner.enqueueCounts, if_neg (by simp [live]), if_neg (by omega), rejecting]
    exact recordDrop_counter inner (dropped _) counter
  · rw [same, QueueInner.enqueueCounts, if_neg (by simp [live]), if_neg (by omega), dropping]
    have evicted := recordDrop_counter inner.popFront (dropped .dropOldest) counter
    have accepted := recordEnqueue_counter
      ((inner.popFront.recordDrop .dropOldest).pushBack item) enqueued counter
    have both : [QueueCounter.dropped .dropOldest, .enqueuedTotal] =
        [.dropped .dropOldest] ++ [.enqueuedTotal] := rfl
    rw [both, List.count_append, ← Nat.add_assoc]
    exact accepted.trans (congrArg (· + _) evicted)

theorem recordLockFreeDrop_counter (queue : SharedQueue T) {reason : DropReason}
    (below : queue.droppedLockFree reason < u64Max) (counter : QueueCounter) :
    (queue.recordLockFreeDrop reason).snapshot.counter counter =
      queue.snapshot.counter counter + [QueueCounter.dropped reason].count counter := by
  cases counter with
  | enqueuedTotal => rfl
  | dropped other =>
    by_cases same : other = reason
    next =>
      subst same
      simp only [QueueSnapshot.counter, QueueSnapshot.dropped, SharedQueue.snapshot,
        QueueInner.snapshot, SharedQueue.recordLockFreeDrop, DropCounts.set_same, u64Max,
        List.count_singleton_self] at below ⊢
      omega
    next =>
      have distinct : QueueCounter.dropped reason ≠ .dropped other := by
        simpa using Ne.symm same
      simp [QueueSnapshot.counter, QueueSnapshot.dropped, SharedQueue.snapshot,
        QueueInner.snapshot, SharedQueue.recordLockFreeDrop, DropCounts.set_other _ _ same,
        distinct]

theorem snapshot_inner (queue : SharedQueue T) {inner : QueueInner T} {counter : QueueCounter}
    {more : Nat}
    (counted : inner.snapshot.counter counter = queue.inner.snapshot.counter counter + more) :
    (SharedQueue.snapshot { queue with inner := inner }).counter counter =
      queue.snapshot.counter counter + more := by
  cases counter with
  | enqueuedTotal => exact counted
  | dropped reason =>
    simp only [QueueSnapshot.counter, QueueSnapshot.dropped, SharedQueue.snapshot] at counted ⊢
    omega

theorem dropConsumer_counter {queue : SharedQueue T}
    (below : queue.dropConsumer.inner.droppedByReason .disconnected < u64Max)
    (counter : QueueCounter) :
    queue.dropConsumer.inner.snapshot.counter counter =
      queue.inner.snapshot.counter counter +
        (List.replicate queue.inner.buf.length (QueueCounter.dropped .disconnected)).count
          counter := by
  cases counter with
  | enqueuedTotal => simp [QueueSnapshot.counter, QueueInner.snapshot, SharedQueue.dropConsumer,
      List.count_replicate]
  | dropped reason =>
    by_cases same : reason = .disconnected
    next =>
      subst same
      simp only [QueueSnapshot.counter, QueueSnapshot.dropped, QueueInner.snapshot,
        SharedQueue.dropConsumer, List.count_replicate_self] at below ⊢
      split_ifs at below ⊢ with leftover
      next =>
        rw [DropCounts.set_same] at below ⊢
        omega
      next => omega
    next =>
      have distinct : QueueCounter.dropped .disconnected ≠ .dropped reason := by
        simpa using Ne.symm same
      simp only [QueueSnapshot.counter, QueueSnapshot.dropped, QueueInner.snapshot,
        SharedQueue.dropConsumer, List.count_replicate, beq_iff_eq, if_neg distinct]
      split_ifs
      next => exact DropCounts.set_other _ _ same
      next => rfl

theorem lockFree_counts (counted : h.queue.Counted) {op : QueueOp T} {counts : List QueueCounter}
    (lockFree : op.lockFreeCounts = some counts) (counter : QueueCounter) :
    (h.step op).queue.snapshot.counter counter =
      h.queue.snapshot.counter counter + counts.count counter := by
  cases op with
  | tryEnqueue lock item =>
    cases lock with
    | acquired => contradiction
    | contended =>
      obtain rfl : [QueueCounter.dropped .mutexContended] = counts := by
        simpa [QueueOp.lockFreeCounts] using lockFree
      exact recordLockFreeDrop_counter h.queue (counted.lockFree _) counter
    | poisoned =>
      obtain rfl : [] = counts := by simpa [QueueOp.lockFreeCounts] using lockFree
      rfl
  | recordPublishLoss lock reason =>
    cases lock with
    | acquired => contradiction
    | contended | poisoned =>
      obtain rfl : [QueueCounter.dropped reason] = counts := by
        simpa [QueueOp.lockFreeCounts] using lockFree
      exact recordLockFreeDrop_counter h.queue (counted.lockFree _) counter
  | tryRecv | pollWorker | recordLoss | dropConsumer | cloneProducer | dropProducer =>
    contradiction

theorem locked_counts (counted : h.queue.Counted) {op : QueueOp T}
    (locked : op.lockFreeCounts = none) (live : op.consumes = true → h.live = true)
    (after : (h.step op).queue.Counted) (counter : QueueCounter) :
    (h.step op).queue.snapshot.counter counter =
      h.queue.snapshot.counter counter +
        (Reporting.locked h.queue.inner (h.step op).queue.inner op).owed.count counter := by
  cases op with
  | tryEnqueue lock item =>
    cases lock with
    | contended | poisoned => contradiction
    | acquired =>
      simp only [Reporting.locked, Reporting.owed, List.append_nil]
      exact snapshot_inner h.queue
        (enqueueLocked_counter counted.enqueued counted.dropped item counter)
  | recordPublishLoss lock reason =>
    cases lock with
    | contended | poisoned => contradiction
    | acquired =>
      exact snapshot_inner h.queue (recordDrop_counter h.queue.inner (counted.dropped _) counter)
  | recordLoss reason =>
    have present := live rfl
    simp only [QueueHistory.step, present, if_true]
    exact snapshot_inner h.queue (recordDrop_counter h.queue.inner (counted.dropped _) counter)
  | dropConsumer =>
    have present := live rfl
    have below := after.dropped .disconnected
    simp only [QueueHistory.step, present, if_true] at below ⊢
    exact snapshot_inner h.queue (dropConsumer_counter below counter)
  | cloneProducer | dropProducer => rfl
  | tryRecv | pollWorker =>
    have present := live rfl
    simp only [QueueHistory.step, present, if_true, QueueHistory.pollWorker_eq]
    cases oldest : h.queue.inner.buf with
    | nil => simp [QueueHistory.tryRecv_nil oldest, Reporting.locked, oldest, Reporting.nothing,
        Reporting.owed]
    | cons item rest =>
      rw [QueueHistory.tryRecv_queue]
      simp only [Reporting.locked, oldest, Reporting.owed]
      exact snapshot_inner h.queue rfl

theorem mem_emitGauges (inner : QueueInner T) (entry : QueueGauge × Nat) :
    entry ∈ inner.emitGauges ↔ entry.2 = inner.snapshot.gauge entry.1 := by
  obtain ⟨gauge, value⟩ := entry
  cases gauge with
  | depth | capacity =>
    simp [QueueInner.emitGauges, exportQueueGauges, QueueSnapshot.gauge, QueueInner.snapshot]
  | fullPolicy policy =>
    have hot : inner.snapshot.gauge (.fullPolicy policy) =
        if policy = inner.policy then 1 else 0 := rfl
    have listed := policy.mem_all
    simp [QueueInner.emitGauges, exportQueueGauges, hot, listed, eq_comm]

theorem emitGauges_functional (inner : QueueInner T) : ∀ first ∈ inner.emitGauges,
    ∀ second ∈ inner.emitGauges, first.1 = second.1 → first.2 = second.2 := by
  intro first emitted second also same
  rw [(mem_emitGauges inner first).mp emitted, (mem_emitGauges inner second).mp also, same]

theorem settled_gauge {inner : QueueInner T} {board : QueueGauge → Option Nat}
    (settling : Settling inner.emitGauges [] board) (gauge : QueueGauge) :
    board gauge = some (inner.snapshot.gauge gauge) :=
  settling.settled (gauge, inner.snapshot.gauge gauge) ((mem_emitGauges inner _).mpr rfl)

theorem lockFree_inner {op : QueueOp T} {counts : List QueueCounter}
    (lockFree : op.lockFreeCounts = some counts) :
    (h.step op).queue.inner = h.queue.inner := by
  cases op with
  | tryEnqueue lock item | recordPublishLoss lock reason =>
    cases lock with
    | acquired => contradiction
    | contended | poisoned => rfl
  | tryRecv | pollWorker | recordLoss | dropConsumer | cloneProducer | dropProducer =>
    contradiction

theorem locked_gauges {op : QueueOp T} (live : op.consumes = true → h.live = true) :
    let reporting := Reporting.locked h.queue.inner (h.step op).queue.inner op
    reporting.gauges = (h.step op).queue.inner.emitGauges ∨
      (h.step op).queue.inner.emitGauges = h.queue.inner.emitGauges := by
  intro reporting
  cases op with
  | tryEnqueue | recordPublishLoss | recordLoss | dropConsumer => exact .inl rfl
  | cloneProducer | dropProducer => exact .inr rfl
  | tryRecv | pollWorker =>
    have present := live rfl
    cases oldest : h.queue.inner.buf with
    | nil =>
      right
      simp [QueueHistory.step, present, QueueHistory.pollWorker_eq,
        QueueHistory.tryRecv_nil oldest]
    | cons item rest =>
      left
      simp [reporting, Reporting.locked, oldest]

theorem locked_due {before after : QueueInner T} (op : QueueOp T) :
    ∀ entry ∈ (Reporting.locked before after op).gauges, entry ∈ after.emitGauges := by
  intro entry due
  cases op with
  | tryEnqueue | recordPublishLoss | recordLoss | dropConsumer => exact due
  | cloneProducer | dropProducer => simp [Reporting.locked, Reporting.nothing] at due
  | tryRecv | pollWorker =>
    simp only [Reporting.locked] at due
    split at due
    next => simp [Reporting.nothing] at due
    next => exact due

theorem shown_due (inv : QueueHistory.Inv config h) :
    ∀ entry ∈ h.queue.inner.emitGauges, Shown config entry := by
  rintro ⟨gauge, value⟩ emitted
  have current := (mem_emitGauges _ _).mp emitted
  cases gauge with
  | depth =>
    have bounded := inv.bounded
    simp only [QueueSnapshot.gauge, QueueInner.snapshot] at current
    simpa [Shown, current] using bounded
  | capacity => exact current.trans inv.capacity
  | fullPolicy policy =>
    simp only [QueueSnapshot.gauge, QueueInner.snapshot, inv.policy] at current
    exact current

theorem new_gauge (config : QueueConfig) (gauge : QueueGauge) :
    (new config : LiveQueue T).registry.gauges gauge =
      some ((SharedQueue.new config : SharedQueue T).inner.snapshot.gauge gauge) := by
  cases gauge with
  | depth | capacity => rfl
  | fullPolicy policy => cases policy <;> rfl

theorem inv_new (config : QueueConfig) : Inv config (new config : LiveQueue T) where
  queue := QueueHistory.inv_new
  counted := by
    intro counter
    have zero : (0 : Nat) < u64Max := by decide
    cases counter <;> exact zero
  counters := by
    intro counter
    cases counter <;> rfl
  gauges := by
    intro entry due
    right
    rw [new_gauge, (mem_emitGauges _ entry).mp due]
    rfl
  due := by simp [reporting, new, Reporting.nothing]
  shown := by
    intro gauge
    refine ⟨_, new_gauge config gauge, ?_⟩
    exact shown_due QueueHistory.inv_new _ ((mem_emitGauges _ _).mpr rfl)

theorem inv_enter (inv : Inv config q) {op : QueueOp T} {after : LiveQueue T}
    (entered : q.enter op = some after) (counted : after.history.queue.Counted) :
    Inv config after := by
  have queue := QueueHistory.inv_step inv.queue op
  unfold enter at entered
  split at entered
  next counts lockFree =>
    obtain rfl := Option.some.inj entered
    have same := lockFree_inner (h := q.history) lockFree
    have owing := inv.counters.more (lockFree_counts inv.counted lockFree)
    refine ⟨queue, counted, owing.perm ?_, ?_, ?_, inv.shown⟩
    · simp [owed, reporting]
    · simpa [reporting, same] using inv.gauges
    · simpa [reporting, same] using inv.due
  next locked =>
    split_ifs at entered with free
    obtain ⟨unheld, live⟩ := free
    obtain rfl := Option.some.inj entered
    have none : q.holder = none := by simpa using unheld
    have nothing : q.reporting = .nothing := by simp [reporting, none]
    have owing := inv.counters.more (locked_counts inv.counted locked live counted)
    have settled := inv.gauges
    rw [nothing] at settled
    refine ⟨queue, counted, owing.perm ?_, ?_, ?_, inv.shown⟩
    · have outside : q.owed = q.outside := by
        simp [owed, nothing, Reporting.owed, Reporting.nothing]
      rw [outside]
      exact List.perm_append_comm
    · rcases locked_gauges (h := q.history) live with all | unchanged
      next =>
        simp only [reporting, Option.getD_some, all]
        exact Settling.begun _ _
      next =>
        simp only [reporting, Option.getD_some, unchanged]
        exact settled.mono (by simp [Reporting.nothing])
    · exact locked_due op

theorem inv_report (inv : Inv config q) {after : LiveQueue T} (reported : q.report = some after) :
    Inv config after := by
  unfold report at reported
  split at reported
  next => contradiction
  next reporting held =>
    have present : q.reporting = reporting := by simp [LiveQueue.reporting, held]
    have owing := inv.counters
    have settling := inv.gauges
    have due := inv.due
    simp only [owed, present, Reporting.owed] at owing settling due
    split at reported
    next _ _ counter counts counting =>
      obtain rfl := Option.some.inj reported
      rw [counting, List.cons_append, List.cons_append] at owing
      have below : q.history.queue.snapshot.counter counter < 0x10000000000000000 :=
        Nat.lt_of_lt_of_le (inv.counted counter) (by decide)
      have paid := owing.bump List.mem_cons_self below
      rw [List.erase_cons_head] at paid
      exact ⟨inv.queue, inv.counted, paid, settling, due, inv.shown⟩
    next _ entry gauges counting showing =>
      obtain rfl := Option.some.inj reported
      rw [showing] at settling due
      have current := due entry List.mem_cons_self
      have written := settling.write (emitGauges_functional _) current
      refine ⟨inv.queue, inv.counted, owing, written, ?_, ?_⟩
      · intro later member
        exact due later (List.mem_cons_of_mem _ member)
      · intro gauge
        by_cases same : gauge = entry.1
        next =>
          subst same
          exact ⟨entry.2, by simp [write], shown_due inv.queue entry current⟩
        next =>
          simpa [write, Function.update, same] using inv.shown gauge
    next counting showing =>
      obtain rfl := Option.some.inj reported
      refine ⟨inv.queue, inv.counted, owing.perm ?_, ?_, ?_, inv.shown⟩
      · simp only [counting, owed, LiveQueue.reporting, Option.getD_none, Reporting.nothing,
          Reporting.owed, List.nil_append]
        exact List.perm_append_comm
      · rw [showing] at settling
        exact settling
      · simp [LiveQueue.reporting, Reporting.nothing]

theorem inv_reportOutside (inv : Inv config q) {counter : QueueCounter} {after : LiveQueue T}
    (reported : q.reportOutside counter = some after) : Inv config after := by
  unfold reportOutside at reported
  split_ifs at reported with outside
  obtain rfl := Option.some.inj reported
  have below : q.history.queue.snapshot.counter counter < 0x10000000000000000 :=
    Nat.lt_of_lt_of_le (inv.counted counter) (by decide)
  have owing := inv.counters.perm List.perm_append_comm
  have paid := owing.bump (List.mem_append_left _ outside) below
  rw [List.erase_append_left _ outside] at paid
  exact ⟨inv.queue, inv.counted, paid.perm List.perm_append_comm, inv.gauges, inv.due, inv.shown⟩

theorem inv_reachable (reachable : (system config).Reachable q) : Inv config q := by
  refine reachable.invariant (Inv config) ?_ ?_
  · rintro start rfl
    exact inv_new config
  · intro before label after _ inv next
    obtain ⟨step, below⟩ := Option.filter_eq_some_iff.mp next
    have counted : after.history.queue.Counted := by simpa using below
    cases label with
    | enter op => exact inv_enter inv step counted
    | report => exact inv_report inv step
    | reportOutside counter => exact inv_reportOutside inv step

theorem live_metrics_agree (reachable : (system config).Reachable q) :
    (∀ counter, q.registry.counters counter + q.owed.count counter =
      q.history.queue.snapshot.counter counter) ∧
    (∀ gauge, ∃ value, q.registry.gauges gauge = some value ∧ Shown config (gauge, value)) ∧
    (q.holder = none → ∀ gauge,
      q.registry.gauges gauge = some (q.history.queue.snapshot.gauge gauge)) ∧
    (q.holder = none → q.outside = [] →
      scrape q.history.queue.snapshot.prometheusExposition =
        some (QueueSeries.all.map fun series => (series.text, q.registry.value series))) := by
  have inv := inv_reachable reachable
  have exact (free : q.holder = none) (gauge : QueueGauge) :
      q.registry.gauges gauge = some (q.history.queue.snapshot.gauge gauge) := by
    have settling := inv.gauges
    simp only [reporting, free, Option.getD_none, Reporting.nothing] at settling
    exact settled_gauge settling gauge
  refine ⟨inv.counters, inv.shown, exact, ?_⟩
  intro free paid
  have owing := inv.counters
  simp only [owed, reporting, free, paid, Option.getD_none, Reporting.nothing, Reporting.owed,
    List.append_nil] at owing
  have counters := owing.paid
  rw [QueueSnapshot.scrape_exposition]
  congr 1
  apply List.map_congr_left
  intro series _
  cases series with
  | gauge gauge => simp [QueueSnapshot.sample, QueueSnapshot.value, QueueRegistry.value, exact free]
  | counter counter =>
    simp [QueueSnapshot.sample, QueueSnapshot.value, QueueRegistry.value, counters]

def twoSlots : QueueConfig where
  capacity := 2
  policy := .dropOldest
  validated := rfl

def busySteps : List (LiveStep Nat) :=
  [.enter (.tryEnqueue .acquired 6)] ++ List.replicate 6 .report ++
  [.enter (.tryEnqueue .acquired 7)] ++ List.replicate 6 .report ++
  [.enter (.tryEnqueue .acquired 8), .report, .enter (.tryEnqueue .contended 9)] ++
  List.replicate 6 .report ++ [.enter .dropConsumer] ++ List.replicate 5 .report ++
  [.reportOutside (.dropped .disconnected), .reportOutside (.dropped .mutexContended),
    .reportOutside (.dropped .disconnected)]

theorem live_metrics_agree_busy :
    let q := (busySteps.foldlM countedStep (new twoSlots)).get (by decide +kernel)
    (∀ counter, q.registry.counters counter + q.owed.count counter =
      q.history.queue.snapshot.counter counter) ∧
    (∀ gauge, ∃ value, q.registry.gauges gauge = some value ∧ Shown twoSlots (gauge, value)) ∧
    (q.holder = none → ∀ gauge,
      q.registry.gauges gauge = some (q.history.queue.snapshot.gauge gauge)) ∧
    (q.holder = none → q.outside = [] →
      scrape q.history.queue.snapshot.prometheusExposition =
        some (QueueSeries.all.map fun series => (series.text, q.registry.value series))) :=
  live_metrics_agree
    ⟨new twoSlots, busySteps, rfl, System.run_ofPartial (Option.some_get _).symm⟩

end LiveQueue

end ThalamicRelay
