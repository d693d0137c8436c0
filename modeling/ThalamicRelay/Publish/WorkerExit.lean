import ThalamicRelay.Publish.QueueRuns

set_option autoImplicit false

namespace ThalamicRelay

open Saturating Transition

inductive Departure
  | received
  | evicted
  deriving DecidableEq, Repr

/-- A queue with its live producer handles, and what left the buffer, oldest first. -/
structure QueueHandles (T : Type) where
  history : QueueHistory T
  handles : Nat
  gone : List (Departure × T)

-- isize::MAX, past which Arc::clone aborts the process.
def maxRefcount : Nat := 0x7FFFFFFFFFFFFFFF

namespace QueueHandles

variable {T : Type}

def new (config : QueueConfig) : QueueHandles T where
  history := .new config
  handles := 1
  gone := []

def departures (inner : QueueInner T) : QueueOp T → List (Departure × T)
  | .tryEnqueue .acquired _ =>
    if inner.connected = true ∧ inner.capacity ≤ inner.buf.length ∧ inner.policy = .dropOldest then
      inner.buf.head?.toList.map (Prod.mk .evicted)
    else []
  | .tryRecv | .pollWorker => inner.buf.head?.toList.map (Prod.mk .received)
  | .tryEnqueue .contended _ | .tryEnqueue .poisoned _ | .recordPublishLoss _ _
  | .recordLoss _ | .dropConsumer | .cloneProducer | .dropProducer => []

-- The strong count of the shared Arc.
def references (s : QueueHandles T) : Nat :=
  s.handles + if s.history.live then 1 else 0

def enabled (s : QueueHandles T) : QueueOp T → Bool
  | .tryEnqueue _ _ | .recordPublishLoss _ _ | .dropProducer => 0 < s.handles
  | .cloneProducer => 0 < s.handles ∧ s.references ≤ maxRefcount
  | .tryRecv | .pollWorker | .recordLoss _ | .dropConsumer => s.history.live

def countHandles (handles : Nat) : QueueOp T → Nat
  | .cloneProducer => handles + 1
  | .dropProducer => handles - 1
  | .tryEnqueue _ _ | .recordPublishLoss _ _ | .tryRecv | .pollWorker | .recordLoss _
  | .dropConsumer => handles

def step (s : QueueHandles T) (op : QueueOp T) : Option (QueueHandles T) :=
  if s.enabled op then
    some
      { history := s.history.step op
        handles := countHandles s.handles op
        gone := s.gone ++ departures s.history.queue.inner op }
  else none

def system (config : QueueConfig) : System (QueueHandles T) (QueueOp T) :=
  .ofPartial (fun s => s = new config) step

def received (s : QueueHandles T) : List T :=
  (s.gone.filter fun frame => frame.1 = .received).map Prod.snd

def Finished (s : QueueHandles T) : Prop :=
  s.history.live = true ∧ s.history.queue.pollWorker.1 = .finished

theorem pollWorker_finished (queue : SharedQueue T) :
    queue.pollWorker.1 = .finished ↔ queue.inner.buf = [] ∧ queue.inner.producers = 0 := by
  cases oldest : queue.inner.buf with
  | nil =>
    by_cases none : queue.inner.producers = 0 <;>
      simp [SharedQueue.pollWorker, SharedQueue.tryRecv, QueueInner.popFront, oldest, none]
  | cons item rest => simp [SharedQueue.pollWorker, SharedQueue.tryRecv, oldest]

theorem producers_step (h : QueueHistory T) (op : QueueOp T) :
    (h.step op).queue.inner.producers =
      match op with
      | .cloneProducer => increment u64Max h.queue.inner.producers
      | .dropProducer => h.queue.inner.producers - 1
      | .tryEnqueue _ _ | .recordPublishLoss _ _ | .tryRecv | .pollWorker | .recordLoss _
      | .dropConsumer => h.queue.inner.producers := by
  have popped : h.tryRecv.queue.inner.producers = h.queue.inner.producers := by
    rw [QueueHistory.tryRecv_queue]
    rfl
  cases op with
  | tryEnqueue lock item =>
    cases lock with
    | contended | poisoned => rfl
    | acquired =>
      simp only [QueueHistory.step, QueueHistory.tryEnqueue, SharedQueue.tryEnqueue]
      rcases enqueueLocked_cases h.queue.inner item with
        ⟨_, same⟩ | ⟨_, _, same⟩ | ⟨_, _, _, same⟩ | ⟨_, _, _, same⟩ <;> rw [same] <;> rfl
  | recordPublishLoss lock reason => cases lock <;> rfl
  | tryRecv =>
    simp only [QueueHistory.step]
    split
    next => exact popped
    next => rfl
  | pollWorker =>
    simp only [QueueHistory.step, QueueHistory.pollWorker_eq]
    split
    next => exact popped
    next => rfl
  | recordLoss reason =>
    simp only [QueueHistory.step]
    split <;> rfl
  | dropConsumer =>
    simp only [QueueHistory.step]
    split <;> rfl
  | cloneProducer | dropProducer => rfl

structure Inv (config : QueueConfig) (s : QueueHandles T) : Prop where
  history : QueueHistory.Inv config s.history
  counted : s.history.queue.inner.producers = s.handles
  bounded : s.handles ≤ maxRefcount + 1
  received : s.history.received = s.received
  departed : s.history.live = true →
    s.history.accepted = s.gone.map Prod.snd ++ s.history.queue.inner.buf

variable {config : QueueConfig}

theorem inv_new : Inv config (new config : QueueHandles T) where
  history := QueueHistory.inv_new
  counted := rfl
  bounded := by simp only [new, maxRefcount]; omega
  received := rfl
  departed := fun _ => rfl

theorem departed_tryEnqueue {s : QueueHandles T} (inv : Inv config s) (lock : TryLock) (item : T)
    (live : s.history.live = true) :
    (s.history.tryEnqueue lock item).accepted =
      (s.gone ++ departures s.history.queue.inner (.tryEnqueue lock item)).map Prod.snd ++
        (s.history.tryEnqueue lock item).queue.inner.buf := by
  have before := inv.departed live
  cases lock with
  | contended | poisoned =>
    simpa [QueueHistory.tryEnqueue, SharedQueue.tryEnqueue, departures,
      SharedQueue.recordLockFreeDrop] using before
  | acquired =>
    simp only [QueueHistory.tryEnqueue, SharedQueue.tryEnqueue, departures]
    rcases enqueueLocked_cases s.history.queue.inner item with
      ⟨connected, same⟩ | ⟨_, room, same⟩ | ⟨_, _, policy, same⟩ | ⟨connected, full, policy, same⟩
    · simp [same, connected, before]
    · have spare := Nat.not_le.mpr room
      simp [same, spare, before]
    · simp [same, policy, before]
    · have positive := config.positive
      have capacity := inv.history.capacity
      cases oldest : s.history.queue.inner.buf with
      | nil =>
        rw [oldest] at full
        simp only [List.length_nil] at full
        omega
      | cons first rest =>
        rw [oldest, List.length_cons] at full
        simp [same, connected, full, policy, oldest, before]

theorem departed_tryRecv {s : QueueHandles T} (inv : Inv config s)
    (live : s.history.live = true) :
    s.history.tryRecv.accepted =
      (s.gone ++ s.history.queue.inner.buf.head?.toList.map (Prod.mk Departure.received)).map
          Prod.snd ++ s.history.tryRecv.queue.inner.buf := by
  have before := inv.departed live
  cases oldest : s.history.queue.inner.buf with
  | nil => simp [QueueHistory.tryRecv_nil oldest, oldest, before]
  | cons first rest =>
    simp [QueueHistory.tryRecv, SharedQueue.tryRecv, oldest, before]

theorem departed_step {s : QueueHandles T} (inv : Inv config s) (op : QueueOp T)
    (live : (s.history.step op).live = true) :
    (s.history.step op).accepted =
      (s.gone ++ departures s.history.queue.inner op).map Prod.snd ++
        (s.history.step op).queue.inner.buf := by
  obtain ⟨before, consumed⟩ := QueueHistory.step_live live
  have known := inv.departed before
  cases op with
  | tryEnqueue lock item => exact departed_tryEnqueue inv lock item before
  | recordPublishLoss lock reason =>
    cases lock <;>
      simpa [QueueHistory.step, departures, SharedQueue.recordPublishLoss,
        SharedQueue.recordLockFreeDrop] using known
  | tryRecv => simpa [QueueHistory.step, before, departures] using departed_tryRecv inv before
  | pollWorker =>
    simpa [QueueHistory.step, QueueHistory.pollWorker_eq, before, departures]
      using departed_tryRecv inv before
  | recordLoss reason =>
    simpa [QueueHistory.step, before, departures, SharedQueue.recordLoss] using known
  | dropConsumer => exact absurd rfl consumed
  | cloneProducer => simpa [QueueHistory.step, departures, SharedQueue.cloneProducer] using known
  | dropProducer => simpa [QueueHistory.step, departures, SharedQueue.dropProducer] using known

theorem received_tryRecv (h : QueueHistory T) :
    h.tryRecv.received = h.received ++ h.queue.inner.buf.head?.toList := by
  simp only [QueueHistory.tryRecv, SharedQueue.tryRecv]
  cases h.queue.inner.buf.head? <;> simp

theorem received_departures (inner : QueueInner T) (op : QueueOp T) :
    ((departures inner op).filter fun frame => frame.1 = .received).map Prod.snd =
      match op with
      | .tryRecv | .pollWorker => inner.buf.head?.toList
      | .tryEnqueue _ _ | .recordPublishLoss _ _ | .recordLoss _ | .dropConsumer
      | .cloneProducer | .dropProducer => [] := by
  cases op with
  | tryEnqueue lock item =>
    cases lock with
    | contended | poisoned => rfl
    | acquired =>
      simp only [departures]
      split
      next => cases inner.buf.head? <;> simp
      next => rfl
  | tryRecv | pollWorker =>
    simp only [departures]
    cases inner.buf.head? <;> simp
  | recordPublishLoss _ _ | recordLoss _ | dropConsumer | cloneProducer | dropProducer => rfl

theorem received_step {s : QueueHandles T} {op : QueueOp T} (enabled : s.enabled op = true) :
    (s.history.step op).received =
      s.history.received ++
        ((departures s.history.queue.inner op).filter fun frame => frame.1 = .received).map
          Prod.snd := by
  rw [received_departures]
  cases op with
  | tryEnqueue lock item => simp [QueueHistory.step, QueueHistory.tryEnqueue]
  | tryRecv =>
    have live : s.history.live = true := enabled
    simpa [QueueHistory.step, live] using received_tryRecv s.history
  | pollWorker =>
    have live : s.history.live = true := enabled
    simpa [QueueHistory.step, QueueHistory.pollWorker_eq, live]
      using received_tryRecv s.history
  | recordLoss _ | dropConsumer =>
    simp only [QueueHistory.step, List.append_nil]
    split <;> rfl
  | recordPublishLoss _ _ | cloneProducer | dropProducer => simp [QueueHistory.step]

theorem step_some {s after : QueueHandles T} {op : QueueOp T} (stepped : s.step op = some after) :
    s.enabled op = true ∧ after.history = s.history.step op ∧
      after.gone = s.gone ++ departures s.history.queue.inner op ∧
      after.handles = countHandles s.handles op := by
  simp only [step] at stepped
  split at stepped
  next allowed =>
    obtain rfl := Option.some.inj stepped
    exact ⟨allowed, rfl, rfl, rfl⟩
  next => simp at stepped

theorem inv_step {s after : QueueHandles T} (inv : Inv config s) {op : QueueOp T}
    (stepped : s.step op = some after) : Inv config after := by
  obtain ⟨enabled, history, gone, handles⟩ := step_some stepped
  have counted := inv.counted
  have bounded := inv.bounded
  constructor
  case history =>
    rw [history]
    exact QueueHistory.inv_step inv.history op
  case counted =>
    rw [history, handles, producers_step, counted]
    cases op with
    | cloneProducer =>
      -- Arc::clone aborts long before the counter saturates.
      have room : s.handles + 1 ≤ u64Max := by
        simp only [u64Max, maxRefcount] at bounded ⊢
        omega
      simp only [increment, countHandles]
      omega
    | dropProducer | tryEnqueue _ _ | recordPublishLoss _ _ | tryRecv | pollWorker | recordLoss _
    | dropConsumer => rfl
  case bounded =>
    rw [handles]
    cases op with
    | cloneProducer =>
      have room : 0 < s.handles ∧ s.references ≤ maxRefcount := by
        simpa [QueueHandles.enabled] using enabled
      simp only [references] at room
      simp only [countHandles]
      omega
    | dropProducer =>
      simp only [countHandles]
      omega
    | tryEnqueue _ _ | recordPublishLoss _ _ | tryRecv | pollWorker | recordLoss _
    | dropConsumer => exact bounded
  case received =>
    rw [history, received_step enabled, inv.received]
    simp [QueueHandles.received, gone]
  case departed =>
    rw [history, gone]
    exact departed_step inv op

theorem inv_reachable {s : QueueHandles T} (reachable : (system config).Reachable s) :
    Inv config s := by
  apply reachable.invariant (Inv config)
  next =>
    rintro start rfl
    exact inv_new
  next =>
    intro before op after _ inv stepped
    exact inv_step inv stepped

theorem finished_iff {s : QueueHandles T} (inv : Inv config s) :
    s.Finished ↔
      s.history.live = true ∧ s.handles = 0 ∧ s.history.queue.inner.buf = [] := by
  simp only [Finished, pollWorker_finished, inv.counted]
  tauto

structure Closed (config : QueueConfig) (accepted : List T) (s : QueueHandles T) : Prop where
  inv : Inv config s
  handles : s.handles = 0
  drained : s.history.queue.inner.buf = []
  accepted : s.history.accepted = accepted

theorem drained_step {h : QueueHistory T} (drained : h.queue.inner.buf = []) {op : QueueOp T}
    (quiet : ∀ lock item, op ≠ .tryEnqueue lock item) :
    (h.step op).queue.inner.buf = [] ∧ (h.step op).accepted = h.accepted := by
  cases op with
  | tryEnqueue lock item => exact absurd rfl (quiet lock item)
  | recordPublishLoss lock reason => cases lock <;> exact ⟨drained, rfl⟩
  | tryRecv =>
    simpa only [QueueHistory.step, QueueHistory.tryRecv_nil drained, ite_self, and_true]
      using drained
  | pollWorker =>
    simpa only [QueueHistory.step, QueueHistory.pollWorker_eq, QueueHistory.tryRecv_nil drained,
      ite_self, and_true] using drained
  | recordLoss reason =>
    simp only [QueueHistory.step]
    split <;> exact ⟨drained, rfl⟩
  | dropConsumer =>
    simp only [QueueHistory.step]
    split
    next => exact ⟨rfl, rfl⟩
    next => exact ⟨drained, rfl⟩
  | cloneProducer | dropProducer => exact ⟨drained, rfl⟩

-- No operation of a producer is left, and none of the consumer's adds a frame or a handle.
theorem closed_step {accepted : List T} {s after : QueueHandles T}
    (closed : Closed config accepted s) {op : QueueOp T} (stepped : s.step op = some after) :
    Closed config accepted after := by
  obtain ⟨enabled, history, _, handles⟩ := step_some stepped
  have none := closed.handles
  have consumer : (∀ lock item, op ≠ .tryEnqueue lock item) ∧ countHandles s.handles op = 0 := by
    cases op with
    | tryEnqueue _ _ | recordPublishLoss _ _ | cloneProducer | dropProducer =>
      simp [QueueHandles.enabled, none] at enabled
    | tryRecv | pollWorker | recordLoss _ | dropConsumer => simp [countHandles, none]
  have kept := drained_step closed.drained consumer.1
  constructor
  case inv => exact inv_step closed.inv stepped
  case handles => rw [handles, consumer.2]
  case drained => rw [history, kept.1]
  case accepted => rw [history, kept.2, closed.accepted]

end QueueHandles

theorem worker_drains_before_exit {T : Type} (config : QueueConfig) (s : QueueHandles T)
    (reachable : (QueueHandles.system config).Reachable s) :
    s.history.queue.inner.producers = s.handles ∧
      (s.Finished → s.handles = 0 ∧ s.history.accepted = s.gone.map Prod.snd ∧
        s.history.received = s.received ∧
        ∀ ops last, (QueueHandles.system config).Run s ops last →
          last.history.accepted = s.history.accepted ∧
            (∀ lock item, last.step (.tryEnqueue lock item) = none) ∧
            last.step .cloneProducer = none ∧
            (last.history.live = true → last.Finished)) := by
  have inv := QueueHandles.inv_reachable reachable
  constructor
  next => exact inv.counted
  next =>
    intro finished
    obtain ⟨live, none, drained⟩ := (QueueHandles.finished_iff inv).mp finished
    have departed := inv.departed live
    rw [drained, List.append_nil] at departed
    refine ⟨none, departed, inv.received, ?_⟩
    intro ops last run
    have start : QueueHandles.Closed config s.history.accepted s := ⟨inv, none, drained, rfl⟩
    have closed := run.invariant (QueueHandles.Closed config s.history.accepted)
      (fun before op after closed stepped => QueueHandles.closed_step closed stepped) start
    refine ⟨closed.accepted, ?_, ?_, ?_⟩
    · intro lock item
      simp [QueueHandles.step, QueueHandles.enabled, closed.handles]
    · simp [QueueHandles.step, QueueHandles.enabled, closed.handles]
    · intro stays
      exact (QueueHandles.finished_iff closed.inv).mpr ⟨stays, closed.handles, closed.drained⟩

-- Two handles and a full queue: the first frame goes to the second, which the worker takes.
theorem worker_drains_before_exit_two_handles :
    let config : QueueConfig := { capacity := 1, policy := .dropOldest, validated := rfl }
    ∃ s : QueueHandles Nat,
      List.foldlM QueueHandles.step (QueueHandles.new config)
        [.cloneProducer, .tryEnqueue .acquired 1, .dropProducer, .tryEnqueue .acquired 2,
          .dropProducer, .pollWorker] = some s ∧
      s.Finished ∧ s.gone = [(.evicted, 1), (.received, 2)] ∧ s.handles = 0 ∧
      s.history.accepted = s.gone.map Prod.snd ∧ s.history.received = s.received := by
  intro config
  have ran : (List.foldlM QueueHandles.step (QueueHandles.new config)
      [.cloneProducer, .tryEnqueue .acquired 1, .dropProducer, .tryEnqueue .acquired 2,
        .dropProducer, .pollWorker]).isSome = true := rfl
  refine ⟨Option.get _ ran, (Option.some_get ran).symm, ⟨rfl, rfl⟩, rfl, ?_⟩
  have reachable : (QueueHandles.system config).Reachable (Option.get _ ran) :=
    ⟨_, _, rfl, System.run_ofPartial (Option.some_get ran).symm⟩
  have exits := (worker_drains_before_exit config _ reachable).2 ⟨rfl, rfl⟩
  exact ⟨exits.1, exits.2.1, exits.2.2.1⟩

end ThalamicRelay
