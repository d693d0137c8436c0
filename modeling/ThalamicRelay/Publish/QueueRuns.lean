import Mathlib.Data.List.Nodup
import ThalamicRelay.Publish.Queue
import ThalamicRelay.Shared.OrderedChannel

set_option autoImplicit false

namespace ThalamicRelay

open OrderedChannel Transition

/-- A queue with what went through it, oldest first; no operation reads the lists. -/
structure QueueHistory (T : Type) where
  queue : SharedQueue T
  live : Bool
  offered : List T
  accepted : List T
  received : List T

inductive QueueOp (T : Type)
  | tryEnqueue (lock : TryLock) (item : T)
  | recordPublishLoss (lock : TryLock) (reason : DropReason)
  | tryRecv
  | pollWorker
  | recordLoss (reason : DropReason)
  | dropConsumer
  | cloneProducer
  | dropProducer

namespace QueueHistory

variable {T : Type}

def new (config : QueueConfig) : QueueHistory T where
  queue := .new config
  live := true
  offered := []
  accepted := []
  received := []

def tryEnqueue (h : QueueHistory T) (lock : TryLock) (item : T) : QueueHistory T :=
  let (result, queue) := h.queue.tryEnqueue lock item
  { h with
    queue := queue
    offered := h.offered ++ [item]
    accepted :=
      match result with
      | .ok _ => h.accepted ++ [item]
      | .error _ => h.accepted }

def pollWorker (h : QueueHistory T) : QueueHistory T :=
  match h.queue.pollWorker with
  | (.message item, queue) => { h with queue := queue, received := h.received ++ [item] }
  | (.idle, queue) | (.finished, queue) => { h with queue := queue }

def tryRecv (h : QueueHistory T) : QueueHistory T :=
  match h.queue.tryRecv with
  | (some item, queue) => { h with queue := queue, received := h.received ++ [item] }
  | (none, queue) => { h with queue := queue }

-- The consumer's methods need the consumer; once it is dropped they cannot be called.
def step (h : QueueHistory T) : QueueOp T → QueueHistory T
  | .tryEnqueue lock item => h.tryEnqueue lock item
  | .recordPublishLoss lock reason => { h with queue := h.queue.recordPublishLoss lock reason }
  | .tryRecv => if h.live then h.tryRecv else h
  | .pollWorker => if h.live then h.pollWorker else h
  | .recordLoss reason => if h.live then { h with queue := h.queue.recordLoss reason } else h
  | .dropConsumer =>
    if h.live then { h with queue := h.queue.dropConsumer, live := false } else h
  | .cloneProducer => { h with queue := h.queue.cloneProducer }
  | .dropProducer => { h with queue := h.queue.dropProducer }

def run (h : QueueHistory T) (ops : List (QueueOp T)) : QueueHistory T :=
  ops.foldl step h

def system (config : QueueConfig) : System (QueueHistory T) (QueueOp T) :=
  .ofFunction (fun h => h = new config) step

def channel (h : QueueHistory T) : Channel T where
  offered := h.offered
  accepted := h.accepted
  received := h.received
  buffered := h.queue.inner.buf

def actions (h : QueueHistory T) : QueueOp T → List (Action T)
  | .tryEnqueue lock item =>
    match (h.queue.tryEnqueue lock item).1 with
    | .error _ => [.lose item]
    | .ok _ =>
      if h.queue.inner.buf.length < h.queue.inner.capacity then [.accept item]
      else [.evict, .accept item]
  | .tryRecv | .pollWorker =>
    if h.live = true ∧ h.queue.inner.buf ≠ [] then [.receive] else []
  | .dropConsumer => if h.live then List.replicate h.queue.inner.buf.length .evict else []
  | .recordPublishLoss _ _ | .recordLoss _ | .cloneProducer | .dropProducer => []

structure Inv (config : QueueConfig) (h : QueueHistory T) : Prop where
  capacity : h.queue.inner.capacity = config.capacity
  policy : h.queue.inner.policy = config.policy
  bounded : h.queue.inner.buf.length ≤ config.capacity
  connected : h.queue.inner.connected = h.live
  emptied : h.live = false → h.queue.inner.buf = []

variable {config : QueueConfig} {h : QueueHistory T}

theorem inv_new : Inv config (new config : QueueHistory T) where
  capacity := rfl
  policy := rfl
  bounded := Nat.zero_le _
  connected := rfl
  emptied := fun _ => rfl

theorem inv_tryEnqueue (inv : Inv config h) (lock : TryLock) (item : T) :
    Inv config (h.tryEnqueue lock item) := by
  cases lock with
  | poisoned | contended => exact { inv with }
  | acquired =>
    have positive := config.positive
    simp only [tryEnqueue, SharedQueue.tryEnqueue]
    rcases enqueueLocked_cases h.queue.inner item with
      ⟨_, same⟩ | ⟨connected, room, same⟩ | ⟨_, _, _, same⟩ | ⟨connected, full, _, same⟩
    · rw [same]
      exact { inv with }
    · rw [same]
      have bound := inv.capacity
      refine ⟨inv.capacity, inv.policy, ?_, inv.connected, ?_⟩
      · simp only [QueueInner.recordEnqueue, QueueInner.pushBack, List.length_append,
          List.length_singleton]
        omega
      · intro dropped
        exact absurd (inv.connected.symm.trans connected) (by simpa using dropped)
    · rw [same]
      exact { inv with }
    · rw [same]
      have bound := inv.bounded
      refine ⟨inv.capacity, inv.policy, ?_, inv.connected, ?_⟩
      · simp only [QueueInner.recordEnqueue, QueueInner.pushBack, QueueInner.recordDrop,
          QueueInner.popFront, List.length_append, List.length_singleton, List.length_tail]
        omega
      · intro dropped
        exact absurd (inv.connected.symm.trans connected) (by simpa using dropped)

theorem pollWorker_eq (h : QueueHistory T) : h.pollWorker = h.tryRecv := by
  simp only [pollWorker, tryRecv, SharedQueue.pollWorker, SharedQueue.tryRecv]
  cases h.queue.inner.buf.head? with
  | some item => rfl
  | none => by_cases producers : h.queue.inner.popFront.producers = 0 <;> simp [producers]

theorem tryRecv_queue (h : QueueHistory T) :
    h.tryRecv.queue = { h.queue with inner := h.queue.inner.popFront } := by
  simp only [tryRecv, SharedQueue.tryRecv]
  cases h.queue.inner.buf.head? <;> rfl

theorem tryRecv_nil (empty : h.queue.inner.buf = []) : h.tryRecv = h := by
  obtain ⟨⟨⟨buf, capacity, policy, connected, producers, total, drops⟩, slots⟩, rest⟩ := h
  obtain rfl := empty
  rfl

theorem tryRecv_cons {item : T} {rest : List T} (oldest : h.queue.inner.buf = item :: rest) :
    h.tryRecv.channel =
      { h.channel with buffered := rest, received := h.received ++ [item] } := by
  simp [tryRecv, SharedQueue.tryRecv, QueueInner.popFront, channel, oldest]

theorem inv_tryRecv (inv : Inv config h) : Inv config h.tryRecv := by
  have bound := inv.bounded
  have popped : Inv config { h with queue := { h.queue with inner := h.queue.inner.popFront } } :=
    { inv with
      bounded := by
        simp only [QueueInner.popFront, List.length_tail]
        omega
      emptied := by
        intro dropped
        simp [QueueInner.popFront, inv.emptied dropped] }
  simp only [tryRecv, SharedQueue.tryRecv]
  cases h.queue.inner.buf.head? with
  | none => exact popped
  | some item => exact { popped with }

theorem inv_step (inv : Inv config h) (op : QueueOp T) : Inv config (h.step op) := by
  cases op with
  | tryEnqueue lock item => exact inv_tryEnqueue inv lock item
  | recordPublishLoss lock reason => cases lock <;> exact { inv with }
  | tryRecv =>
    simp only [step]
    split_ifs
    · exact inv_tryRecv inv
    · exact inv
  | pollWorker =>
    simp only [step, pollWorker_eq]
    split_ifs
    · exact inv_tryRecv inv
    · exact inv
  | recordLoss reason =>
    simp only [step]
    split_ifs
    · exact { inv with }
    · exact inv
  | dropConsumer =>
    simp only [step]
    split_ifs
    · exact ⟨inv.capacity, inv.policy, Nat.zero_le _, rfl, fun _ => rfl⟩
    · exact inv
  | cloneProducer | dropProducer => exact { inv with }

theorem inv_reachable (reachable : (system config).Reachable h) : Inv config h := by
  refine reachable.invariant (Inv config) ?_ ?_
  · rintro h rfl
    exact inv_new
  · rintro h op after _ inv rfl
    exact inv_step inv op

theorem tryEnqueue_refines (inv : Inv config h) (lock : TryLock) (item : T) :
    Channel.system.Run h.channel (h.actions (.tryEnqueue lock item))
      (h.tryEnqueue lock item).channel := by
  have lose : Channel.system.Run h.channel [.lose item] (h.channel.lose item) := .single rfl
  cases lock with
  | poisoned | contended => exact lose
  | acquired =>
    simp only [actions, tryEnqueue, SharedQueue.tryEnqueue]
    rcases enqueueLocked_cases h.queue.inner item with
      ⟨_, same⟩ | ⟨_, room, same⟩ | ⟨_, _, _, same⟩ | ⟨_, full, _, same⟩
    · rw [same]
      exact lose
    · rw [same]
      simp only [if_pos room]
      exact .single rfl
    · rw [same]
      exact lose
    · rw [same]
      simp only [if_neg (Nat.not_lt.mpr full)]
      -- A positive capacity that is reached leaves an oldest item to evict.
      have positive := config.positive
      have bound := inv.capacity
      cases oldest : h.queue.inner.buf with
      | nil =>
        rw [oldest] at full
        simp only [List.length_nil] at full
        omega
      | cons first rest =>
        have evict : Channel.system.Run h.channel [.evict] { h.channel with buffered := rest } :=
          .single ⟨first, oldest, rfl⟩
        have accept : Channel.system.Run { h.channel with buffered := rest } [.accept item]
            ({ h.channel with buffered := rest }.accept item) := .single rfl
        have popped : h.queue.inner.popFront.buf = rest := by simp [QueueInner.popFront, oldest]
        have run := evict.append accept
        simp only [Channel.accept, ← popped] at run
        exact run

theorem tryRecv_refines (h : QueueHistory T) :
    Channel.system.Run h.channel (if h.queue.inner.buf ≠ [] then [.receive] else [])
      h.tryRecv.channel := by
  cases oldest : h.queue.inner.buf with
  | nil =>
    rw [tryRecv_nil oldest]
    exact .nil _
  | cons item rest =>
    rw [tryRecv_cons oldest]
    exact .single ⟨item, oldest, rfl⟩

theorem step_refines (inv : Inv config h) (op : QueueOp T) :
    Channel.system.Run h.channel (h.actions op) (h.step op).channel := by
  cases op with
  | tryEnqueue lock item => exact tryEnqueue_refines inv lock item
  | recordPublishLoss lock reason => cases lock <;> exact .nil _
  | tryRecv =>
    simp only [step, actions]
    cases h.live with
    | true => simpa using tryRecv_refines h
    | false => exact .nil _
  | pollWorker =>
    simp only [step, actions, pollWorker_eq]
    cases h.live with
    | true => simpa using tryRecv_refines h
    | false => exact .nil _
  | recordLoss reason =>
    simp only [step, actions]
    cases h.live <;> exact .nil _
  | dropConsumer =>
    simp only [step, actions]
    cases h.live with
    | true => exact h.channel.run_evictAll
    | false => exact .nil _
  | cloneProducer | dropProducer => exact .nil _

def refinesChannel (config : QueueConfig) :
    Simulation (system config : System (QueueHistory T) (QueueOp T))
      (Channel.system : System (Channel T) (Action T)) where
  relation := fun h c => Inv config h ∧ c = h.channel
  initial := by
    rintro h rfl
    exact ⟨Channel.empty, rfl, inv_new, rfl⟩
  step := by
    rintro h op after c ⟨inv, rfl⟩ rfl
    exact ⟨h.actions op, (h.step op).channel, step_refines inv op, inv_step inv op, rfl⟩

theorem channel_reachable (reachable : (system config).Reachable h) :
    Channel.system.Reachable h.channel := by
  obtain ⟨c, reached, _, same⟩ := (refinesChannel config).reachable reachable
  exact same ▸ reached

theorem ordered_reachable (reachable : (system config).Reachable h) : h.channel.Ordered := by
  obtain ⟨start, actions, rfl, run⟩ := channel_reachable reachable
  exact Channel.ordered_empty.run run

-- While the consumer lives, an accepted item is lost only to a newer one in a full queue.
theorem evict_full (inv : Inv config h) {op : QueueOp T} (consumed : op ≠ .dropConsumer)
    (evicted : Action.evict ∈ h.actions op) :
    h.queue.inner.buf.length = config.capacity ∧ config.policy = .dropOldest := by
  cases op with
  | tryEnqueue lock item =>
    cases lock with
    | poisoned | contended => simp [actions, SharedQueue.tryEnqueue] at evicted
    | acquired =>
      simp only [actions, SharedQueue.tryEnqueue] at evicted
      rcases enqueueLocked_cases h.queue.inner item with
        ⟨_, same⟩ | ⟨_, room, same⟩ | ⟨_, _, _, same⟩ | ⟨_, full, policy, same⟩
      · simp [same] at evicted
      · simp [same, room] at evicted
      · simp [same] at evicted
      · have bound := inv.bounded
        rw [inv.capacity] at full
        exact ⟨by omega, inv.policy.symm.trans policy⟩
  | tryRecv | pollWorker =>
    simp only [actions] at evicted
    split_ifs at evicted <;> simp at evicted
  | dropConsumer => exact absurd rfl consumed
  | recordPublishLoss _ _ | recordLoss _ | cloneProducer | dropProducer => simp [actions] at evicted

theorem quiet_offered (h : QueueHistory T) {op : QueueOp T}
    (quiet : ∀ lock item, op ≠ .tryEnqueue lock item) : (h.step op).offered = h.offered := by
  cases op with
  | tryEnqueue lock item => exact absurd rfl (quiet lock item)
  | recordPublishLoss _ _ | cloneProducer | dropProducer => rfl
  | tryRecv =>
    simp only [step, tryRecv]
    split_ifs
    · split <;> rfl
    · rfl
  | pollWorker =>
    simp only [step, pollWorker]
    split_ifs
    · split <;> rfl
    · rfl
  | recordLoss _ | dropConsumer =>
    simp only [step]
    split_ifs <;> rfl

theorem step_live {op : QueueOp T} (live : (h.step op).live = true) :
    h.live = true ∧ op ≠ .dropConsumer := by
  cases op with
  | tryEnqueue _ _ | recordPublishLoss _ _ | cloneProducer | dropProducer =>
    exact ⟨live, by simp⟩
  | tryRecv | pollWorker | recordLoss _ =>
    simp only [step] at live
    split_ifs at live with alive
    · exact ⟨alive, by simp⟩
    · exact absurd live alive
  | dropConsumer =>
    simp only [step] at live
    split_ifs at live with alive
    exact absurd live alive

theorem lossless_reachable (reachable : (system config).Reachable h)
    (rejecting : config.policy = .rejectNewest) : h.live = true → h.channel.Lossless := by
  refine reachable.invariant (fun h => h.live = true → h.channel.Lossless) ?_ ?_
  · rintro h rfl _
    rfl
  · rintro h op after reached lossless rfl live
    have inv := inv_reachable reached
    obtain ⟨alive, consumed⟩ := step_live live
    refine (lossless alive).run (step_refines inv op) (fun evicted => ?_)
    have dropping := (evict_full inv consumed evicted).2
    rw [rejecting] at dropping
    exact absurd dropping (by decide)

theorem tryEnqueue_newest (queue : SharedQueue T) (lock : TryLock) {item : T}
    (fresh : item ∉ queue.inner.buf) :
    (queue.tryEnqueue lock item).1 = .ok ⟨⟩ ↔
      (queue.tryEnqueue lock item).2.inner.buf.getLast? = some item := by
  have absent : queue.inner.buf.getLast? ≠ some item :=
    fun newest => fresh (List.mem_of_getLast? newest)
  cases lock with
  | poisoned | contended => simp [SharedQueue.tryEnqueue, SharedQueue.recordLockFreeDrop, absent]
  | acquired =>
    simp only [SharedQueue.tryEnqueue]
    rcases enqueueLocked_cases queue.inner item with
      ⟨_, same⟩ | ⟨_, _, same⟩ | ⟨_, _, _, same⟩ | ⟨_, _, _, same⟩ <;>
        simp [same, QueueInner.recordDrop, QueueInner.pushBack, QueueInner.recordEnqueue, absent]

theorem tryEnqueue_disconnected (inv : Inv config h) (dropped : h.live = false) (item : T) :
    (h.queue.tryEnqueue .acquired item).1 = .error .disconnected := by
  have connected := inv.connected.trans dropped
  simp [SharedQueue.tryEnqueue, SharedQueue.enqueueLocked, connected]

end QueueHistory

def QueueOp.numbered {T : Type} (position : Nat) : QueueOp T → QueueOp (Nat × T)
  | .tryEnqueue lock item => .tryEnqueue lock (position, item)
  | .recordPublishLoss lock reason => .recordPublishLoss lock reason
  | .tryRecv => .tryRecv
  | .pollWorker => .pollWorker
  | .recordLoss reason => .recordLoss reason
  | .dropConsumer => .dropConsumer
  | .cloneProducer => .cloneProducer
  | .dropProducer => .dropProducer

namespace QueueHistory

variable {T : Type}

def stepNumbered (h : QueueHistory (Nat × T)) (op : QueueOp T) : QueueHistory (Nat × T) :=
  h.step (op.numbered h.offered.length)

def runNumbered (config : QueueConfig) (ops : List (QueueOp T)) : QueueHistory (Nat × T) :=
  ops.foldl stepNumbered (new config)

theorem runNumbered_reachable (config : QueueConfig) (ops : List (QueueOp T)) :
    (system config).Reachable (runNumbered config ops) := by
  induction ops using List.reverseRecOn with
  | nil => exact .start rfl
  | append_singleton ops op ih =>
    simp only [runNumbered, List.foldl_append, List.foldl_cons, List.foldl_nil]
    exact ih.step rfl

theorem step_offered (h : QueueHistory (Nat × T)) (op : QueueOp T) :
    (h.stepNumbered op).offered = h.offered ∨
      ∃ item, (h.stepNumbered op).offered = h.offered ++ [(h.offered.length, item)] := by
  cases op with
  | tryEnqueue lock item => exact .inr ⟨item, rfl⟩
  | recordPublishLoss _ _ | tryRecv | pollWorker | recordLoss _ | dropConsumer | cloneProducer |
    dropProducer =>
    exact .inl (h.quiet_offered (by simp [QueueOp.numbered]))

theorem numbered_offered (config : QueueConfig) (ops : List (QueueOp T)) :
    (runNumbered config ops).offered.map Prod.fst =
      List.range (runNumbered config ops).offered.length := by
  induction ops using List.reverseRecOn with
  | nil => rfl
  | append_singleton ops op ih =>
    simp only [runNumbered, List.foldl_append, List.foldl_cons, List.foldl_nil]
    rcases step_offered (ops.foldl stepNumbered (new config)) op with same | ⟨item, appended⟩
    · rw [same]
      exact ih
    · rw [appended, List.map_append, List.length_append, List.length_singleton, List.range_succ]
      simpa [runNumbered] using ih

theorem numbered_nodup (config : QueueConfig) (ops : List (QueueOp T)) :
    (runNumbered config ops).offered.Nodup := by
  refine List.Nodup.of_map Prod.fst ?_
  rw [numbered_offered]
  exact List.nodup_range

theorem numbered_fresh (config : QueueConfig) (ops : List (QueueOp T)) (payload : T) :
    ((runNumbered config ops).offered.length, payload) ∉ (runNumbered config ops).offered := by
  intro member
  have number := List.mem_map_of_mem (f := Prod.fst) member
  rw [numbered_offered, List.mem_range] at number
  exact Nat.lt_irrefl _ number

theorem queue_refines_lossy_channel (config : QueueConfig) (ops : List (QueueOp T)) (payload : T)
    (lock : TryLock) (next : QueueOp (Nat × T)) :
    let h := runNumbered config ops
    let buf := h.queue.inner.buf
    let item := (h.offered.length, payload)
    let reply := h.queue.tryEnqueue lock item
    Channel.system.Reachable h.channel ∧
    buf.length ≤ config.capacity ∧
    (h.received ++ buf).Sublist h.offered ∧ (h.received ++ buf).Nodup ∧
    (reply.1 = .ok ⟨⟩ ↔ reply.2.inner.buf.getLast? = some item) ∧
    (h.live = true → config.policy = .dropOldest → buf <:+ h.accepted) ∧
    (next ≠ .dropConsumer → ∀ gone ∈ buf,
      gone ∉ (h.step next).received ++ (h.step next).queue.inner.buf →
        buf.length = config.capacity ∧ config.policy = .dropOldest) ∧
    (h.live = true → config.policy = .rejectNewest → h.accepted = h.received ++ buf) ∧
    (h.live = false → buf = [] ∧ (lock = .acquired → reply.1 = .error .disconnected)) := by
  intro h buf item reply
  have reachable : (system config).Reachable h := runNumbered_reachable config ops
  have inv := inv_reachable reachable
  have ordered := ordered_reachable reachable
  have sublist : (h.received ++ buf).Sublist h.offered := ordered.sublist
  have distinct : (h.received ++ buf).Nodup := (numbered_nodup config ops).sublist sublist
  have fresh : item ∉ buf := by
    intro buffered
    have offered := sublist.subset (List.mem_append_right _ buffered)
    exact numbered_fresh config ops payload offered
  refine ⟨channel_reachable reachable, inv.bounded, sublist, distinct,
    tryEnqueue_newest h.queue lock fresh, fun _ _ => ordered.suffix, ?_,
    fun live rejecting => lossless_reachable reachable rejecting live, ?_⟩
  · intro consumed gone member lost
    by_contra kept
    exact lost (Channel.mem_run (step_refines inv next)
      (fun evicted => kept (evict_full inv consumed evicted)) (List.mem_append_right _ member))
  · intro dropped
    refine ⟨inv.emptied dropped, ?_⟩
    rintro rfl
    exact tryEnqueue_disconnected inv dropped item

end QueueHistory

end ThalamicRelay
