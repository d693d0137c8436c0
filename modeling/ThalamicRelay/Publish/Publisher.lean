import ThalamicRelay.Publish.Batch
import ThalamicRelay.Publish.QueueRuns

set_option autoImplicit false

namespace ThalamicRelay

open Transition

structure CorpusIpcPublisher where
  queue : SharedQueue IpcMessage
  sessionId : Option String
  sessionSeq : Nat

namespace CorpusIpcPublisher

/-- The batch of one mapping and the sequence left behind; the atomic's addition wraps. -/
def nextBatch (publisher : CorpusIpcPublisher) (mapping : SensoryMapping) : StimulusBatch × Nat :=
  match publisher.sessionId with
  | some id =>
    (mappingToStimulusBatch mapping (some id) publisher.sessionSeq,
      (publisher.sessionSeq + 1) % 0x10000000000000000)
  | none =>
    (mappingToStimulusBatch mapping (some mapping.sessionId) mapping.batchId, publisher.sessionSeq)

-- The batch's own validation belongs to corpus-ipc: an error message, or none.
def tryPublish (validate : StimulusBatch → Option String) (publisher : CorpusIpcPublisher)
    (lock : TryLock) (mapping : SensoryMapping) : PublishResult × CorpusIpcPublisher :=
  let (batch, sessionSeq) := publisher.nextBatch mapping
  match validate batch with
  | some message =>
    (.error (.sendFailed message),
      { publisher with
        queue := publisher.queue.recordPublishLoss lock .sendFailed, sessionSeq := sessionSeq })
  | none =>
    let (result, queue) := publisher.queue.tryEnqueue lock (.stimuli batch)
    (result, { publisher with queue := queue, sessionSeq := sessionSeq })

end CorpusIpcPublisher

/-- A publisher, its worker and the counts of what they did. -/
structure Publication where
  history : QueueHistory IpcMessage
  sessionId : Option String
  sessionSeq : Nat
  holding : Option IpcMessage
  offered : Nat
  sent : Nat
  discarded : Nat

inductive PublicationStep
  | tryPublish (contended : Bool) (mapping : SensoryMapping)
  | poll
  | sendSucceeded
  | sendFailed
  | dropConsumer
  | clonePublisher
  | dropPublisher

def TryLock.unpoisoned (contended : Bool) : TryLock :=
  if contended then .contended else .acquired

namespace Publication

def publisher (p : Publication) : CorpusIpcPublisher where
  queue := p.history.queue
  sessionId := p.sessionId
  sessionSeq := p.sessionSeq

def new (config : QueueConfig) (sessionId : Option String) : Publication where
  history := .new config
  sessionId := sessionId
  sessionSeq := 0
  holding := none
  offered := 0
  sent := 0
  discarded := 0

def publishOp (validate : StimulusBatch → Option String) (p : Publication) (lock : TryLock)
    (mapping : SensoryMapping) : QueueOp IpcMessage :=
  let batch := (p.publisher.nextBatch mapping).1
  match validate batch with
  | some _ => .recordPublishLoss lock .sendFailed
  | none => .tryEnqueue lock (.stimuli batch)

def tryPublish (validate : StimulusBatch → Option String) (p : Publication) (lock : TryLock)
    (mapping : SensoryMapping) : Publication :=
  { p with
    history := p.history.step (p.publishOp validate lock mapping)
    sessionSeq := (p.publisher.nextBatch mapping).2
    offered := p.offered + 1 }

theorem tryPublish_publisher (validate : StimulusBatch → Option String) (p : Publication)
    (lock : TryLock) (mapping : SensoryMapping) :
    let reply := p.publisher.tryPublish validate lock mapping
    let published := p.tryPublish validate lock mapping
    published.publisher = reply.2 ∧
      published.history.accepted =
        match reply.1 with
        | .ok _ => p.history.accepted ++ [.stimuli (p.publisher.nextBatch mapping).1]
        | .error _ => p.history.accepted := by
  simp only [tryPublish, publishOp, CorpusIpcPublisher.tryPublish]
  cases validate (p.publisher.nextBatch mapping).1 with
  | some message => exact ⟨rfl, rfl⟩
  | none => exact ⟨rfl, rfl⟩

-- The worker drops the consumer when its loop ends, which is when the poll finds it finished.
def poll (p : Publication) : Publication :=
  let polled := p.history.step .pollWorker
  match p.history.queue.pollWorker.1 with
  | .message item => { p with history := polled, holding := some item }
  | .idle => { p with history := polled }
  | .finished => { p with history := polled.step .dropConsumer }

def sendFailed (p : Publication) : Publication :=
  { p with history := p.history.step (.recordLoss .sendFailed), holding := none }

def dropConsumer (p : Publication) : Publication :=
  { p with
    history := p.history.step .dropConsumer
    discarded := p.discarded + p.history.queue.inner.buf.length }

-- The worker polls only with nothing in hand, and holds the consumer while it sends.
def step (validate : StimulusBatch → Option String) (p : Publication) :
    PublicationStep → Publication
  | .tryPublish contended mapping => p.tryPublish validate (.unpoisoned contended) mapping
  | .poll => if p.history.live ∧ p.holding = none then p.poll else p
  | .sendSucceeded =>
    if p.history.live ∧ p.holding.isSome then { p with holding := none, sent := p.sent + 1 } else p
  | .sendFailed => if p.history.live ∧ p.holding.isSome then p.sendFailed else p
  | .dropConsumer => if p.history.live then p.dropConsumer else p
  | .clonePublisher => { p with history := p.history.step .cloneProducer }
  | .dropPublisher => { p with history := p.history.step .dropProducer }

def system (validate : StimulusBatch → Option String) (config : QueueConfig)
    (sessionId : Option String) : System Publication PublicationStep :=
  .ofFunction (fun p => p = new config sessionId) (step validate)

theorem step_history (validate : StimulusBatch → Option String) (p : Publication)
    (label : PublicationStep) :
    ∃ ops, (p.step validate label).history = p.history.run ops := by
  cases label with
  | tryPublish contended mapping =>
    exact ⟨[p.publishOp validate (.unpoisoned contended) mapping], rfl⟩
  | poll =>
    simp only [step]
    split_ifs
    · simp only [poll]
      cases p.history.queue.pollWorker.1 with
      | message item => exact ⟨[.pollWorker], rfl⟩
      | idle => exact ⟨[.pollWorker], rfl⟩
      | finished => exact ⟨[.pollWorker, .dropConsumer], rfl⟩
    · exact ⟨[], rfl⟩
  | sendSucceeded =>
    simp only [step]
    split_ifs <;> exact ⟨[], rfl⟩
  | sendFailed =>
    simp only [step]
    split_ifs
    · exact ⟨[.recordLoss .sendFailed], rfl⟩
    · exact ⟨[], rfl⟩
  | dropConsumer =>
    simp only [step]
    split_ifs
    · exact ⟨[.dropConsumer], rfl⟩
    · exact ⟨[], rfl⟩
  | clonePublisher => exact ⟨[.cloneProducer], rfl⟩
  | dropPublisher => exact ⟨[.dropProducer], rfl⟩

def refinesQueue (validate : StimulusBatch → Option String) (config : QueueConfig)
    (sessionId : Option String) :
    Simulation (system validate config sessionId)
      (QueueHistory.system config : System (QueueHistory IpcMessage) (QueueOp IpcMessage)) where
  relation := fun p h => p.history = h
  initial := by
    rintro p rfl
    exact ⟨.new config, rfl, rfl⟩
  step := by
    rintro p label after h rfl rfl
    obtain ⟨ops, same⟩ := step_history validate p label
    exact ⟨ops, p.history.run ops, System.run_ofFunction _ ops, same⟩

theorem history_reachable {validate : StimulusBatch → Option String} {config : QueueConfig}
    {sessionId : Option String} {p : Publication}
    (reachable : (system validate config sessionId).Reachable p) :
    (QueueHistory.system config).Reachable p.history := by
  obtain ⟨h, reached, rfl⟩ := (refinesQueue validate config sessionId).reachable reachable
  exact reached

end Publication

end ThalamicRelay
