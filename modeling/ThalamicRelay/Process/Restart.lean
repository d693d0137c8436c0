import ThalamicRelay.Process.WireOrder
import ThalamicRelay.Publish.Conservation

set_option autoImplicit false

namespace ThalamicRelay

open Transition BinaryFloat Saturating OrderedChannel

/-- What a restart keeps. -/
structure Configuration where
  cli : Cli
  policy : SafetyPolicy
  queue : QueueConfig

/-- What differs from one start of the executable to the next. -/
structure Lifetime where
  generatedSessionId : String
  currentW : Option UInt32
  defaultW : Option UInt32
  spawned : Bool
  labels : List ProcessStep

theorem QueueHistory.tryEnqueue_polled {T : Type} {h : QueueHistory T} (live : h.live = true)
    (connected : h.queue.inner.connected = true) (empty : h.queue.inner.buf = [])
    (room : 0 < h.queue.inner.capacity) (item : T) :
    let offered := h.step (.tryEnqueue .acquired item)
    offered.live = true ∧ offered.queue.pollWorker.1 = .message item ∧
      (offered.step .pollWorker).received = h.received ++ [item] := by
  have queued : (h.step (.tryEnqueue .acquired item)).queue.inner.buf = [item] := by
    simp [step, tryEnqueue, SharedQueue.tryEnqueue, SharedQueue.enqueueLocked, connected, empty,
      room]
  intro offered
  refine ⟨live, by simp [offered, SharedQueue.pollWorker, SharedQueue.tryRecv, queued], ?_⟩
  have alive : offered.live = true := live
  have received := congrArg Channel.received (tryRecv_cons queued)
  simp only [step, alive, if_true, pollWorker_eq]
  exact received

namespace Publication

variable {validate : StimulusBatch → Option String}

theorem sendSucceeded_history (p : Publication) :
    (p.step validate .sendSucceeded).history = p.history := by
  simp only [step]
  split_ifs <;> rfl

theorem first_received (queue : QueueConfig) (session : Option String) (mapping : SensoryMapping)
    (accepted : validate ((new queue session).publisher.nextBatch mapping).1 = none) :
    ([.tryPublish false mapping, .poll, .sendSucceeded].foldl (step validate)
      (new queue session)).history.received =
        [.stimuli ((new queue session).publisher.nextBatch mapping).1] := by
  let item := IpcMessage.stimuli ((new queue session).publisher.nextBatch mapping).1
  let offered := (new queue session).step validate (.tryPublish false mapping)
  have history : offered.history = (QueueHistory.new queue).step (.tryEnqueue .acquired item) := by
    simp only [offered, step, tryPublish, publishOp, accepted, item]
    rfl
  obtain ⟨live, polled, received⟩ := QueueHistory.tryEnqueue_polled (h := .new queue) rfl rfl rfl
    queue.positive item
  rw [← history] at live polled received
  have poll : (offered.step validate .poll).history.received = [item] := by
    have free : offered.holding = none := rfl
    simp only [step, live, free, and_self, if_true, Publication.poll, polled]
    exact received
  simp only [List.foldl_cons, List.foldl_nil, sendSucceeded_history]
  exact poll

end Publication

namespace Lifetime

variable {validate : StimulusBatch → Option String} {parses : String → Bool}
  {config : Configuration}

def startup (config : Configuration) (lifetime : Lifetime) : Startup where
  cli := config.cli
  policy := config.policy
  generatedSessionId := lifetime.generatedSessionId
  currentW := lifetime.currentW
  defaultW := lifetime.defaultW

def finish (validate : StimulusBatch → Option String) (config : Configuration)
    (lifetime : Lifetime) : RelayProcess :=
  .run validate (lifetime.startup config) config.queue lifetime.labels

-- AbsentPublisher has no queue and no worker: it answers every mapping with an error.
def taken (validate : StimulusBatch → Option String) (parses : String → Bool)
    (config : Configuration) (lifetime : Lifetime) : List StimulusBatch :=
  match (lifetime.startup config).buildPublisher parses lifetime.spawned with
  | none => []
  | some _ => (lifetime.finish validate config).taken

def transported (validate : StimulusBatch → Option String) (parses : String → Bool)
    (config : Configuration) (lifetimes : List Lifetime) : List (Option String × Nat) :=
  lifetimes.flatMap fun lifetime =>
    (lifetime.taken validate parses config).map StimulusBatch.key

def KeysUnique (validate : StimulusBatch → Option String) (parses : String → Bool)
    (config : Configuration) : Prop :=
  ∀ lifetimes : List Lifetime, (lifetimes.map (·.generatedSessionId)).Nodup →
    (transported validate parses config lifetimes).Nodup

/-- No start of the configuration builds a publisher. -/
def Unpublished (parses : String → Bool) (config : Configuration) : Prop :=
  config.cli.ipcDisabled = true ∨ parses config.cli.ipcEndpoint = false

theorem taken_cases (validate : StimulusBatch → Option String) (parses : String → Bool)
    (config : Configuration) (lifetime : Lifetime) :
    lifetime.taken validate parses config = [] ∨
      lifetime.taken validate parses config = (lifetime.finish validate config).taken := by
  unfold taken
  split
  next => exact .inl rfl
  next => exact .inr rfl

theorem taken_unpublished (unpublished : Unpublished parses config) (lifetime : Lifetime) :
    lifetime.taken validate parses config = [] := by
  have absent : (lifetime.startup config).buildPublisher parses lifetime.spawned = none := by
    rcases unpublished with disabled | unparsed
    next => simp [Startup.buildPublisher, startup, disabled]
    next => simp [Startup.buildPublisher, startup, unparsed]
  simp only [taken, absent]

theorem taken_spawned (published : ¬ Unpublished parses config) {lifetime : Lifetime}
    (spawned : lifetime.spawned = true) :
    lifetime.taken validate parses config = (lifetime.finish validate config).taken := by
  simp only [Unpublished, not_or, Bool.not_eq_true, Bool.not_eq_false] at published
  simp [taken, Startup.buildPublisher, startup, published, spawned]

theorem finish_inv (lifetime : Lifetime) :
    RelayProcess.Inv validate (lifetime.startup config) config.queue
      (lifetime.finish validate config) :=
  RelayProcess.inv_run lifetime.labels

theorem generated_session (default : config.cli.ipcSessionId = "") (lifetime : Lifetime) :
    (lifetime.startup config).sessionId = lifetime.generatedSessionId := by
  simp [startup, Startup.sessionId, Startup.publisherSession, default]

theorem taken_nodup (lifetime : Lifetime) :
    ((lifetime.taken validate parses config).map StimulusBatch.key).Nodup := by
  rcases lifetime.taken_cases validate parses config with absent | all
  next => simp [absent]
  next =>
    rw [all]
    exact RelayProcess.taken_nodup lifetime.finish_inv

theorem taken_session {lifetime : Lifetime} {key : Option String × Nat}
    (member : key ∈ (lifetime.taken validate parses config).map StimulusBatch.key) :
    key.1 = some (lifetime.startup config).sessionId := by
  rcases lifetime.taken_cases validate parses config with absent | all
  next => simp [absent] at member
  next =>
    rw [all] at member
    exact RelayProcess.taken_session lifetime.finish_inv member

theorem keysUnique_generated (default : config.cli.ipcSessionId = "") :
    KeysUnique validate parses config := by
  intro lifetimes distinct
  rw [transported, List.nodup_flatMap]
  refine ⟨fun lifetime _ => lifetime.taken_nodup, ?_⟩
  rw [List.Nodup, List.pairwise_map] at distinct
  refine distinct.imp ?_
  intro first second differ key here there
  have own := taken_session here
  have other := taken_session there
  rw [generated_session default] at own other
  simp only [own, Option.some.injEq] at other
  exact differ other

def single (generatedSessionId : String) (acquisition : Acquisition) (now : Nat) : Lifetime where
  generatedSessionId := generatedSessionId
  currentW := none
  defaultW := none
  spawned := true
  labels := [.iterate (.reading acquisition), .publish false now, .poll, .sendSucceeded]

def firstBatch (config : Configuration) (acquisition : Acquisition) (now : Nat) : StimulusBatch :=
  let clock := SampleClock.withSessionId config.cli.ipcSessionId
  mappingToStimulusBatch
    ((acquisition.assess config.cli clock).1.toSensoryMappingAt binary32.round now)
    (some config.cli.ipcSessionId) 0

/-- Some frame of the relay is not rejected by corpus-ipc. -/
def Accepting (validate : StimulusBatch → Option String) (config : Configuration) : Prop :=
  ∃ acquisition now, validate (firstBatch config acquisition now) = none

theorem single_taken (override : config.cli.ipcSessionId ≠ "") {acquisition : Acquisition}
    {now : Nat} (accepted : validate (firstBatch config acquisition now) = none)
    (generated : String) :
    ((single generated acquisition now).finish validate config).taken =
      [firstBatch config acquisition now] := by
  let startup := (single generated acquisition now).startup config
  let clock := SampleClock.withSessionId config.cli.ipcSessionId
  let frame := (acquisition.assess config.cli clock).1
  let mapping := frame.toSensoryMappingAt binary32.round now
  have session : startup.publisherSession = some config.cli.ipcSessionId := by
    simp [startup, Lifetime.startup, Startup.publisherSession, override]
  have offers : (startup.initial.iterate config.cli (.reading acquisition)).offers = [frame] := by
    rw [Supervisor.iterate_idle_offers _ (by rintro (_ | _) <;> rfl), Startup.initial_offers,
      Startup.initial_sampleClock]
    simp [startup, Lifetime.startup, override, frame, clock, Iteration.reading]
  have first : frame.batchId < u64Max := by
    change 0 < u64Max
    decide
  let begun := RelayProcess.start startup config.queue
  let read := { begun with supervisor := startup.initial.iterate config.cli (.reading acquisition) }
  have iterated : begun.step validate startup (.iterate (.reading acquisition)) = read := by
    simp only [RelayProcess.step, begun, RelayProcess.start, Startup.initial_offers]
    rfl
  have published : read.step validate startup (.publish false now) =
      read.publish validate false frame now := by
    have found : read.supervisor.offers[read.published]? = some frame := by
      simp only [read, offers]
      rfl
    simp only [RelayProcess.step, found]
    exact if_pos ⟨rfl, first⟩
  have publication : ((single generated acquisition now).finish validate config).publication =
      [.tryPublish false mapping, .poll, .sendSucceeded].foldl (Publication.step validate)
        (.new config.queue startup.publisherSession) := by
    change ((((begun.step validate startup (.iterate (.reading acquisition))).step validate startup
      (.publish false now)).step validate startup .poll).step validate startup
        .sendSucceeded).publication = _
    rw [iterated, published]
    rfl
  have batch : ((Publication.new config.queue startup.publisherSession).publisher.nextBatch
      mapping).1 = firstBatch config acquisition now := by
    rw [session]
    rfl
  rw [← batch] at accepted
  have received := Publication.first_received config.queue startup.publisherSession mapping accepted
  rw [← publication, batch] at received
  simp [RelayProcess.taken, received, IpcMessage.batch]

theorem keysUnique_unpublished (unpublished : Unpublished parses config) :
    KeysUnique validate parses config := by
  intro lifetimes _
  have untransported : transported validate parses config lifetimes = [] :=
    List.flatMap_eq_nil_iff.mpr fun lifetime _ => by simp [taken_unpublished unpublished]
  rw [untransported]
  exact List.nodup_nil

theorem keysUnique_fixed (override : config.cli.ipcSessionId ≠ "")
    (published : ¬ Unpublished parses config) (accepting : Accepting validate config) :
    ¬ KeysUnique validate parses config := by
  obtain ⟨acquisition, now, accepted⟩ := accepting
  intro unique
  have keys := unique [single "a" acquisition now, single "b" acquisition now]
    (by simp [single])
  have sent (generated : String) :
      (single generated acquisition now).taken validate parses config =
        [firstBatch config acquisition now] :=
    (taken_spawned published rfl).trans (single_taken override accepted generated)
  simp [transported, sent] at keys

def fixedSession (sessionId : String) : Configuration where
  cli := { forceSoftwareOnly := false, stepIntervalMs := 100, ipcSessionId := sessionId }
  policy := .eagerPolicy
  queue := Publication.singleConfig

theorem fixedSession_accepting (sessionId : String) :
    Accepting Publication.maskedValidate (fixedSession sessionId) := by
  refine ⟨.nvml (.finite 65) (.finite 200), 1700000000000, ?_⟩
  simp [Publication.maskedValidate, firstBatch, mappingToStimulusBatch]

theorem keysUnique_iff (accepting : Accepting validate config) :
    KeysUnique validate parses config ↔
      config.cli.ipcSessionId = "" ∨ Unpublished parses config := by
  constructor
  next =>
    intro unique
    by_contra fixed
    rw [not_or] at fixed
    exact keysUnique_fixed fixed.1 fixed.2 accepting unique
  next =>
    rintro (default | unpublished)
    next => exact keysUnique_generated default
    next => exact keysUnique_unpublished unpublished

theorem keysUnique_default :
    KeysUnique Publication.maskedValidate (· = "127.0.0.1:9900") (fixedSession "") :=
  (keysUnique_iff (fixedSession_accepting "")).mpr (.inl rfl)

-- Both starts send the pair of the configured id and 0.
theorem keys_repeated :
    ¬ KeysUnique Publication.maskedValidate (· = "127.0.0.1:9900") (fixedSession "vahtisiru") := by
  refine keysUnique_fixed (by decide) ?_ (fixedSession_accepting "vahtisiru")
  simp [Unpublished, fixedSession]

end Lifetime

end ThalamicRelay
