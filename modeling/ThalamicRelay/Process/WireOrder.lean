import ThalamicRelay.Process.Lifetime

set_option autoImplicit false

namespace ThalamicRelay

open Transition BinaryFloat Saturating

namespace Publication

variable {validate : StimulusBatch → Option String} {p : Publication}

theorem quiet_offered (validate : StimulusBatch → Option String) (p : Publication)
    {label : PublicationStep} (quiet : ∀ contended mapping, label ≠ .tryPublish contended mapping) :
    (p.step validate label).history.offered = p.history.offered ∧
      (p.step validate label).sessionId = p.sessionId ∧
      (p.step validate label).sessionSeq = p.sessionSeq := by
  cases label with
  | tryPublish contended mapping => exact absurd rfl (quiet contended mapping)
  | poll =>
    simp only [step]
    split_ifs
    next =>
      have polled : (p.history.step .pollWorker).offered = p.history.offered :=
        p.history.quiet_offered (by simp)
      simp only [poll]
      split
      next => exact ⟨polled, rfl, rfl⟩
      next => exact ⟨polled, rfl, rfl⟩
      next => exact ⟨(QueueHistory.quiet_offered _ (by simp)).trans polled, rfl, rfl⟩
    next => exact ⟨rfl, rfl, rfl⟩
  | sendSucceeded =>
    simp only [step]
    split_ifs <;> exact ⟨rfl, rfl, rfl⟩
  | sendFailed =>
    simp only [step]
    split_ifs
    next => exact ⟨p.history.quiet_offered (by simp), rfl, rfl⟩
    next => exact ⟨rfl, rfl, rfl⟩
  | dropConsumer =>
    simp only [step]
    split_ifs
    next => exact ⟨p.history.quiet_offered (by simp), rfl, rfl⟩
    next => exact ⟨rfl, rfl, rfl⟩
  | clonePublisher | dropPublisher => exact ⟨p.history.quiet_offered (by simp), rfl, rfl⟩

theorem tryPublish_offered (validate : StimulusBatch → Option String) (p : Publication)
    (contended : Bool) (mapping : SensoryMapping) :
    ((p.step validate (.tryPublish contended mapping)).history.offered.map (·.batch.key)).Sublist
      (p.history.offered.map (·.batch.key) ++ [(p.publisher.nextBatch mapping).1.key]) := by
  simp only [step, tryPublish, publishOp]
  split
  next =>
    rw [QueueHistory.quiet_offered _ (by simp)]
    exact List.sublist_append_left _ _
  next =>
    simp [QueueHistory.step, QueueHistory.tryEnqueue, IpcMessage.batch]

end Publication

def wireKey (override : Option String) (index : Nat) (frame : TelemetryFrame) :
    Option String × Nat :=
  match override with
  | some id => (some id, index)
  | none => (some frame.sessionId, frame.batchId)

def wireKeys (override : Option String) (frames : List TelemetryFrame) :
    List (Option String × Nat) :=
  frames.mapIdx (wireKey override)

theorem index_le_batchId {frames : List TelemetryFrame}
    (ascending : frames.Pairwise (·.batchId < ·.batchId)) {index : Nat} {frame : TelemetryFrame}
    (found : frames[index]? = some frame) : index ≤ frame.batchId := by
  induction index generalizing frame with
  | zero => exact Nat.zero_le _
  | succ index ih =>
    obtain ⟨bound, same⟩ := List.getElem?_eq_some_iff.mp found
    have earlier := ih (List.getElem?_eq_getElem (by omega : index < frames.length))
    have later := List.pairwise_iff_getElem.mp ascending index (index + 1) (by omega) bound
      (Nat.lt_succ_self index)
    rw [same] at later
    omega

theorem wireKeys_ascending {override : Option String} {frames : List TelemetryFrame}
    (ascending : frames.Pairwise (·.batchId < ·.batchId)) :
    (wireKeys override frames).Pairwise (·.2 < ·.2) := by
  rw [List.pairwise_iff_getElem] at ascending ⊢
  intro first second here there before
  simp only [wireKeys, List.getElem_mapIdx]
  cases override with
  | some id => exact before
  | none =>
    exact ascending first second (by simpa [wireKeys] using here) (by simpa [wireKeys] using there)
      before

theorem wireKeys_session {override : Option String} {frames : List TelemetryFrame}
    {session : String} (sessions : ∀ frame ∈ frames, frame.sessionId = session) :
    ∀ key ∈ wireKeys override frames, key.1 = some (override.getD session) := by
  intro key member
  obtain ⟨index, bound, rfl⟩ := List.mem_mapIdx.mp member
  cases override with
  | some id => rfl
  | none => simp [wireKey, sessions _ (List.getElem_mem bound)]

namespace RelayProcess

variable {validate : StimulusBatch → Option String} {startup : Startup} {config : QueueConfig}
  {p : RelayProcess}

structure Inv (validate : StimulusBatch → Option String) (startup : Startup)
    (config : QueueConfig) (p : RelayProcess) : Prop where
  supervised : startup.system.Reachable p.supervisor
  worked : (Publication.system validate config startup.publisherSession).Reachable p.publication
  override : p.publication.sessionId = startup.publisherSession
  sequence : startup.publisherSession.isSome = true → p.publication.sessionSeq = p.published
  bounded : p.published ≤ p.supervisor.offers.length
  offered : (p.publication.history.offered.map (·.batch.key)).Sublist
    (wireKeys startup.publisherSession (p.supervisor.offers.take p.published))

theorem inv_start : Inv validate startup config (start startup config) where
  supervised := .start rfl
  worked := .start rfl
  override := rfl
  sequence := fun _ => rfl
  bounded := Nat.zero_le _
  offered := .slnil

theorem inv_iterate (inv : Inv validate startup config p)
    (told : p.published = p.supervisor.offers.length) (input : Iteration) :
    Inv validate startup config
      { p with supervisor := p.supervisor.iterate startup.cli input } := by
  obtain ⟨frames, stamped⟩ := Supervisor.stamped_iterate startup.cli p.supervisor input
  have kept : (p.supervisor.offers ++ frames).take p.published =
      p.supervisor.offers.take p.published :=
    List.take_append_of_le_length inv.bounded
  have longer := inv.bounded
  exact { inv with
    supervised := inv.supervised.step rfl
    bounded := by
      simp only [stamped.offers, List.length_append]
      omega
    offered := by
      simp only [stamped.offers, kept]
      exact inv.offered }

theorem inv_quiet (inv : Inv validate startup config p) {label : PublicationStep}
    (quiet : ∀ contended mapping, label ≠ .tryPublish contended mapping) :
    Inv validate startup config (p.work validate label) := by
  obtain ⟨offered, override, sequence⟩ := p.publication.quiet_offered validate quiet
  exact { inv with
    worked := inv.worked.step rfl
    override := override.trans inv.override
    sequence := fun some => sequence.trans (inv.sequence some)
    offered := by
      simp only [work, offered]
      exact inv.offered }

theorem nextBatch_key (inv : Inv validate startup config p) {frame : TelemetryFrame}
    (now : Nat) :
    (p.publication.publisher.nextBatch (frame.toSensoryMappingAt binary32.round now)).1.key =
      wireKey startup.publisherSession p.published frame := by
  have override := inv.override
  have sequence := inv.sequence
  cases session : startup.publisherSession with
  | none =>
    rw [session] at override
    simp [CorpusIpcPublisher.nextBatch, Publication.publisher, override, StimulusBatch.key,
      mappingToStimulusBatch, wireKey, TelemetryFrame.toSensoryMappingAt]
  | some id =>
    rw [session] at override sequence
    simp [CorpusIpcPublisher.nextBatch, Publication.publisher, override, StimulusBatch.key,
      mappingToStimulusBatch, wireKey, sequence rfl]

theorem wireKeys_turn {override : Option String} {frames : List TelemetryFrame} {index : Nat}
    {frame : TelemetryFrame} (found : frames[index]? = some frame) :
    wireKeys override (frames.take (index + 1)) =
      wireKeys override (frames.take index) ++ [wireKey override index frame] := by
  obtain ⟨bound, _⟩ := List.getElem?_eq_some_iff.mp found
  have length : (frames.take index).length = index := List.length_take_of_le (by omega)
  rw [List.take_add_one, found]
  simp [wireKeys, List.mapIdx_append, length]

theorem nextBatch_sequence (inv : Inv validate startup config p)
    (session : startup.publisherSession.isSome = true) (fits : p.published < u64Max)
    (mapping : SensoryMapping) :
    (p.publication.publisher.nextBatch mapping).2 = p.published + 1 := by
  have override := inv.override
  have sequence := inv.sequence session
  obtain ⟨id, some⟩ := Option.isSome_iff_exists.mp session
  have bound : p.published + 1 < 0x10000000000000000 := by
    unfold u64Max at fits
    omega
  rw [some] at override
  simp [CorpusIpcPublisher.nextBatch, Publication.publisher, override, sequence,
    Nat.mod_eq_of_lt bound]

theorem inv_publish (inv : Inv validate startup config p) {frame : TelemetryFrame}
    (found : p.supervisor.offers[p.published]? = some frame) (fits : frame.batchId < u64Max)
    (contended : Bool) (now : Nat) :
    Inv validate startup config (p.publish validate contended frame now) := by
  let mapping := frame.toSensoryMappingAt binary32.round now
  obtain ⟨bound, _⟩ := List.getElem?_eq_some_iff.mp found
  have position := index_le_batchId (Startup.stamped_reachable startup inv.supervised).ascending
    found
  have offered := p.publication.tryPublish_offered validate contended mapping
  rw [nextBatch_key inv now] at offered
  have published : (Publication.system validate config startup.publisherSession).next
      p.publication (.tryPublish contended mapping)
      (p.publish validate contended frame now).publication := rfl
  exact {
    supervised := inv.supervised
    worked := inv.worked.step published
    override := inv.override
    sequence := fun session =>
      nextBatch_sequence inv session (Nat.lt_of_le_of_lt position fits) mapping
    bounded := bound
    offered := by
      simp only [RelayProcess.publish, wireKeys_turn found]
      exact offered.trans (inv.offered.append (.refl _)) }

theorem inv_step (inv : Inv validate startup config p) (label : ProcessStep) :
    Inv validate startup config (p.step validate startup label) := by
  cases label with
  | iterate input =>
    simp only [step]
    split_ifs
    next ready => exact inv_iterate inv ready.2 input
    next => exact inv
  | publish contended now =>
    simp only [step]
    split
    next => exact inv
    next frame found =>
      split_ifs
      next ready => exact inv_publish inv found ready.2 contended now
      next => exact inv
  | poll | sendSucceeded | sendFailed | dropConsumer => exact inv_quiet inv (by simp)
  | stop =>
    simp only [step]
    split_ifs
    next =>
      have stopped : Inv validate startup config (p.work validate .dropPublisher) :=
        inv_quiet inv (by simp)
      exact { stopped with }
    next => exact inv

theorem inv_run (labels : List ProcessStep) :
    Inv validate startup config (run validate startup config labels) := by
  induction labels using List.reverseRecOn with
  | nil => exact inv_start
  | append_singleton labels label ih =>
    simp only [run, List.foldl_append, List.foldl_cons, List.foldl_nil]
    exact inv_step ih label

theorem taken_keys (inv : Inv validate startup config p) :
    (p.taken.map StimulusBatch.key).Sublist
      (wireKeys startup.publisherSession (p.supervisor.offers.take p.published)) := by
  have ordered := QueueHistory.ordered_reachable (Publication.history_reachable inv.worked)
  have received : p.publication.history.received.Sublist p.publication.history.offered :=
    (List.sublist_append_left _ _).trans ordered.sublist
  simp only [taken, List.map_map]
  exact (received.map _).trans inv.offered

theorem offers_session (inv : Inv validate startup config p) :
    ∀ key ∈ wireKeys startup.publisherSession (p.supervisor.offers.take p.published),
      key.1 = some startup.sessionId := by
  have stamped := Startup.stamped_reachable startup inv.supervised
  intro key member
  rw [wireKeys_session (fun frame found => stamped.sessions frame (List.mem_of_mem_take found))
    key member, Startup.initial_sampleClock]
  simp only [Startup.sessionId, Startup.publisherSession]
  split_ifs <;> rfl

theorem taken_ascending (inv : Inv validate startup config p) :
    (p.taken.map StimulusBatch.key).Pairwise (·.2 < ·.2) := by
  have stamped := Startup.stamped_reachable startup inv.supervised
  have published := stamped.ascending.sublist (List.take_sublist p.published _)
  exact (wireKeys_ascending published).sublist (taken_keys inv)

theorem taken_session (inv : Inv validate startup config p) {key : Option String × Nat}
    (member : key ∈ p.taken.map StimulusBatch.key) : key.1 = some startup.sessionId :=
  offers_session inv key ((taken_keys inv).subset member)

theorem taken_nodup (inv : Inv validate startup config p) :
    (p.taken.map StimulusBatch.key).Nodup := by
  refine (taken_ascending inv).imp ?_
  intro earlier later before same
  rw [same] at before
  exact Nat.lt_irrefl _ before

theorem taken_in_order (validate : StimulusBatch → Option String) (startup : Startup)
    (config : QueueConfig) (labels : List ProcessStep) :
    let taken := (run validate startup config labels).taken
    (∀ batch ∈ taken, batch.sessionId = some startup.sessionId) ∧
      taken.Pairwise (·.batchId < ·.batchId) ∧ (taken.map StimulusBatch.key).Nodup := by
  intro taken
  have inv : Inv validate startup config (run validate startup config labels) := inv_run labels
  have ascending := taken_ascending inv
  rw [List.pairwise_map] at ascending
  refine ⟨?_, ascending, taken_nodup inv⟩
  intro batch member
  exact taken_session inv (List.mem_map_of_mem member)

-- The contended publish between the two leaves a gap.
example : (run (fun _ => none) (.leftover .eagerPolicy) ⟨1, .dropOldest, rfl⟩
    [.iterate .cool, .publish false 1700000000000, .poll, .sendSucceeded, .iterate .cool,
      .publish true 1700000000000, .iterate .cool, .publish false 1700000000000, .poll]).taken.map
        StimulusBatch.key = [(some "test", 0), (some "test", 2)] := by
  decide +kernel

end RelayProcess

end ThalamicRelay
