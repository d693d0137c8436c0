import ThalamicRelay.Publish.Publisher
import ThalamicRelay.Supervisor.Stamping

set_option autoImplicit false

namespace ThalamicRelay

open BinaryFloat Saturating

def IpcMessage.batch : IpcMessage → StimulusBatch
  | .stimuli batch => batch

def StimulusBatch.key (batch : StimulusBatch) : Option String × Nat :=
  (batch.sessionId, batch.batchId)

def Startup.publisherSession (startup : Startup) : Option String :=
  if startup.cli.ipcSessionId = "" then none else some startup.cli.ipcSessionId

/-- The session of the publisher that is built, or none for AbsentPublisher. Whether an endpoint
parses and whether the worker and its socket could be had are answers of the platform. -/
def Startup.buildPublisher (parses : String → Bool) (spawned : Bool) (startup : Startup) :
    Option (Option String) :=
  if startup.cli.ipcDisabled then none
  else if parses startup.cli.ipcEndpoint then
    if spawned then some startup.publisherSession else none
  else none

def Startup.sessionId (startup : Startup) : String :=
  startup.publisherSession.getD startup.generatedSessionId

/-- One run of the executable: the loop, the publisher that was built and the worker behind its
queue. -/
structure RelayProcess where
  supervisor : Supervisor
  publication : Publication
  published : Nat
  running : Bool

inductive ProcessStep
  | iterate (input : Iteration)
  | publish (contended : Bool) (now : Nat)
  | poll
  | sendSucceeded
  | sendFailed
  | dropConsumer
  | stop

namespace RelayProcess

def start (startup : Startup) (config : QueueConfig) : RelayProcess where
  supervisor := startup.initial
  publication := .new config startup.publisherSession
  published := 0
  running := true

def work (validate : StimulusBatch → Option String) (p : RelayProcess) (label : PublicationStep) :
    RelayProcess :=
  { p with publication := p.publication.step validate label }

def publish (validate : StimulusBatch → Option String) (p : RelayProcess) (contended : Bool)
    (frame : TelemetryFrame) (now : Nat) : RelayProcess :=
  { p with
    publication := p.publication.step validate
      (.tryPublish contended (frame.toSensoryMappingAt binary32.round now))
    published := p.published + 1 }

-- The loop ignores what a publish returns, so an iteration's publishes may follow its other work.
def step (validate : StimulusBatch → Option String) (startup : Startup) (p : RelayProcess) :
    ProcessStep → RelayProcess
  | .iterate input =>
    if p.running ∧ p.published = p.supervisor.offers.length then
      { p with supervisor := p.supervisor.iterate startup.cli input }
    else p
  | .publish contended now =>
    match p.supervisor.offers[p.published]? with
    | none => p
    | some frame =>
      -- SampleClock::stamp panics before it returns the last id.
      if p.running ∧ frame.batchId < u64Max then p.publish validate contended frame now else p
  | .poll => p.work validate .poll
  | .sendSucceeded => p.work validate .sendSucceeded
  | .sendFailed => p.work validate .sendFailed
  | .dropConsumer => p.work validate .dropConsumer
  | .stop =>
    if p.running then { p.work validate .dropPublisher with running := false } else p

def run (validate : StimulusBatch → Option String) (startup : Startup) (config : QueueConfig)
    (labels : List ProcessStep) : RelayProcess :=
  labels.foldl (step validate startup) (start startup config)

def taken (p : RelayProcess) : List StimulusBatch :=
  p.publication.history.received.map IpcMessage.batch

end RelayProcess

end ThalamicRelay
