import Mathlib.Data.Nat.Init

set_option autoImplicit false

namespace ThalamicRelay

-- Instants are unix milliseconds, u64 in the source; only comparisons and differences occur.

inductive TimestampOrigin
  | liveAcquire
  | csvSource
  | simulated
  deriving DecidableEq, Repr

inductive SourceTimeStatus
  | inOrder
  | duplicate
  | backward
  | future
  | missing
  deriving DecidableEq, Repr

def SourceTimeStatus.classify (sourceUnixMs : Option Nat) (receivedAtUnixMs : Nat)
    (lastSourceUnixMs : Option Nat) : SourceTimeStatus :=
  match sourceUnixMs with
  | none => .missing
  | some src =>
    if receivedAtUnixMs < src then .future
    else match lastSourceUnixMs with
      | some prev => if src < prev then .backward else if src = prev then .duplicate else .inOrder
      | none => .inOrder

structure FrameTiming where
  sessionId : String
  batchId : Nat
  sourceUnixMs : Option Nat
  receivedAtUnixMs : Nat
  timestampOrigin : TimestampOrigin
  sourceTimeStatus : SourceTimeStatus
  deriving DecidableEq, Repr

structure SampleClock where
  sessionId : String
  nextBatchId : Nat
  lastSourceUnixMs : Option Nat
  deriving DecidableEq, Repr

def SampleClock.withSessionId (sessionId : String) : SampleClock where
  sessionId := sessionId
  nextBatchId := 0
  lastSourceUnixMs := none

-- The source panics on the stamp that would return batch 2 ^ 64 - 1; here the sequence goes on.
def SampleClock.stamp (clock : SampleClock) (sourceUnixMs : Option Nat)
    (receivedAtUnixMs : Nat) (timestampOrigin : TimestampOrigin) :
    FrameTiming × SampleClock :=
  ({ sessionId := clock.sessionId
     batchId := clock.nextBatchId
     sourceUnixMs := sourceUnixMs
     receivedAtUnixMs := receivedAtUnixMs
     timestampOrigin := timestampOrigin
     sourceTimeStatus :=
       SourceTimeStatus.classify sourceUnixMs receivedAtUnixMs clock.lastSourceUnixMs },
   { clock with
     nextBatchId := clock.nextBatchId + 1
     lastSourceUnixMs := sourceUnixMs <|> clock.lastSourceUnixMs })

end ThalamicRelay
