import Mathlib.Data.List.Infix
import ThalamicRelay.Safety.Policy

set_option autoImplicit false

namespace ThalamicRelay

inductive SafetyStatus
  | ok
  | warn (message : String)
  | critical (message : String)
  deriving DecidableEq, Repr

inductive AssessmentKind
  | simulated
  | missing
  | invalid
  | stale
  | critical
  | warn
  | ok
  deriving DecidableEq, Repr

structure FrameAssessment where
  kind : AssessmentKind
  reason : String
  deriving DecidableEq, Repr

def contains (message needle : String) : Prop :=
  needle.toList <:+: message.toList

instance (message needle : String) : Decidable (contains message needle) :=
  inferInstanceAs (Decidable (_ <:+: _))

def kindFromCriticalStatus : SafetyStatus → AssessmentKind
  | .critical message =>
    if contains message "missing" then .missing
    else if contains message "invalid" then .invalid
    else if contains message "stale" then .stale
    else .critical
  | .warn _ => .warn
  | .ok => .ok

def statusReason : SafetyStatus → String
  | .ok => "ok"
  | .warn message | .critical message => message

def safetyValue (name : String) (sample : TelemetrySample) : Except SafetyStatus F32 :=
  match sample.validity with
  | .missing => .error (.critical ("Invalid telemetry: " ++ name ++ " missing"))
  | .invalid => .error (.critical ("Invalid telemetry: " ++ name ++ " invalid"))
  | .stale => .error (.critical ("Invalid telemetry: " ++ name ++ " stale"))
  | .valid =>
    match sample.value with
    | some value => .ok value
    | none => .error (.critical ("Invalid telemetry: " ++ name ++ " missing"))

def safetyReadings (frame : TelemetryFrame) : Except SafetyStatus (F32 × F32) := do
  let gpuTempC ← safetyValue "gpu_temp_c" frame.gpuTempC
  let powerW ← safetyValue "power_w" frame.powerW
  return (gpuTempC, powerW)

def sampleFaultRank (sample : TelemetrySample) (name : String) : Option (Nat × FrameAssessment) :=
  let fault := fun (rank : Nat) (kind : AssessmentKind) (label : String) =>
    some (rank, { kind := kind, reason := "Invalid telemetry: " ++ name ++ " " ++ label })
  match sample.validity with
  | .valid => if sample.value.isNone then fault 3 .missing "missing" else none
  | .stale => fault 1 .stale "stale"
  | .invalid => fault 2 .invalid "invalid"
  | .missing => fault 3 .missing "missing"

def worstSafetyFault (frame : TelemetryFrame) : Option FrameAssessment :=
  match sampleFaultRank frame.gpuTempC "gpu_temp_c", sampleFaultRank frame.powerW "power_w" with
  | none, none => none
  | some (_, a), none | none, some (_, a) => some a
  | some (rt, temp), some (rp, power) => if rp ≤ rt then some temp else some power

def classifyFrameWithPolicy (frame : TelemetryFrame) (policy : SafetyPolicy) : FrameAssessment :=
  if frame.source = .softwareFallback then
    { kind := .simulated, reason := "telemetry source is SoftwareFallback" }
  else match worstSafetyFault frame with
  | some fault => fault
  | none =>
    match safetyReadings frame with
    | .error status => { kind := kindFromCriticalStatus status, reason := statusReason status }
    | .ok (gpuTempC, powerW) =>
      if policy.config.maxAcquisitionIntervalMs < frame.acquisitionCadenceMs ∨
          policy.config.maxSampleAgeMs ≤ frame.acquiredAt - frame.gpuTempC.observedAt ∨
          policy.config.maxSampleAgeMs ≤ frame.acquiredAt - frame.powerW.observedAt then
        { kind := .stale
          reason := "sample age or acquisition interval exceeds safety policy" }
      else match policy.powerLimitsW with
      | none =>
        { kind := .missing
          reason := "power policy unavailable: provide device default or explicit limits" }
      | some (powerWarnW, powerCriticalW) =>
        let tempWarnC := policy.config.tempWarnC
        let tempCriticalC := policy.config.tempCriticalC
        if tempCriticalC < gpuTempC then
          { kind := .critical
            reason := "GPU thermal: " ++ gpuTempC.toWholeString ++ "°C exceeds " ++
              tempCriticalC.toWholeString ++ "°C" }
        else if powerCriticalW < powerW then
          { kind := .critical
            reason := "GPU power: " ++ powerW.toWholeString ++ "W exceeds " ++
              powerCriticalW.toWholeString ++ "W safety limit" }
        else if tempWarnC ≤ gpuTempC then
          { kind := .warn
            reason := "GPU thermal: " ++ gpuTempC.toWholeString ++ "°C approaching " ++
              tempCriticalC.toWholeString ++ "°C limit" }
        else if powerWarnW ≤ powerW then
          { kind := .warn
            reason := "GPU power: " ++ powerW.toWholeString ++ "W approaching safety limit" }
        else { kind := .ok, reason := "healthy real telemetry" }

def AssessmentKind.failsClosed : AssessmentKind → Bool
  | .missing | .invalid | .stale | .critical => true
  | .simulated | .warn | .ok => false

end ThalamicRelay
