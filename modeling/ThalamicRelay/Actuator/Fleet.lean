import ThalamicRelay.Actuator.GpuTarget
import ThalamicRelay.Actuator.Hardware

set_option autoImplicit false

namespace ThalamicRelay

structure GpuDevice where
  uuid : List Char
  limits : PowerLimits
  deriving DecidableEq

abbrev Fleet := List GpuDevice

namespace Fleet

def deviceByUuid (fleet : Fleet) (uuid : List Char) : Option GpuDevice :=
  fleet.find? (·.uuid = uuid)

def update (fleet : Fleet) (uuid : List Char) (change : PowerLimits → PowerLimits) : Fleet :=
  fleet.map fun device =>
    if device.uuid = uuid then { device with limits := change device.limits } else device

end Fleet

/-- The program that the command runs, with what it documents of the two options used: -i picks the
device of a UUID and -pl sets its limit in watts. -/
structure NvidiaSmi where
  execute : List (List Char) → Fleet → Fleet
  scopes : ∀ (target : GpuTarget) (limitW : UInt32) (fleet : Fleet),
    execute ["-i".toList, target.uuid, "-pl".toList, Nat.toDigits 10 limitW.toNat] fleet =
      fleet.update target.uuid (·.set limitW)

inductive ActuatorCall
  | applyEmergencyBrake
  | releaseEmergencyBrake
  deriving DecidableEq, Repr

def PowerLimits.perform (limits : PowerLimits) (call : ActuatorCall) (attempt : Attempt) :
    TaskResult × PowerLimits :=
  match call with
  | .applyEmergencyBrake => limits.applyEmergencyBrake attempt
  | .releaseEmergencyBrake => limits.releaseEmergencyBrake attempt

structure NvmlActuator where
  target : Option GpuTarget

namespace NvmlActuator

variable (smi : NvidiaSmi)

def queryPowerLimitW (target : GpuTarget) (readable : Bool) (fleet : Fleet) : Option UInt32 :=
  if readable then (fleet.deviceByUuid target.uuid).map (·.limits.currentW) else none

def queryDefaultPowerLimitW (target : GpuTarget) (readable : Bool) (fleet : Fleet) :
    Option UInt32 :=
  if readable then (fleet.deviceByUuid target.uuid).map (·.limits.defaultW) else none

def plannedCommand (a : NvmlActuator) (limitW : UInt32) : Option (List (List Char)) :=
  a.target.map fun target => powerLimitCommandArgs target limitW

-- The first six arguments are timeout's own, sudo's and the program's name.
def runPowerLimitCommand (args : List (List Char)) (command : PowerLimitCommand)
    (limitW : UInt32) (fleet : Fleet) : TaskResult × Fleet :=
  let written := smi.execute (args.drop 6) fleet
  match command with
  | .succeeds => (.ok, written)
  | .notStarted message =>
    (.err (.commandFailed ("Failed to exec nvidia-smi: " ++ message)), fleet)
  | .fails wrote =>
    (.err (.commandFailed ("nvidia-smi -pl " ++ toString limitW ++
      " failed (timeout, missing passwordless sudo, or command error)")),
      if wrote then written else fleet)
  | .panics wrote message => (.panicked message, if wrote then written else fleet)

def runPowerLimit (a : NvmlActuator) (command : PowerLimitCommand) (limitW : UInt32)
    (fleet : Fleet) : TaskResult × Fleet :=
  match a.plannedCommand limitW with
  | none => (.err noTargetError, fleet)
  | some args => runPowerLimitCommand smi args command limitW fleet

def applyEmergencyBrake (a : NvmlActuator) (attempt : Attempt) (fleet : Fleet) :
    TaskResult × Fleet :=
  match a.target with
  | none => (.err noTargetError, fleet)
  | some target =>
    match planBrakeApply (queryPowerLimitW target attempt.currentReadable fleet)
      (queryDefaultPowerLimitW target attempt.defaultReadable fleet) brakeFraction with
    | .error error => (.err error, fleet)
    | .ok none => (.ok, fleet)
    | .ok (some limitW) => a.runPowerLimit smi attempt.command limitW fleet

def releaseEmergencyBrake (a : NvmlActuator) (attempt : Attempt) (fleet : Fleet) :
    TaskResult × Fleet :=
  match a.target with
  | none => (.err noTargetError, fleet)
  | some target =>
    match planBrakeRelease (queryPowerLimitW target attempt.currentReadable fleet)
      (queryDefaultPowerLimitW target attempt.defaultReadable fleet) with
    | .error error => (.err error, fleet)
    | .ok limitW => a.runPowerLimit smi attempt.command limitW fleet

def perform (a : NvmlActuator) (call : ActuatorCall) (attempt : Attempt) (fleet : Fleet) :
    TaskResult × Fleet :=
  match call with
  | .applyEmergencyBrake => a.applyEmergencyBrake smi attempt fleet
  | .releaseEmergencyBrake => a.releaseEmergencyBrake smi attempt fleet

variable {smi} {target : GpuTarget} {fleet : Fleet}

theorem runPowerLimit_target (smi : NvidiaSmi) (target : GpuTarget) (command : PowerLimitCommand)
    (limitW : UInt32) (fleet : Fleet) (limits : PowerLimits) :
    let reply := runPowerLimit smi ⟨some target⟩ command limitW fleet
    let device := limits.runPowerLimitCommand command limitW
    reply.1 = device.1 ∧ ((reply.2 = fleet ∧ device.2 = limits) ∨
      (reply.2 = fleet.update target.uuid (·.set limitW) ∧ device.2 = limits.set limitW)) := by
  have written : smi.execute ((powerLimitCommandArgs target limitW).drop 6) fleet =
      fleet.update target.uuid (·.set limitW) := smi.scopes target limitW fleet
  simp only [runPowerLimit, plannedCommand, Option.map_some, runPowerLimitCommand, written]
  cases command with
  | succeeds => exact ⟨rfl, .inr ⟨rfl, rfl⟩⟩
  | notStarted message => exact ⟨rfl, .inl ⟨rfl, rfl⟩⟩
  | fails wrote | panics wrote =>
    cases wrote with
    | false => exact ⟨rfl, .inl ⟨rfl, rfl⟩⟩
    | true => exact ⟨rfl, .inr ⟨rfl, rfl⟩⟩

theorem perform_target (smi : NvidiaSmi) (call : ActuatorCall) (attempt : Attempt)
    {device : GpuDevice} (found : fleet.deviceByUuid target.uuid = some device) :
    let reply := perform smi ⟨some target⟩ call attempt fleet
    let alone := device.limits.perform call { attempt with targetResolved := true }
    reply.1 = alone.1 ∧ ((reply.2 = fleet ∧ alone.2 = device.limits) ∨
      ∃ limitW, reply.2 = fleet.update target.uuid (·.set limitW) ∧
        alone.2 = device.limits.set limitW) := by
  have current : queryPowerLimitW target attempt.currentReadable fleet =
      PowerLimits.query attempt.currentReadable device.limits.currentW := by
    simp [queryPowerLimitW, PowerLimits.query, found]
  have default : queryDefaultPowerLimitW target attempt.defaultReadable fleet =
      PowerLimits.query attempt.defaultReadable device.limits.defaultW := by
    simp [queryDefaultPowerLimitW, PowerLimits.query, found]
  intro reply alone
  cases call with
  | applyEmergencyBrake =>
    simp only [reply, alone, perform, applyEmergencyBrake, PowerLimits.perform,
      PowerLimits.applyEmergencyBrake, current, default, Bool.true_eq_false, if_false]
    cases planBrakeApply (PowerLimits.query attempt.currentReadable device.limits.currentW)
        (PowerLimits.query attempt.defaultReadable device.limits.defaultW) brakeFraction with
    | error error => exact ⟨rfl, .inl ⟨rfl, rfl⟩⟩
    | ok planned =>
      cases planned with
      | none => exact ⟨rfl, .inl ⟨rfl, rfl⟩⟩
      | some limitW =>
        obtain ⟨same, kept | set⟩ := runPowerLimit_target smi target attempt.command
          limitW fleet device.limits
        · exact ⟨same, .inl kept⟩
        · exact ⟨same, .inr ⟨limitW, set⟩⟩
  | releaseEmergencyBrake =>
    simp only [reply, alone, perform, releaseEmergencyBrake, PowerLimits.perform,
      PowerLimits.releaseEmergencyBrake, current, default, Bool.true_eq_false, if_false]
    cases planBrakeRelease (PowerLimits.query attempt.currentReadable device.limits.currentW)
        (PowerLimits.query attempt.defaultReadable device.limits.defaultW) with
    | error error => exact ⟨rfl, .inl ⟨rfl, rfl⟩⟩
    | ok limitW =>
      obtain ⟨same, kept | set⟩ := runPowerLimit_target smi target attempt.command
        limitW fleet device.limits
      · exact ⟨same, .inl kept⟩
      · exact ⟨same, .inr ⟨limitW, set⟩⟩

theorem perform_absent (call : ActuatorCall) (attempt : Attempt)
    (absent : fleet.deviceByUuid target.uuid = none) :
    (perform smi ⟨some target⟩ call attempt fleet).2 = fleet := by
  have current : queryPowerLimitW target attempt.currentReadable fleet = none := by
    simp [queryPowerLimitW, absent]
  have unreadable (default : Option UInt32) :
      classifyPowerLimit none default brakeFraction = .unreadable := rfl
  obtain ⟨⟨refusal, refused⟩, denial, denied⟩ := plans_unreadable
    (unreadable (queryDefaultPowerLimitW target attempt.defaultReadable fleet))
  cases call with
  | applyEmergencyBrake => simp only [perform, applyEmergencyBrake, current, refused]
  | releaseEmergencyBrake => simp only [perform, releaseEmergencyBrake, current, denied]

theorem perform_unresolved (call : ActuatorCall) (attempt : Attempt) (fleet : Fleet) :
    perform smi ⟨none⟩ call attempt fleet = (.err noTargetError, fleet) := by
  cases call <;> rfl

end NvmlActuator

/-- The relay's calls, and what else happens to the machine: another enumeration order, cards that
come and go, and other programs that set the limits of any card. -/
inductive FleetStep
  | perform (call : ActuatorCall) (attempt : Attempt)
  | enumerate (order : List Nat)
  | plug (device : GpuDevice)
  | unplug (uuid : List Char)
  | foreign (uuid : List Char) (limits : PowerLimits)

def FleetStep.isForeign : FleetStep → Bool
  | .perform _ _ => false
  | .enumerate _ | .plug _ | .unplug _ | .foreign _ _ => true

namespace Fleet

variable (smi : NvidiaSmi) (target : GpuTarget)

def step (fleet : Fleet) : FleetStep → Fleet
  | .perform call attempt => (NvmlActuator.perform smi ⟨some target⟩ call attempt fleet).2
  | .enumerate order =>
    if order.Perm (List.range fleet.length) then order.filterMap (fleet[·]?) else fleet
  | .plug device =>
    if (fleet.deviceByUuid device.uuid).isSome then fleet else fleet ++ [device]
  | .unplug uuid => fleet.filter (·.uuid ≠ uuid)
  | .foreign uuid limits => fleet.update uuid (fun _ => limits)

def run (fleet : Fleet) (labels : List FleetStep) : Fleet :=
  labels.foldl (step smi target) fleet

def deviceStep (seen : Option PowerLimits) : FleetStep → Option PowerLimits
  | .perform call attempt =>
    seen.map fun limits => (limits.perform call { attempt with targetResolved := true }).2
  | .plug device =>
    if seen.isNone ∧ device.uuid = target.uuid then some device.limits else seen
  | .unplug uuid => if uuid = target.uuid then none else seen
  | .foreign uuid limits => if uuid = target.uuid then seen.map (fun _ => limits) else seen
  | .enumerate _ => seen

def targetLimits (fleet : Fleet) : Option PowerLimits :=
  (fleet.deviceByUuid target.uuid).map (·.limits)

def others (fleet : Fleet) : List (List Char × Option PowerLimits) :=
  fleet.map fun device =>
    (device.uuid, if device.uuid = target.uuid then none else some device.limits)

variable {smi target} {fleet : Fleet}

theorem deviceByUuid_uuid {uuid : List Char} {device : GpuDevice}
    (found : fleet.deviceByUuid uuid = some device) : device.uuid = uuid := by
  simpa using List.find?_some found

theorem deviceByUuid_update (fleet : Fleet) (uuid changed : List Char)
    (change : PowerLimits → PowerLimits) :
    (fleet.update changed change).deviceByUuid uuid =
      (fleet.deviceByUuid uuid).map fun device =>
        if uuid = changed then { device with limits := change device.limits } else device := by
  induction fleet with
  | nil => rfl
  | cons device rest ih =>
    simp only [update, deviceByUuid, List.map_cons] at ih ⊢
    by_cases named : device.uuid = uuid
    next =>
      subst named
      by_cases same : device.uuid = changed <;> simp [same]
    next =>
      by_cases same : device.uuid = changed <;> simp_all

theorem deviceByUuid_without (fleet : Fleet) (uuid gone : List Char) :
    deviceByUuid (fleet.filter (·.uuid ≠ gone)) uuid =
      if uuid = gone then none else fleet.deviceByUuid uuid := by
  induction fleet with
  | nil => simp [deviceByUuid]
  | cons device rest ih =>
    simp only [deviceByUuid] at ih
    by_cases removed : device.uuid = gone
    next =>
      subst removed
      by_cases same : uuid = device.uuid
      next => simp [deviceByUuid, same]
      next => simpa [deviceByUuid, same, Ne.symm same] using ih
    next =>
      by_cases named : device.uuid = uuid
      next =>
        subst named
        simp [deviceByUuid, removed]
      next => simpa [deviceByUuid, removed, named] using ih

theorem others_update (fleet : Fleet) (change : PowerLimits → PowerLimits) :
    (fleet.update target.uuid change).others target = fleet.others target := by
  simp only [others, update, List.map_map]
  refine List.map_congr_left fun device _ => ?_
  by_cases same : device.uuid = target.uuid <;> simp [same]

theorem filterMap_range {α : Type} (items : List α) :
    (List.range items.length).filterMap (items[·]?) = items := by
  induction items using List.reverseRecOn with
  | nil => rfl
  | append_singleton items item ih =>
    have front : (List.range items.length).filterMap ((items ++ [item])[·]?) =
        (List.range items.length).filterMap (items[·]?) := by
      apply List.filterMap_congr
      intro index member
      simp only [List.mem_range] at member
      simp [List.getElem?_append_left member]
    rw [List.length_append, List.length_singleton, List.range_succ, List.filterMap_append, front,
      ih]
    simp

theorem reordered {order : List Nat} (permutes : order.Perm (List.range fleet.length)) :
    (order.filterMap (fleet[·]?)).Perm fleet := by
  have moved := permutes.filterMap (fleet[·]?)
  rwa [filterMap_range] at moved

def Distinct (fleet : Fleet) : Prop :=
  (fleet.map (·.uuid)).Nodup

instance (fleet : Fleet) : Decidable fleet.Distinct :=
  inferInstanceAs (Decidable (fleet.map (·.uuid)).Nodup)

theorem deviceByUuid_iff (distinct : fleet.Distinct) (uuid : List Char) (device : GpuDevice) :
    fleet.deviceByUuid uuid = some device ↔ device ∈ fleet ∧ device.uuid = uuid := by
  constructor
  next =>
    intro found
    exact ⟨List.mem_of_find?_eq_some found, deviceByUuid_uuid found⟩
  next =>
    rintro ⟨member, rfl⟩
    induction fleet with
    | nil => simp at member
    | cons first rest ih =>
      simp only [Distinct, List.map_cons, List.nodup_cons] at distinct
      rcases List.mem_cons.mp member with rfl | later
      next => simp [deviceByUuid]
      next =>
        have other : first.uuid ≠ device.uuid := fun same =>
          distinct.1 (same ▸ List.mem_map_of_mem later)
        simpa [deviceByUuid, other] using ih distinct.2 later

theorem Distinct.perm {again : Fleet} (distinct : fleet.Distinct) (permuted : again.Perm fleet) :
    again.Distinct := by
  have moved := permuted.map GpuDevice.uuid
  exact moved.nodup_iff.mpr distinct

theorem deviceByUuid_perm {again : Fleet} (distinct : fleet.Distinct) (permuted : again.Perm fleet)
    (uuid : List Char) : again.deviceByUuid uuid = fleet.deviceByUuid uuid := by
  have same := distinct.perm permuted
  apply Option.ext
  intro device
  rw [deviceByUuid_iff distinct, deviceByUuid_iff same, permuted.mem_iff]

theorem update_uuids (fleet : Fleet) (uuid : List Char) (change : PowerLimits → PowerLimits) :
    (fleet.update uuid change).map (·.uuid) = fleet.map (·.uuid) := by
  simp only [update, List.map_map]
  refine List.map_congr_left fun device _ => ?_
  by_cases same : device.uuid = uuid <;> simp [same]

theorem perform_updates (smi : NvidiaSmi) (target : GpuTarget) (call : ActuatorCall)
    (attempt : Attempt) (fleet : Fleet) :
    (NvmlActuator.perform smi ⟨some target⟩ call attempt fleet).2 = fleet ∨
    ∃ limitW, (NvmlActuator.perform smi ⟨some target⟩ call attempt fleet).2 =
      fleet.update target.uuid (·.set limitW) := by
  cases found : fleet.deviceByUuid target.uuid with
  | none => exact .inl (NvmlActuator.perform_absent call attempt found)
  | some device =>
    obtain ⟨_, kept | ⟨limitW, set⟩⟩ := NvmlActuator.perform_target smi call attempt found
    next => exact .inl kept.1
    next => exact .inr ⟨limitW, set.1⟩

theorem distinct_step (distinct : fleet.Distinct) (label : FleetStep) :
    (fleet.step smi target label).Distinct := by
  cases label with
  | perform call attempt =>
    rcases perform_updates smi target call attempt fleet with same | ⟨limitW, same⟩
    next =>
      rw [step, same]
      exact distinct
    next =>
      rw [step, same, Distinct, update_uuids]
      exact distinct
  | enumerate order =>
    simp only [step]
    split
    next permutes => exact distinct.perm (reordered permutes)
    next => exact distinct
  | plug device =>
    simp only [step]
    split
    next => exact distinct
    next absent =>
      have fresh : device.uuid ∉ fleet.map (·.uuid) := by
        intro member
        obtain ⟨other, member, same⟩ := List.mem_map.mp member
        have found := (deviceByUuid_iff distinct device.uuid other).mpr ⟨member, same⟩
        simp [found] at absent
      simpa [Distinct, List.nodup_append, fresh] using
        ⟨distinct, fun other member same => fresh (same ▸ List.mem_map_of_mem member)⟩
  | unplug uuid => exact List.Nodup.sublist (List.filter_sublist.map _) distinct
  | foreign uuid limits =>
    rw [step, Distinct, update_uuids]
    exact distinct

theorem targetLimits_step (smi : NvidiaSmi) (distinct : fleet.Distinct) (label : FleetStep) :
    (fleet.step smi target label).targetLimits target =
      deviceStep target (fleet.targetLimits target) label := by
  cases label with
  | perform call attempt =>
    simp only [step, deviceStep, targetLimits]
    cases found : fleet.deviceByUuid target.uuid with
    | none =>
      rw [NvmlActuator.perform_absent call attempt found, found]
      rfl
    | some device =>
      obtain ⟨_, ⟨kept, same⟩ | ⟨limitW, set, same⟩⟩ :=
        NvmlActuator.perform_target smi call attempt found
      next =>
        rw [kept, found]
        simp [same]
      next =>
        rw [set, deviceByUuid_update, found]
        simp [same]
  | enumerate order =>
    simp only [step, deviceStep, targetLimits]
    split
    next permutes => rw [deviceByUuid_perm distinct (reordered permutes)]
    next => rfl
  | plug device =>
    simp only [step, deviceStep, targetLimits]
    split
    next present =>
      by_cases same : device.uuid = target.uuid
      next =>
        rw [same] at present
        simp [Option.isSome_iff_ne_none.mp present]
      next => simp [same]
    next absent =>
      by_cases same : device.uuid = target.uuid
      next =>
        rw [same] at absent
        simp only [Bool.not_eq_true, Option.isSome_eq_false_iff, Option.isNone_iff_eq_none]
          at absent
        simp only [deviceByUuid] at absent ⊢
        simp [List.find?_append, absent, same]
      next => simp [deviceByUuid, List.find?_append, same]
  | unplug uuid =>
    simp only [step, deviceStep, targetLimits, deviceByUuid_without]
    split
    next same => simp [same]
    next other => simp [Ne.symm other]
  | foreign uuid limits =>
    simp only [step, deviceStep, targetLimits, deviceByUuid_update]
    by_cases same : uuid = target.uuid
    next =>
      subst same
      simp [Function.comp_def]
    next => simp [same, Ne.symm same]

theorem others_present {first second : Fleet}
    (same : first.others target = second.others target) (uuid : List Char) :
    (first.deviceByUuid uuid).isSome = (second.deviceByUuid uuid).isSome := by
  have names := congrArg (List.map Prod.fst) same
  simp only [others, List.map_map] at names
  have named (fleet : Fleet) : (fleet.deviceByUuid uuid).isSome = true ↔
      uuid ∈ fleet.map (Prod.fst ∘ fun device : GpuDevice =>
        (device.uuid, if device.uuid = target.uuid then none else some device.limits)) := by
    simp [deviceByUuid, List.find?_isSome]
  rw [Bool.eq_iff_iff, named, named, names]

-- What the relay cannot influence is a function of itself.
theorem others_step {first second : Fleet} (same : first.others target = second.others target)
    {label : FleetStep} (foreign : label.isForeign = true) :
    (first.step smi target label).others target = (second.step smi target label).others target := by
  cases label with
  | perform call attempt => simp [FleetStep.isForeign] at foreign
  | enumerate order =>
    have length : first.length = second.length := by
      simpa [others] using congrArg List.length same
    simp only [step, length]
    split
    next =>
      have moved (fleet : Fleet) : others target (order.filterMap (fleet[·]?)) =
          order.filterMap ((others target fleet)[·]?) := by
        simp [others, List.map_filterMap]
      rw [moved, moved, same]
    next => exact same
  | plug device =>
    simp only [step, others_present same]
    split
    next => exact same
    next =>
      simp only [others, List.map_append] at same ⊢
      rw [same]
  | unplug uuid =>
    have dropped (fleet : Fleet) : others target (fleet.filter (·.uuid ≠ uuid)) =
        (others target fleet).filter (·.1 ≠ uuid) := by
      simp [others, List.filter_map, Function.comp_def]
    simp only [step]
    rw [dropped, dropped, same]
  | foreign uuid limits =>
    simp only [step]
    by_cases own : uuid = target.uuid
    next => rw [own, others_update, others_update, same]
    next =>
      have set (fleet : Fleet) : others target (fleet.update uuid fun _ => limits) =
          (others target fleet).map fun seen =>
            if seen.1 = uuid then (uuid, some limits) else seen := by
        simp only [others, update, List.map_map]
        refine List.map_congr_left fun device _ => ?_
        by_cases named : device.uuid = uuid <;> simp [named, own]
      rw [set, set, same]

theorem others_perform (call : ActuatorCall) (attempt : Attempt) (fleet : Fleet) :
    (fleet.step smi target (.perform call attempt)).others target = fleet.others target := by
  rcases perform_updates smi target call attempt fleet with same | ⟨limitW, same⟩
  next => rw [step, same]
  next => rw [step, same, others_update]

theorem targetLimits_run (distinct : fleet.Distinct) (labels : List FleetStep) :
    (fleet.run smi target labels).targetLimits target =
      labels.foldl (deviceStep target) (fleet.targetLimits target) := by
  induction labels generalizing fleet with
  | nil => rfl
  | cons label later ih =>
    rw [List.foldl_cons, ← targetLimits_step smi distinct label]
    exact ih (distinct_step distinct label)

theorem others_run {first second : Fleet} (same : first.others target = second.others target)
    (labels : List FleetStep) :
    (first.run smi target labels).others target =
      (second.run smi target (labels.filter FleetStep.isForeign)).others target := by
  induction labels generalizing first second with
  | nil => exact same
  | cons label later ih =>
    cases label with
    | perform call attempt => exact ih ((others_perform call attempt first).trans same)
    | enumerate | plug | unplug | foreign => exact ih (others_step same rfl)

theorem calls_reach_only_the_target (smi : NvidiaSmi) (target : GpuTarget) (fleet : Fleet)
    (distinct : fleet.Distinct) (labels : List FleetStep) :
    let after := fleet.run smi target labels
    after.targetLimits target = labels.foldl (deviceStep target) (fleet.targetLimits target) ∧
    after.others target =
      (fleet.run smi target (labels.filter FleetStep.isForeign)).others target ∧
    ∀ call attempt, (NvmlActuator.perform smi ⟨none⟩ call attempt after).2 = after := by
  intro after
  refine ⟨targetLimits_run distinct labels, others_run rfl labels, fun call attempt => ?_⟩
  rw [NvmlActuator.perform_unresolved]

def selectByUuid : NvidiaSmi where
  execute args fleet :=
    match args with
    | [select, uuid, powerLimit, watts] =>
      if select = "-i".toList ∧ powerLimit = "-pl".toList then
        match Decimal.parse UInt32.size watts with
        | some limitW => fleet.update uuid (·.set (.ofNat limitW))
        | none => fleet
      else fleet
    | _ => fleet
  scopes target limitW fleet := by
    simp [Decimal.parse_toDigits limitW.toNat_lt]

def pairTarget : GpuTarget where
  uuid := "GPU-00000000-0000-0000-0000-00000000000a".toList
  valid := by decide +kernel

def pair : Fleet :=
  [⟨pairTarget.uuid, ⟨300000, 300000⟩⟩,
    ⟨"GPU-00000000-0000-0000-0000-00000000000b".toList, ⟨250000, 250000⟩⟩]

-- The brake goes to the card that was first at startup, though the other is first by then; the cap
-- that another program puts on it afterwards is not released.
theorem calls_reach_only_the_target_pair :
    let labels := [.enumerate [1, 0],
      .perform .applyEmergencyBrake (.running .succeeds),
      .foreign pairTarget.uuid ⟨280000, 300000⟩,
      .perform .releaseEmergencyBrake (.running .succeeds)]
    (run selectByUuid pairTarget pair labels).targetLimits pairTarget =
      some ⟨280000, 300000⟩ := by
  intro labels
  rw [(calls_reach_only_the_target selectByUuid pairTarget pair (by decide +kernel) labels).1]
  decide +kernel

end Fleet

end ThalamicRelay
