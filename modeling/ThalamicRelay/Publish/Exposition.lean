import ThalamicRelay.Publish.Queue
import ThalamicRelay.Shared.Exposition

set_option autoImplicit false

namespace ThalamicRelay

open Exposition

namespace QueueFullPolicy

def all : List QueueFullPolicy :=
  [.dropOldest, .rejectNewest]

def asStr : QueueFullPolicy → String
  | .dropOldest => "drop_oldest"
  | .rejectNewest => "reject_newest"

def asCliStr : QueueFullPolicy → String
  | .dropOldest => "drop-oldest"
  | .rejectNewest => "reject-newest"

def fromStr (text : String) : Except String QueueFullPolicy :=
  if text = "drop-oldest" ∨ text = "drop_oldest" then .ok .dropOldest
  else if text = "reject-newest" ∨ text = "reject_newest" then .ok .rejectNewest
  else .error ("unknown sensory-queue full policy '" ++ text ++
    "'; expected drop-oldest or reject-newest")

theorem mem_all (policy : QueueFullPolicy) : policy ∈ all := by
  cases policy <;> decide

theorem fromStr_eq_ok {text : String} {policy : QueueFullPolicy} :
    fromStr text = .ok policy ↔ text = policy.asCliStr ∨ text = policy.asStr := by
  unfold fromStr
  split_ifs with dropping rejecting
  next =>
    cases policy with
    | dropOldest => simpa [asCliStr, asStr] using dropping
    | rejectNewest =>
      rcases dropping with rfl | rfl <;> decide
  next =>
    cases policy with
    | dropOldest => simpa [asCliStr, asStr] using dropping
    | rejectNewest => simpa [asCliStr, asStr] using rejecting
  next =>
    cases policy with
    | dropOldest => simpa [asCliStr, asStr] using dropping
    | rejectNewest => simpa [asCliStr, asStr] using rejecting

end QueueFullPolicy

namespace DropReason

def asStr : DropReason → String
  | .rejectNewest => "reject_newest"
  | .dropOldest => "drop_oldest"
  | .absent => "absent"
  | .disconnected => "disconnected"
  | .sendFailed => "send_failed"
  | .mutexContended => "mutex_contended"

theorem mem_all (reason : DropReason) : reason ∈ all := by
  cases reason <;> decide

end DropReason

inductive QueueGauge
  | depth
  | capacity
  | fullPolicy (policy : QueueFullPolicy)
  deriving DecidableEq, Repr

inductive QueueCounter
  | enqueuedTotal
  | dropped (reason : DropReason)
  deriving DecidableEq, Repr

namespace QueueCounter

def all : List QueueCounter :=
  enqueuedTotal :: DropReason.all.map dropped

theorem mem_all (counter : QueueCounter) : counter ∈ all := by
  cases counter with
  | enqueuedTotal => decide
  | dropped reason => simp [all, reason.mem_all]

end QueueCounter

inductive QueueSeries
  | gauge (gauge : QueueGauge)
  | counter (counter : QueueCounter)
  deriving DecidableEq, Repr

namespace QueueSeries

def drops : List QueueSeries :=
  DropReason.all.map fun reason => counter (.dropped reason)

def policies : List QueueSeries :=
  QueueFullPolicy.all.map fun policy => gauge (.fullPolicy policy)

def all : List QueueSeries :=
  [gauge .depth, gauge .capacity, counter .enqueuedTotal] ++ drops ++ policies

theorem mem_all (series : QueueSeries) : series ∈ all := by
  cases series with
  | gauge gauge =>
    cases gauge with
    | depth | capacity => decide
    | fullPolicy policy => simp [all, policies, policy.mem_all]
  | counter counter =>
    cases counter with
    | enqueuedTotal => decide
    | dropped reason => simp [all, drops, reason.mem_all]

def text : QueueSeries → List Char
  | gauge .depth => "sensory_queue_depth".toList
  | gauge .capacity => "sensory_queue_capacity".toList
  | gauge (.fullPolicy policy) => labelled "sensory_queue_full_policy" "policy" policy.asStr
  | counter .enqueuedTotal => "sensory_queue_enqueued_total".toList
  | counter (.dropped reason) => labelled "sensory_queue_dropped_total" "reason" reason.asStr

theorem text_plain (series : QueueSeries) : PlainSeries series.text := by
  have each : all.all (fun series => decide (PlainSeries series.text)) = true := by
    decide +kernel
  simpa using List.all_eq_true.mp each series series.mem_all

theorem text_nodup : (all.map text).Nodup := by
  decide +kernel

end QueueSeries

namespace QueueSnapshot

def dropped (snap : QueueSnapshot) (reason : DropReason) : Nat :=
  snap.droppedByReason reason

def prometheusExposition (snap : QueueSnapshot) : List Char :=
  family "HELP sensory_queue_depth Current outbound sensory queue depth"
    "TYPE sensory_queue_depth gauge"
    [("sensory_queue_depth".toList, snap.depth)] ++
  family "HELP sensory_queue_capacity Configured outbound sensory queue capacity"
    "TYPE sensory_queue_capacity gauge"
    [("sensory_queue_capacity".toList, snap.capacity)] ++
  family "HELP sensory_queue_enqueued_total Sensory frames accepted into the outbound queue"
    "TYPE sensory_queue_enqueued_total counter"
    [("sensory_queue_enqueued_total".toList, snap.enqueuedTotal)] ++
  family "HELP sensory_queue_dropped_total Sensory frames dropped (bounded reason label)"
    "TYPE sensory_queue_dropped_total counter"
    (DropReason.all.map fun reason =>
      (labelled "sensory_queue_dropped_total" "reason" reason.asStr, snap.dropped reason)) ++
  family "HELP sensory_queue_full_policy Configured full-queue policy (one-hot)"
    "TYPE sensory_queue_full_policy gauge"
    (QueueFullPolicy.all.map fun policy =>
      (labelled "sensory_queue_full_policy" "policy" policy.asStr,
        if policy = snap.policy then 1 else 0))

def gauge (snap : QueueSnapshot) : QueueGauge → Nat
  | .depth => snap.depth
  | .capacity => snap.capacity
  | .fullPolicy policy => if policy = snap.policy then 1 else 0

def counter (snap : QueueSnapshot) : QueueCounter → Nat
  | .enqueuedTotal => snap.enqueuedTotal
  | .dropped reason => snap.dropped reason

def value (snap : QueueSnapshot) : QueueSeries → Nat
  | .gauge gauge => snap.gauge gauge
  | .counter counter => snap.counter counter

def sample (snap : QueueSnapshot) (series : QueueSeries) : Sample :=
  (series.text, snap.value series)

def samples (snap : QueueSnapshot) : List Sample :=
  QueueSeries.all.map snap.sample

theorem reads_family (snap : QueueSnapshot) {help kind : String} (explained : PlainComment help)
    (typed : PlainComment kind) (listed : List QueueSeries) :
    Reads (family help kind (listed.map snap.sample)) (listed.map snap.sample) := by
  apply Reads.family explained typed
  intro sample member
  obtain ⟨series, _, rfl⟩ := List.mem_map.mp member
  exact series.text_plain

theorem scrape_exposition (snap : QueueSnapshot) :
    scrape snap.prometheusExposition = some snap.samples := by
  have page : Reads snap.prometheusExposition
      ([.gauge .depth].map snap.sample ++ [.gauge .capacity].map snap.sample ++
        [.counter .enqueuedTotal].map snap.sample ++ QueueSeries.drops.map snap.sample ++
        QueueSeries.policies.map snap.sample) := by
    refine .append (.append (.append (.append ?depth ?capacity) ?enqueued) ?dropped) ?policy
    case depth =>
      exact snap.reads_family (by decide +kernel) (by decide +kernel) [.gauge .depth]
    case capacity =>
      exact snap.reads_family (by decide +kernel) (by decide +kernel) [.gauge .capacity]
    case enqueued =>
      exact snap.reads_family (by decide +kernel) (by decide +kernel) [.counter .enqueuedTotal]
    case dropped =>
      refine snap.reads_family ?_ ?_ QueueSeries.drops <;> decide +kernel
    case policy =>
      refine snap.reads_family ?_ ?_ QueueSeries.policies <;> decide +kernel
  simpa [samples, QueueSeries.all] using page.scraped

theorem samples_injective {first second : QueueSnapshot}
    (same : first.samples = second.samples) : first = second := by
  have value (series : QueueSeries) : first.value series = second.value series := by
    have sample := List.map_inj_left.mp same series series.mem_all
    exact congrArg Prod.snd sample
  have policy : first.policy = second.policy := by
    have hot := value (.gauge (.fullPolicy first.policy))
    simpa [QueueSnapshot.value, QueueSnapshot.gauge] using hot
  have dropped : first.droppedByReason = second.droppedByReason :=
    funext fun reason => value (.counter (.dropped reason))
  have depth : first.depth = second.depth := value (.gauge .depth)
  have capacity : first.capacity = second.capacity := value (.gauge .capacity)
  have enqueued : first.enqueuedTotal = second.enqueuedTotal := value (.counter .enqueuedTotal)
  cases first
  cases second
  simp_all only

theorem exposition_round_trip (snap : QueueSnapshot) :
    scrape snap.prometheusExposition = some snap.samples ∧
    (snap.samples.map Prod.fst).Nodup ∧
    ∀ other : QueueSnapshot,
      other.prometheusExposition = snap.prometheusExposition → other = snap := by
  refine ⟨snap.scrape_exposition, ?_, ?_⟩
  next =>
    have names : snap.samples.map Prod.fst = QueueSeries.all.map QueueSeries.text := by
      simp [samples, sample]
    rw [names]
    exact QueueSeries.text_nodup
  next =>
    intro other same
    have scraped := other.scrape_exposition
    rw [same, snap.scrape_exposition] at scraped
    exact samples_injective (Option.some.inj scraped).symm

end QueueSnapshot

end ThalamicRelay
