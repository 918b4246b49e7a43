import ClusterGraph.Pipeline.Consumer
import ClusterGraph.Retention.Expiry
import ClusterGraph.Retention.Sweep

/-!
# ClusterGraph.Pipeline.Housekeeping

**What is done to the shared store beside the pipeline, and counted.**
-/

namespace ClusterGraph
namespace Shared

variable {σ α : Type}

/-- What is shared when an instance begins: a `store` and a `registry`, whose states
`Registry.publish` has put into the metrics. -/
def ofRegistry (store : σ) (registry : Registry) (m : Metrics) (now : Instant) : Shared σ :=
  ⟨store, registry, registry.publish m, false, now⟩

/-- Run a plan on the shared store (`Plan.run`), leaving everything else as it is. -/
def carryOut (perform : Plan.Performer σ) (plan : Plan α) (s : Shared σ) : α × Shared σ :=
  let (a, store) := plan.run perform s.store
  (a, { s with store })

/-- Ask the store for its `health`, and say whether the answer was a success. -/
def check (perform : Plan.Performer σ) (s : Shared σ) : Bool × Shared σ :=
  let (answer, s) := s.carryOut perform (Plan.ask .health)
  (answer.isOk, s)

/-- Carry out `Retention.sweep`, and add what a successful sweep deleted to the metrics. -/
def sweep (perform : Plan.Performer σ) (id : Identity) (kinds : List String) (s : Shared σ) :
    Except StoreError SweepReport × Shared σ :=
  let (result, s) := s.carryOut perform (Retention.sweep id kinds)
  (result, { s with metrics := Retention.recordSweep result s.metrics })

/-- Carry out `Retention.prune`, and add the number of events that it deleted to the metrics. -/
def prune (perform : Plan.Performer σ) (cluster : String) (days : Int) (now : Instant)
    (s : Shared σ) : Except StoreError Nat × Shared σ :=
  let (result, s) := s.carryOut perform (Retention.prune cluster days now)
  (Retention.prunedCount result, { s with metrics := Retention.recordPrune result s.metrics })

/-- Carry out `prune` this many times. -/
def pruneTimes (perform : Plan.Performer σ) (cluster : String) (days : Int) (now : Instant) :
    Nat → Shared σ → Shared σ
  | 0, s => s
  | n + 1, s => pruneTimes perform cluster days now n (s.prune perform cluster days now).2

end Shared
end ClusterGraph
