import ClusterGraph.Store.Plan
import ClusterGraph.Metrics.Basic

/-!
# ClusterGraph.Retention.Sweep

**Removing what other instances of the cluster left behind.**

The sweep has three stages: the nodes that stand for other instances, then kind by kind the
nodes they wrote, then whatever else of theirs is left.

Design points:

* the stages by kind only spread the work: the last stage deletes all that they missed, so
  a failure in one of them is passed over;
* a failure of the first or the last stage is a failure of the sweep;
* events are never swept.
-/

namespace ClusterGraph

/-- Numbers of nodes that the stages of a `sweep` deleted. -/
structure SweepReport where
  clusters : Nat
  resources : Nat
  duplicates : Nat
deriving DecidableEq

namespace SweepReport

/-- The number of nodes that all stages deleted together. -/
def total (r : SweepReport) : Nat :=
  r.clusters + r.resources + r.duplicates

end SweepReport

namespace Retention

/-- Make `sweepLabel` for each kind of the list but events, and add up what was deleted. A kind
whose call fails counts 0, and the next kind follows all the same. -/
def sweepKinds (id : Identity) : List String → Plan Nat
  | [] => .done 0
  | kind :: rest =>
      if kind = Label.event then sweepKinds id rest
      else
        .call (.sweepLabel kind id) fun answer =>
          (sweepKinds id rest).bind fun others =>
            .done ((match answer with | .ok n => n | .error _ => 0) + others)

/-- Delete what other instances of the cluster wrote, in three stages: their cluster nodes
(`sweepClusters`), the nodes of each kind (`sweepKinds`), and whatever is left (`sweepAll`). Events
are left alone. A failure of the first or the last stage ends the sweep. -/
def sweep (id : Identity) (kinds : List String) : Plan (Except StoreError SweepReport) :=
  .call (.sweepClusters id) fun
    | .error e => .done (.error e)
    | .ok clusters =>
        (sweepKinds id kinds).bind fun resources =>
          .call (.sweepAll id) fun
            | .error e => .done (.error e)
            | .ok duplicates => .done (.ok ⟨clusters, resources, duplicates⟩)

/-- Add the `total` of a successful sweep to the metrics. -/
def recordSweep (result : Except StoreError SweepReport) (m : Metrics) : Metrics :=
  match result with
  | .ok report => m.recordSwept "instance" report.total
  | .error _ => m

end Retention

end ClusterGraph
