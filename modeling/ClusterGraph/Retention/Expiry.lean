import ClusterGraph.Store.Plan
import ClusterGraph.Metrics.Basic

/-!
# ClusterGraph.Retention.Expiry

**Removing events that are older than the retention window.**

The window is a number of days before now. Without a positive number of days events are
kept for ever, and so they are if the window reaches back before the first year there is.
-/

namespace ClusterGraph
namespace Retention

/-- Whether events expire: they do if they are kept for a positive number of `days`. -/
def isEnabled (days : Int) : Bool :=
  days > 0

/-- The instant `days` days before `now`, before which events have expired; `none` if events do not
expire or there is no such instant (`Instant.daysBefore?`). -/
def cutoff? (days : Int) (now : Instant) : Option Instant :=
  if isEnabled days then now.daysBefore? days else none

/-- Delete the expired events of a cluster; `none` if no event can have expired. -/
def prune (cluster : String) (days : Int) (now : Instant) :
    Plan (Except StoreError (Option Nat)) :=
  match cutoff? days now with
  | none => .done (.ok none)
  | some cutoff =>
      .call (.pruneEvents cluster cutoff) fun
        | .error e => .done (.error e)
        | .ok n => .done (.ok (some n))

/-- The number of events that `prune` deleted, where `none` counts as 0. -/
def prunedCount (result : Except StoreError (Option Nat)) : Except StoreError Nat :=
  result.map (·.getD 0)

/-- Add the number of events that `prune` deleted to the metrics, unless it failed or there was no
`cutoff?`. -/
def recordPrune (result : Except StoreError (Option Nat)) (m : Metrics) : Metrics :=
  match result with
  | .ok (some n) => m.recordSwept "ttl" n
  | _ => m

end Retention
end ClusterGraph
