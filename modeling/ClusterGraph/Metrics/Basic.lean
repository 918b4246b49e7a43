import ClusterGraph.Metrics.Samples
import ClusterGraph.Subscription.State

/-!
# ClusterGraph.Metrics.Basic

**What is counted: store operations, handled notifications, subscription states, and nodes
that were swept.**

Label values are kept in the order of their labels' names, which is the order in which they
are shown.
-/

namespace ClusterGraph

/-- The label of an outcome: `ok` or `error`. -/
def outcomeText (ok : Bool) : String :=
  if ok then "ok" else "error"

/-- All that is measured. The samples of a metric are found by the values of its labels. -/
structure Metrics where
  /-- The number of store operations, by `[operation, outcome]`. -/
  operations : Samples
  /-- The number of store operations of which the time was taken, by `[operation]`. -/
  timed : Samples
  /-- The number of store operations that are under way. -/
  activeSessions : Int
  /-- The number of notifications handled, by `[event, kind, outcome]`. -/
  notifications : Samples
  /-- The gauges of subscription states, by `[kind, state]`: 1 for the state of the kind, 0 for the
  others. -/
  states : Samples
  /-- The number of nodes deleted, by `[sweep]`. -/
  swept : Samples
deriving DecidableEq

namespace Metrics

/-- The metrics before anything is measured. -/
def empty : Metrics :=
  ⟨.empty, .empty, 0, .empty, .empty, .empty⟩

instance : Inhabited Metrics := ⟨empty⟩

/-- Count a notification of `kind`, in the metric `notifications`. -/
def recordNotification (m : Metrics) (kind event : String) (ok : Bool) : Metrics :=
  { m with notifications := m.notifications.add [event, kind, outcomeText ok] 1 }

/-- Write the gauges of `kind`: 1 for `state`, 0 for the others. -/
def publishState (m : Metrics) (kind : String) (state : SubscriptionState) : Metrics :=
  { m with
    states := SubscriptionState.all.foldl
      (fun samples s => samples.set [kind, s.text] (if s = state then 1 else 0)) m.states }

/-- Count `n` nodes that were deleted by `sweep`. -/
def recordSwept (m : Metrics) (sweep : String) (n : Nat) : Metrics :=
  { m with swept := m.swept.add [sweep] n }

/-- Count an operation in `activeSessions` as it begins. -/
def acquireSession (m : Metrics) : Metrics :=
  { m with activeSessions := m.activeSessions + 1 }

/-- Take an operation out of `activeSessions` as it ends. -/
def releaseSession (m : Metrics) : Metrics :=
  { m with activeSessions := m.activeSessions - 1 }

/-- Count an operation in `operations`, by its outcome, and in `timed`. -/
def recordOperation (m : Metrics) (operation : String) (ok : Bool) : Metrics :=
  { m with
    operations := m.operations.add [operation, outcomeText ok] 1
    timed := m.timed.add [operation] 1 }

end Metrics

end ClusterGraph
