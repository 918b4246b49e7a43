/-!
# ClusterGraph.Subscription.State

**How far the subscription to a kind has come.**

A kind starts unchecked. If the API does not serve it, it is skipped; otherwise it is
available, then syncing until its first listing is complete, then synced.
-/

namespace ClusterGraph

/-- The state of a kind. It is `unchecked` before it was probed, then `skipped` or `available`; a
kind with a watch is `syncing` until the first listing was followed, and then `synced`. -/
inductive SubscriptionState where
  | unchecked
  | available
  | syncing
  | synced
  | skipped
deriving DecidableEq

namespace SubscriptionState

/-- All states, in the order in which `publishState` writes their gauges. -/
def all : List SubscriptionState :=
  [unchecked, available, syncing, synced, skipped]

/-- The state as the metrics label it. -/
def text : SubscriptionState → String
  | unchecked => "unchecked"
  | available => "available"
  | syncing => "syncing"
  | synced => "synced"
  | skipped => "skipped"

/-- The state as a report shows it. -/
def title : SubscriptionState → String
  | unchecked => "Unchecked"
  | available => "Available"
  | syncing => "Syncing"
  | synced => "Synced"
  | skipped => "Skipped"

/-- The state of which `s` is the `text`. -/
def ofText? (s : String) : Option SubscriptionState :=
  all.find? fun state => state.text = s

/-- Whether the kind has still to be `synced`: it is `available` or `syncing`. -/
def isPending : SubscriptionState → Bool
  | available | syncing => true
  | _ => false

/-- Whether the kind is watched or is about to be: it is `available`, `syncing` or `synced`. -/
def isActive : SubscriptionState → Bool
  | available | syncing | synced => true
  | _ => false

theorem mem_all (s : SubscriptionState) : s ∈ all := by
  cases s <;> decide

end SubscriptionState

end ClusterGraph
