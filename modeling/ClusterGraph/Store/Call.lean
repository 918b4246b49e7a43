import ClusterGraph.Graph.Statement
import ClusterGraph.Graph.Property
import ClusterGraph.Time.Instant

/-!
# ClusterGraph.Store.Call

**What can be asked of a graph store, what comes back, and how a call can fail.**

Whatever changes or reads a graph does so by one of these calls. The type of the answer
depends on the call (`Call.Answer`), so a plan of calls can be carried out by any store:
the one in memory, one that drops calls, or a database behind a connection.

Design points:

* an upsert carries values as they were read; the store brings them into stored form, so
  absent values disappear there and nowhere else;
* errors are causes. Their words are in `StoreError.message?` alone.
-/

namespace ClusterGraph

/-! ### Calls -/

/-- How an upsert is written: by itself (`direct`), or in a transaction that is tried again. -/
inductive WriteMode where
  | direct
  | transaction
deriving DecidableEq

/-- The number of nodes of `kind`. -/
structure KindCount where
  kind : String
  count : Int
deriving DecidableEq

/-- Request to a store. There are no others. -/
inductive Call where
  /-- Find the node with these labels and the same value under `key`, or make it, and replace all
  its properties. -/
  | upsert (mode : WriteMode) (labels : List String) (properties : Dict Json) (key : String)
  /-- Delete the nodes with `label` that hold the text `value` under `key`, together with their
  edges. -/
  | delete (label key value : String)
  /-- List the properties of the nodes with `label` that hold all texts of `filters`. -/
  | list (label : String) (filters : List (String × String))
  /-- Link every node of `source` to every node of `target`. -/
  | link (source : NodeRef) (rel : Relationship) (target : NodeRef)
  /-- Delete the cluster nodes of other instances (`Node.isStaleCluster`). -/
  | sweepClusters (id : Identity)
  /-- Delete the nodes with `label` that other instances wrote (`Node.isStale`). -/
  | sweepLabel (label : String) (id : Identity)
  /-- Delete all nodes that other instances wrote, events excepted. -/
  | sweepAll (id : Identity)
  /-- Delete the events of `cluster` that were recorded before `cutoff` (`Node.isExpiredEvent`). -/
  | pruneEvents (cluster : String) (cutoff : Instant)
  /-- Count the nodes of an instance by kind. -/
  | count (id : Identity)
  /-- Ask whether the store answers. -/
  | health

namespace Call

/-- Type of what a successful call answers. -/
@[reducible] def Answer : Call → Type
  | upsert _ _ _ _ => Unit
  | delete _ _ _ => Unit
  | list _ _ => List Properties
  | link _ _ _ => Unit
  | sweepClusters _ => Nat
  | sweepLabel _ _ => Nat
  | sweepAll _ => Nat
  | pruneEvents _ _ => Nat
  | count _ => List KindCount
  | health => Unit

/-- The name of a call, by which it is refused (`TracedStore.refuses`). -/
def name : Call → String
  | upsert .direct _ _ _ => "upsert_node"
  | upsert .transaction _ _ _ => "upsert_node_txn"
  | delete _ _ _ => "delete_node"
  | list _ _ => "list_nodes"
  | link _ _ _ => "create_relationship"
  | sweepClusters _ => "delete_old_clusters"
  | sweepLabel _ _ => "delete_old_resources"
  | sweepAll _ => "cleanup_duplicates"
  | pruneEvents _ _ => "prune_events"
  | count _ => "count_nodes"
  | health => "health_check"

/-- Detail that tells calls of one `name` apart: the label or relationship they are about, or the
name of the cluster. -/
def subject : Call → String
  | upsert _ labels _ _ => labels.headD ""
  | delete label _ _ => label
  | list label _ => label
  | link _ rel _ => rel.text
  | sweepClusters id => id.cluster
  | sweepLabel label _ => label
  | sweepAll id => id.cluster
  | pruneEvents cluster _ => cluster
  | count id => id.cluster
  | health => ""

/-- Whether a call fails on a store that cannot be written: all do but `list` and `count`. -/
def needsWriter : Call → Bool
  | list _ _ => false
  | count _ => false
  | _ => true

end Call

/-! ### Errors -/

/-- Failure of a call. -/
inductive StoreError where
  /-- The store does not answer. -/
  | unavailable
  /-- A label or key of the call is no identifier, so there is no statement for it. -/
  | invalidName (e : NameError)
  /-- An upsert whose properties have no stored value under `key`. -/
  | missingKey (key : String)
  /-- A call of this name was made to fail. -/
  | refused (callName : String)
  /-- The database reported a failure, with its code if it gave one. -/
  | database (code : Option String)
  /-- No connection to `address` was made in time. -/
  | noAnswer (address : String) (within : String)
  /-- A failure during `activity`, which is what the message says; `cause` is the failure itself. -/
  | during (activity : String) (cause : StoreError)
deriving DecidableEq

namespace StoreError

/-- The message of a failure. One that the database reported has none of its own. -/
def message? : StoreError → Option String
  | unavailable => some "mock graph store: connection refused"
  | invalidName e => some e.message
  | missingKey key => some ("properties are missing unique key " ++ Text.quoted key)
  | refused callName => some ("injected failure of " ++ callName)
  | database _ => none
  | noAnswer address within => some ("Neo4j at " ++ address ++ " did not answer within " ++ within)
  | during activity _ => some activity

/-- The code that the database reported, at the bottom of the causes. -/
def code? : StoreError → Option String
  | database code => code
  | during _ cause => cause.code?
  | _ => none

end StoreError

end ClusterGraph
