import ClusterGraph.Graph.Basic
import ClusterGraph.Store.Plan

/-!
# ClusterGraph.Store.Memory

**A store that keeps the graph in memory.**

Design points:

* upserts, deletions and links are refused under the conditions under which a database connection
  would refuse them before sending anything: a name that is no identifier, or an upsert without its
  key; listings and sweeps are done whatever the names are;
* while the store is not writable every call that needs a writer fails; reading goes on;
* a call that fails leaves the graph as it was;
* upserts are counted when they arrive, whether or not they succeed.
-/

namespace ClusterGraph

/-- A store in memory: its `graph`, whether it can be written, and how many upserts have come in,
those in `transactions` counted as well. -/
structure MemoryStore where
  graph : Graph
  writable : Bool
  upserts : Nat
  transactions : Nat
deriving DecidableEq

namespace MemoryStore

/-- The store with the graph `g`, which can be written. -/
def ofGraph (g : Graph) : MemoryStore :=
  ⟨g, true, 0, 0⟩

/-- The store with an empty graph, which can be written. -/
def empty : MemoryStore :=
  ofGraph Graph.empty

instance : Inhabited MemoryStore := ⟨empty⟩

/-- Count an upsert. -/
def counting (s : MemoryStore) : WriteMode → MemoryStore
  | .direct => { s with upserts := s.upserts + 1 }
  | .transaction => { s with upserts := s.upserts + 1, transactions := s.transactions + 1 }

/-- Replace the graph. -/
def withGraph (s : MemoryStore) (g : Graph) : MemoryStore :=
  { s with graph := g }

/-- Delete the nodes that satisfy `test`, and answer how many there were. -/
def sweep (s : MemoryStore) (test : Node → Bool) : Nat × MemoryStore :=
  (s.graph.countWhere test, s.withGraph (s.graph.removeWhere test))

/-- Upsert a node. It fails on a name that is no identifier (`Statement.upsert`), and if the
properties have no stored value under `key`. -/
def upsert (s : MemoryStore) (labels : List String) (properties : Dict Json) (key : String) :
    Except StoreError MemoryStore :=
  match Statement.upsert labels key with
  | .error e => .error (.invalidName e)
  | .ok _ =>
      let stored := storedProperties properties
      match stored.find? key with
      | none => .error (.missingKey key)
      | some value => .ok (s.withGraph (s.graph.upsert labels key value stored))

/-- Delete the nodes with `label` that hold `value` under `key`. It fails on a name that is no
identifier (`Statement.delete`). -/
def delete (s : MemoryStore) (label key value : String) : Except StoreError MemoryStore :=
  match Statement.delete label key with
  | .error e => .error (.invalidName e)
  | .ok _ => .ok (s.withGraph (s.graph.removeWhere (·.isMeantBy ⟨label, key, value, none⟩)))

/-- Link the nodes of two references (`Graph.link`). It fails on a name that is no identifier
(`Statement.relationship`). -/
def link (s : MemoryStore) (source : NodeRef) (rel : Relationship) (target : NodeRef) :
    Except StoreError MemoryStore :=
  match Statement.relationship source rel target with
  | .error e => .error (.invalidName e)
  | .ok _ => .ok (s.withGraph (s.graph.link source rel target))

/-- The properties of the nodes with `label` that hold all texts of `filters`. No name is
checked. -/
def list (s : MemoryStore) (label : String) (filters : List (String × String)) :
    List Properties :=
  (s.graph.nodesWhere fun n =>
    n.hasLabel label && filters.all fun f => n.holdsText f.1 f.2).map Node.properties

/-- The number of nodes of each kind that belong to an instance, in ascending order of the kinds. -/
def counts (s : MemoryStore) (id : Identity) : List KindCount :=
  (s.graph.countsByKind id).entries.map fun entry => ⟨entry.1, entry.2⟩

/-- Answer with the error and the same store, or with success and the new one. -/
def settle (s : MemoryStore) : Except StoreError MemoryStore → Except StoreError Unit × MemoryStore
  | .error e => (.error e, s)
  | .ok s' => (.ok (), s')

/-- Answer a call as a store that can be written. -/
def answer : Plan.Performer MemoryStore
  | .upsert _ labels properties key, s => s.settle (s.upsert labels properties key)
  | .delete label key value, s => s.settle (s.delete label key value)
  | .list label filters, s => (.ok (s.list label filters), s)
  | .link source rel target, s => s.settle (s.link source rel target)
  | .sweepClusters id, s => let (n, s) := s.sweep (·.isStaleCluster id); (.ok n, s)
  | .sweepLabel label id, s =>
      if label = Label.event then (.ok 0, s)
      else let (n, s) := s.sweep fun n => n.hasLabel label && n.isStale id; (.ok n, s)
  | .sweepAll id, s =>
      let (n, s) := s.sweep fun n => !n.hasLabel Label.event && n.isStale id; (.ok n, s)
  | .pruneEvents cluster cutoff, s =>
      let (n, s) := s.sweep (·.isExpiredEvent cluster cutoff.format); (.ok n, s)
  | .count id, s => (.ok (s.counts id), s)
  | .health, s => (.ok (), s)

/-- Count a call if it is an upsert, whatever its answer will be. -/
def arrival : Call → MemoryStore → MemoryStore
  | .upsert mode _ _ _, s => s.counting mode
  | _, s => s

/-- Answer a call: `arrival` counts it, and then it is refused as `unavailable` if it `needsWriter`
and the store cannot be written, and otherwise gets its `answer`. -/
def perform : Plan.Performer MemoryStore := fun c s =>
  let s := arrival c s
  if c.needsWriter && !s.writable then (.error .unavailable, s) else answer c s

@[simp] theorem graph_arrival (c : Call) (s : MemoryStore) : (arrival c s).graph = s.graph := by
  cases c <;> try rfl
  case upsert mode _ _ _ => cases mode <;> rfl

end MemoryStore

end ClusterGraph
