import ClusterGraph.Proofs.Projection.Relating

/-!
# ClusterGraph.Proofs.Projection.Repeating

**A notification that is delivered again changes nothing.**

Watches deliver at least once. That does no harm, whatever is in the graph: an object that is
refused is refused again, one that the store does not take is not taken again, and one that was
followed finds its own node and its own relationships (`Graph.follow_follow`). The second delivery
looks at the nodes that the first one saw when it made its relationships, so it calls for the
same ones.
-/

namespace ClusterGraph
namespace Sync

variable {w : Writer} {now : Instant} {k : Kind} {raw : RawObject}

/-- The graph has the node of the object, with the properties of this version. -/
def Shows (w : Writer) (now : Instant) (k : Kind) (raw : RawObject) (g : Graph) : Prop :=
  ∃ (o : ObjectOf k) (uid : String), raw.convert k k.name = .ok o
    ∧ (ObjectOf.objectMeta k o).uid = some uid
    ∧ ∃ n ∈ g.nodes, n.isMeantBy (.byUid k.name uid) = true
      ∧ n.properties = storedProperties (ObjectOf.fields w.id now uid k o)

/-- After `follow` the graph `Shows` the object. -/
theorem shows_follow {o : ObjectOf k} {uid : String} (hconvert : raw.convert k k.name = .ok o)
    (huid : (ObjectOf.objectMeta k o).uid = some uid) (g : Graph) :
    Shows w now k raw (g.follow w now k o uid) := by
  have hwritten : ∃ n ∈ (g.follow w now k o uid).nodes,
      n.isUpsertTarget [k.name] Key.uid (.text uid) = true
        ∧ n.properties = storedProperties (ObjectOf.fields w.id now uid k o) :=
    Graph.exists_mem_upsert_target (ObjectOf.storedUid w.id now uid k o)
  obtain ⟨n, hn, htarget, hproperties⟩ := hwritten
  exact ⟨o, uid, hconvert, huid, n, hn,
    Node.isMeantBy_uid.mpr (Node.isUpsertTarget_uid.mp htarget), hproperties⟩

/-- Running `create` comes to an idempotent change of the graph. Result and change depend on whether
the store is `writable`, but not on the graph. -/
theorem exists_run_create (w : Writer) (now : Instant) (k : Kind) (raw : RawObject)
    (writable : Bool) :
    ∃ (result : Except SyncError Unit) (change : Graph → Graph),
      (∀ g, change (change g) = change g)
      ∧ ((∃ e, result = .error e) ∧ change = id
        ∨ result = .ok () ∧ ∀ g, Shows w now k raw (change g))
      ∧ ∀ s : MemoryStore, s.writable = writable → ∃ upserts,
        (create w now k raw).run MemoryStore.perform s
          = (result, { s with graph := change s.graph, upserts }) := by
  rcases create_cases w now k raw with ⟨e, he⟩ | ⟨o, uid, hconvert, huid, hne, -⟩
  · refine ⟨_, id, fun _ => rfl, .inl ⟨⟨.conversion e, rfl⟩, rfl⟩, fun s _ => ⟨s.upserts, ?_⟩⟩
    rw [he]
    rfl
  · cases writable with
    | false =>
        exact ⟨_, id, fun _ => rfl, .inl ⟨⟨.store .unavailable, rfl⟩, rfl⟩,
          fun s h => ⟨s.upserts + 1, run_create_of_not_writable w now hconvert huid hne h⟩⟩
    | true =>
        exact ⟨.ok (), Graph.follow w now k o uid, fun _ => Graph.follow_follow,
          .inr ⟨rfl, shows_follow hconvert huid⟩, fun _ => run_create w now hconvert huid hne⟩

/-- Idempotence of `create`, for every kind, object and store: the second time it has the same
result, and the graph stays as the first time left it. If the result is an error, the graph is the
one from before, and otherwise it `Shows` the object. -/
theorem create_twice (w : Writer) (now : Instant) (k : Kind) (raw : RawObject)
    (s : MemoryStore) :
    let once := (create w now k raw).run MemoryStore.perform s
    let twice := (create w now k raw).run MemoryStore.perform once.2
    once.2.writable = s.writable
      ∧ twice.1 = once.1
      ∧ twice.2.graph = once.2.graph
      ∧ ((∃ e, once.1 = .error e) ∧ once.2.graph = s.graph
        ∨ once.1 = .ok () ∧ Shows w now k raw once.2.graph) := by
  intro once twice
  obtain ⟨result, change, hagain, hresult, hrun⟩ := exists_run_create w now k raw s.writable
  obtain ⟨upserts, hfirst⟩ := hrun s rfl
  obtain ⟨upserts', hsecond⟩ := hrun { s with graph := change s.graph, upserts } rfl
  have honce : once = (result, { s with graph := change s.graph, upserts }) := hfirst
  have htwice : twice
      = (result, { s with graph := change (change s.graph), upserts := upserts' }) := by
    show (create w now k raw).run MemoryStore.perform once.2 = _
    rw [honce]
    exact hsecond
  rw [htwice, honce]
  refine ⟨rfl, rfl, hagain s.graph, ?_⟩
  rcases hresult with ⟨herror, rfl⟩ | ⟨hok, hshows⟩
  · exact .inl ⟨herror, rfl⟩
  · exact .inr ⟨hok, hshows s.graph⟩

end Sync
end ClusterGraph
