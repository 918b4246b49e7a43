import ClusterGraph.Proofs.Projection.Relating
import ClusterGraph.Proofs.Projection.Sequence

/-!
# ClusterGraph.Proofs.Projection.Updating

**What an update leaves of the version before it: none of its properties, and all of its
relationships.**

The node of an object is replaced in full, so nobody can tell from the nodes that there was an
earlier version (`Sync.created_update`). Relationships are made and not replaced: an update keeps
those that the earlier version called for, whether or not the object still calls for them, and
they last until one of their ends is deleted. So two versions are not the same as the second alone
(`Sync.not_created_update_alone`).
-/

namespace ClusterGraph

/-! ## The node of a fresh object -/

namespace Graph

section Fresh

variable {w : Writer} {now : Instant} {k : Kind} {o : ObjectOf k} {uid : String} {g : Graph}

theorem isUpsertTarget_of_fresh
    (hfresh : ∀ n ∈ g.nodes, n.hasLabel k.name = true → n.text? Key.uid ≠ some uid) :
    ∀ n ∈ g.nodes, n.isUpsertTarget [k.name] Key.uid (.text uid) = false := by
  intro n hn
  rw [Bool.eq_false_iff]
  intro htarget
  obtain ⟨hlabel, huid⟩ := Node.isUpsertTarget_uid.mp htarget
  exact hfresh n hn hlabel huid

/-- If the graph has no node with the `uid` of the object, `writeObject` adds one. -/
theorem writeObject_of_fresh
    (hfresh : ∀ n ∈ g.nodes, n.hasLabel k.name = true → n.text? Key.uid ≠ some uid) :
    g.writeObject w now k o uid
      = g.addNode [k.name] (storedProperties (ObjectOf.fields w.id now uid k o)) :=
  upsert_of_missing (isUpsertTarget_of_fresh hfresh) _

/-- Writing the second version of a fresh object leaves the nodes that writing it alone leaves, with
the same numbers. -/
theorem writeObject_again
    (hfresh : ∀ n ∈ g.nodes, n.hasLabel k.name = true → n.text? Key.uid ≠ some uid)
    (now : Instant) (o' : ObjectOf k) (now' : Instant) :
    ((g.follow w now k o uid).writeObject w now' k o' uid).nodes
        = (g.writeObject w now' k o' uid).nodes
      ∧ ((g.follow w now k o uid).writeObject w now' k o' uid).nextId
        = (g.writeObject w now' k o' uid).nextId := by
  have hnodes : (g.follow w now k o uid).nodes = g.nodes
      ++ [⟨g.nextId, [k.name], storedProperties (ObjectOf.fields w.id now uid k o)⟩] := by
    rw [nodes_follow, writeObject_of_fresh hfresh, nodes_addNode]
  have htarget : (⟨g.nextId, [k.name], storedProperties (ObjectOf.fields w.id now uid k o)⟩ :
      Node).isUpsertTarget [k.name] Key.uid (.text uid) = true := by
    refine Node.isUpsertTarget_uid.mpr ⟨Node.hasLabel_of_labels_eq rfl, ?_⟩
    rw [Node.text?, ObjectOf.storedUid]
    rfl
  rw [writeObject_of_fresh hfresh]
  unfold writeObject
  rw [upsert_of_first hnodes (isUpsertTarget_of_fresh hfresh) htarget]
  refine ⟨rfl, ?_⟩
  rw [nextId_follow, writeObject_of_fresh hfresh]
  rfl

end Fresh

end Graph

/-! ## Two versions -/

namespace Sync

theorem writeObject_of_ne_event {k : Kind} (hk : k ≠ .event) (w : Writer) (now now' : Instant)
    (o : ObjectOf k) (uid : String) (g : Graph) :
    g.writeObject w now k o uid = g.writeObject w now' k o uid := by
  unfold Graph.writeObject ObjectOf.fields
  rw [ObjectOf.ownFields_of_ne_event hk now now']

variable {w : Writer} {k : Kind} {s : MemoryStore}

/-- Two versions of an object that had no node, one after the other, for kinds other than events.
The nodes are those that the second version leaves alone, and the edges are those that either
version leaves: an update replaces all properties, but removes no edge. -/
theorem created_update (hk : k ≠ .event) (h : s.writable = true) {uid : String}
    (hfresh : ∀ n ∈ s.graph.nodes, n.hasLabel k.name = true → n.text? Key.uid ≠ some uid)
    {first second : RawObject} {o o' : ObjectOf k} (hfirst : first.convert k k.name = .ok o)
    (hsecond : second.convert k k.name = .ok o') (huid : (ObjectOf.objectMeta k o).uid = some uid)
    (huid' : (ObjectOf.objectMeta k o').uid = some uid) (now now' now'' : Instant) :
    (created w now' k second (created w now k first s)).graph.nodes
        = (created w now'' k second s).graph.nodes
      ∧ (created w now' k second (created w now k first s)).graph.nextId
        = (created w now'' k second s).graph.nextId
      ∧ ∀ e, e ∈ (created w now' k second (created w now k first s)).graph.edges
          ↔ e ∈ (created w now k first s).graph.edges
            ∨ e ∈ (created w now'' k second s).graph.edges := by
  by_cases hempty : uid = ""
  -- Without an identity neither version is followed.
  · have hnone : ∀ (m : ObjectMeta), m.uid = some uid → ∀ v, m.uid = some v → v = "" := by
      intro m hm v hv
      rw [hm] at hv
      rw [← Option.some.inj hv, hempty]
    rw [created_of_unidentified w now hfirst (hnone _ huid),
      created_of_unidentified w now' hsecond (hnone _ huid'),
      created_of_unidentified w now'' hsecond (hnone _ huid')]
    exact ⟨rfl, rfl, fun e => (or_self_iff).symm⟩
  · have hs := writable_created w now k first h
    rw [graph_created w now' hsecond huid' hempty hs, graph_created w now'' hsecond huid' hempty h,
      graph_created w now hfirst huid hempty h]
    obtain ⟨hnodes, hnext⟩ := Graph.writeObject_again (w := w) (o := o) hfresh now o' now'
    have htime := writeObject_of_ne_event hk w now' now'' o' uid s.graph
    rw [htime] at hnodes hnext
    refine ⟨hnodes, hnext, fun e => ?_⟩
    -- What was there before the first version is among what the first version leaves.
    have hkept : e ∈ s.graph.edges → e ∈ (s.graph.follow w now k o uid).edges :=
      fun he => Graph.mem_edges_follow.mpr (.inl he)
    rw [@Graph.mem_edges_follow _ now', @Graph.mem_edges_follow _ now'', hnodes,
      ← or_assoc, or_iff_left_of_imp hkept]

/-- An ingress that routes to `services` of its namespace. -/
def routing (services : List String) : RawObject :=
  .typed .ingress
    ⟨⟨some "i", some "front", some "shop", none, none, none, []⟩, some ⟨none, [], false, services⟩⟩

/-- A store with the service `web`. -/
def serving : MemoryStore :=
  .ofGraph ⟨1, [⟨0, [Kind.service.name], Dict.ofList [(Key.uid, .text "s"),
    (Key.namespacedName, .text "shop/web"), (Key.clusterName, .text "c1")]⟩], []⟩

/-- Writer for the cluster `c1`, without owners. -/
def shopWriter : Writer :=
  ⟨⟨"c1", "h1"⟩, OwnerKinds.empty⟩

/-- Instance of `created_update`: the ingress no longer routes to the service. Its node says so, and
the edge stays. -/
theorem created_update_routing :
    (created shopWriter ⟨1, 0⟩ .ingress (routing [])
        (created shopWriter ⟨0, 0⟩ .ingress (routing ["web"]) serving)).graph.nodes
      = (created shopWriter ⟨1, 0⟩ .ingress (routing []) serving).graph.nodes
    ∧ (created shopWriter ⟨1, 0⟩ .ingress (routing []) serving).graph.edges = []
    ∧ ⟨1, .routesTo, 0⟩ ∈ (created shopWriter ⟨1, 0⟩ .ingress (routing [])
        (created shopWriter ⟨0, 0⟩ .ingress (routing ["web"]) serving)).graph.edges := by
  have hupdate := @created_update shopWriter .ingress serving (by decide) rfl "i" (by decide)
    (routing ["web"]) (routing []) _ _ rfl rfl rfl rfl ⟨0, 0⟩ ⟨1, 0⟩ ⟨1, 0⟩
  have hrouted : ⟨1, .routesTo, 0⟩
      ∈ (created shopWriter ⟨0, 0⟩ .ingress (routing ["web"]) serving).graph.edges := by
    decide +kernel
  have halone : (created shopWriter ⟨1, 0⟩ .ingress (routing []) serving).graph.edges = [] := by
    decide +kernel
  exact ⟨hupdate.1, halone, (hupdate.2.2 _).mpr (.inl hrouted)⟩

/-- Counterexample: the second version alone leaves fewer edges than both one after the other. -/
theorem not_created_update_alone :
    ¬∀ (w : Writer) (k : Kind) (s : MemoryStore) (uid : String) (first second : RawObject)
        (o o' : ObjectOf k) (now now' : Instant),
      k ≠ .event → s.writable = true →
      (∀ n ∈ s.graph.nodes, n.hasLabel k.name = true → n.text? Key.uid ≠ some uid) →
      first.convert k k.name = .ok o → second.convert k k.name = .ok o' →
      (ObjectOf.objectMeta k o).uid = some uid → (ObjectOf.objectMeta k o').uid = some uid →
      (created w now' k second (created w now k first s)).graph.nodes
          = (created w now' k second s).graph.nodes
        ∧ ∀ e, e ∈ (created w now' k second (created w now k first s)).graph.edges
            ↔ e ∈ (created w now' k second s).graph.edges := by
  intro h
  have hsame := h shopWriter .ingress serving "i" (routing ["web"]) (routing []) _ _ ⟨0, 0⟩ ⟨1, 0⟩
    (by decide) rfl (by decide) rfl rfl rfl rfl
  have hstays : ⟨1, .routesTo, 0⟩ ∈ (created shopWriter ⟨1, 0⟩ .ingress (routing [])
      (created shopWriter ⟨0, 0⟩ .ingress (routing ["web"]) serving)).graph.edges := by
    decide +kernel
  have hgone : ⟨1, .routesTo, 0⟩
      ∉ (created shopWriter ⟨1, 0⟩ .ingress (routing []) serving).graph.edges := by
    decide +kernel
  exact hgone ((hsame.2 _).mp hstays)

end Sync

end ClusterGraph
