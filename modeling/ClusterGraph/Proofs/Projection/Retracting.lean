import ClusterGraph.Proofs.Graph.Numbering
import ClusterGraph.Proofs.Projection.Anchoring
import ClusterGraph.Proofs.Projection.Updating

/-!
# ClusterGraph.Proofs.Projection.Retracting

**What following an object touches, and that deleting the object takes all of it back.**

To follow an object is to write one node, its own, and to add relationships at nodes that bear its
identity (`Graph.Touches`). All else is left alone, whatever is in the graph. So nothing of it
outlasts a deletion of the nodes of that identity: this is read off the footprint alone
(`Graph.Touches.removeWhere`), and the kinds and their relationships no longer matter there.

The deletion asks the raw object for its identifier, the node has the one that was read from the
object. They are the same for all that is an object at all (`RawObject.IsObject.uid_of_convert`).
-/

namespace ClusterGraph

/-! ## Footprints -/

namespace Graph

/-- Graph `h` comes from `g` by writing one node for `uid`: in place of one that is there, or at the
end if there is none. -/
inductive Writes (label uid : String) (p : Properties) (g h : Graph) : Prop where
  | replaced {before after : List Node} {n : Node} (hold : g.nodes = before ++ n :: after)
      (hn : n.isMeantBy (.byUid label uid) = true)
      (hnew : h.nodes = before ++ { n with properties := p } :: after)
      (hnext : h.nextId = g.nextId)
  | added (hnone : ∀ n ∈ g.nodes, n.isMeantBy (.byUid label uid) = false)
      (hnew : h.nodes = g.nodes ++ [⟨g.nextId, [label], p⟩]) (hnext : h.nextId = g.nextId + 1)

/-- Graph `h` comes from `g` by writing one node for `uid` and adding edges that start or end at
such a node. -/
structure Touches (label uid : String) (p : Properties) (g h : Graph) : Prop where
  identified : p.find? Key.uid = some (.text uid)
  node : g.Writes label uid p h
  edges : ∃ more, h.edges = g.edges ++ more ∧ ∀ e ∈ more, ∃ n ∈ h.nodes,
    n.isMeantBy (.byUid label uid) = true ∧ (n.id = e.source ∨ n.id = e.target)

variable {label uid : String} {p : Properties} {g h : Graph}

theorem isMeantBy_byUid_iff {n : Node} : n.isMeantBy (.byUid label uid) = true
    ↔ n.isUpsertTarget [label] Key.uid (.text uid) = true :=
  Node.isMeantBy_uid.trans Node.isUpsertTarget_uid.symm

/-- An upsert by `uid` is one of `Writes`. -/
theorem writes_upsert (label uid : String) (p : Properties) (g : Graph) :
    g.Writes label uid p (g.upsert [label] Key.uid (.text uid) p) := by
  rcases g.upsert_cases [label] Key.uid (.text uid) p with
    ⟨before, n, after, hnodes, -, hn, hwritten⟩ | ⟨hnone, hadded⟩
  · rw [hwritten]
    exact .replaced hnodes (isMeantBy_byUid_iff.mpr hn) rfl rfl
  · rw [hadded]
    refine .added (fun n hn => Bool.eq_false_iff.mpr fun hmeant => ?_) rfl rfl
    rw [isMeantBy_byUid_iff, hnone n hn] at hmeant
    cases hmeant

end Graph

/-- Every relation of an object has the object itself at one end. -/
theorem ObjectOf.isAt_relations (w : Writer) (k : Kind) (o : ObjectOf k) (nodes : List Node) :
    ∀ l ∈ relations w k o nodes, l.IsAt (Sync.self k (objectMeta k o)) := by
  unfold relations
  rw [List.forall_mem_append]
  refine ⟨fun l hl => (isDirect_links k o l hl).isAt, fun l hl => ?_⟩
  cases hsearch : search? (Sync.self k (objectMeta k o)) k o with
  | none =>
      rw [hsearch] at hl
      cases hl
  | some s =>
      rw [hsearch] at hl
      obtain ⟨n, -, -, hl⟩ := Search.mem_found.mp hl
      exact (isSelection_of_search? hsearch hl).isAt

namespace Graph

/-- Following an object `Touches` the node of its `uid` and nothing else. -/
theorem touches_follow (w : Writer) (now : Instant) {k : Kind} {o : ObjectOf k} {uid : String}
    (huid : (ObjectOf.objectMeta k o).uid = some uid) (g : Graph) :
    g.Touches k.name uid (storedProperties (ObjectOf.fields w.id now uid k o))
      (g.follow w now k o uid) := by
  have hself : Sync.self k (ObjectOf.objectMeta k o) = .byUid k.name uid := by
    unfold Sync.self
    rw [huid]
    rfl
  have hwrites := writes_upsert k.name uid
    (storedProperties (ObjectOf.fields w.id now uid k o)) g
  refine ⟨ObjectOf.storedUid w.id now uid k o, ?_, ?_⟩
  -- The relationships come after the node and are no part of what is written.
  · cases hwrites with
    | replaced hold hn hnew hnext => exact .replaced hold hn hnew hnext
    | added hnone hnew hnext => exact .added hnone hnew hnext
  · obtain ⟨more, hedges, -, hmore⟩ := edges_follow_eq_append w now o uid g
    refine ⟨more, hedges, fun e he => ?_⟩
    obtain ⟨-, l, hl, he⟩ := (hmore e).mp he
    obtain ⟨-, -, ⟨a, ha, hasource, haid⟩, b, hb, hbtarget, hbid⟩ := Link.mem_edges.mp he
    rcases ObjectOf.isAt_relations w k o _ l hl with hat | hat
    · rw [hat, hself] at hasource
      exact ⟨a, ha, hasource, .inl haid⟩
    · rw [hat, hself] at hbtarget
      exact ⟨b, hb, hbtarget, .inr hbid⟩

/-! ## What a deletion leaves -/

section Deletion

variable {label uid : String} {p : Properties} {g h : Graph}

/-- A node with the properties that were written `isMeantBy` the reference to `uid`. -/
theorem Touches.isMeantBy (htouches : g.Touches label uid p h) {id : Nat} {labels : List String}
    (hlabel : labels.contains label = true) :
    Node.isMeantBy ⟨id, labels, p⟩ (.byUid label uid) = true := by
  refine Node.isMeantBy_uid.mpr ⟨hlabel, ?_⟩
  unfold Node.text?
  rw [htouches.identified]
  rfl

/-- The nodes that are not of `uid` are the same in both graphs. -/
theorem Touches.filter_nodes (htouches : g.Touches label uid p h) :
    h.nodes.filter (fun n => !n.isMeantBy (.byUid label uid))
      = g.nodes.filter fun n => !n.isMeantBy (.byUid label uid) := by
  cases htouches.node with
  | @replaced before after n hold hn hnew _ =>
      have hwritten : ({ n with properties := p } : Node).isMeantBy (.byUid label uid) = true :=
        htouches.isMeantBy (Node.isMeantBy_uid.mp hn).1
      rw [hold, hnew, List.filter_append, List.filter_append,
        List.filter_cons_of_neg (by simp [hwritten]), List.filter_cons_of_neg (by simp [hn])]
  | added _ hnew _ =>
      have hwritten : Node.isMeantBy ⟨g.nextId, [label], p⟩ (.byUid label uid) = true :=
        htouches.isMeantBy (by simp)
      rw [hnew, List.filter_append, List.filter_cons_of_neg (by simp [hwritten]), List.filter_nil,
        List.append_nil]

/-- The numbers of the nodes of `uid` are the same in both graphs, but for a new one. -/
theorem Touches.ids (htouches : g.Touches label uid p h) :
    (h.nodesAt (.byUid label uid)).map Node.id = (g.nodesAt (.byUid label uid)).map Node.id
      ∨ (h.nodesAt (.byUid label uid)).map Node.id
        = (g.nodesAt (.byUid label uid)).map Node.id ++ [g.nextId] := by
  unfold nodesAt nodesWhere
  cases htouches.node with
  | @replaced before after n hold hn hnew _ =>
      have hwritten : ({ n with properties := p } : Node).isMeantBy (.byUid label uid) = true :=
        htouches.isMeantBy (Node.isMeantBy_uid.mp hn).1
      left
      rw [hold, hnew, List.filter_append, List.filter_append,
        List.filter_cons_of_pos (by exact hwritten), List.filter_cons_of_pos (by exact hn)]
      simp
  | added _ hnew _ =>
      have hwritten : Node.isMeantBy ⟨g.nextId, [label], p⟩ (.byUid label uid) = true :=
        htouches.isMeantBy (by simp)
      right
      rw [hnew, List.filter_append, List.filter_cons_of_pos (by exact hwritten)]
      simp

/-- For a node of `g`, its number is one of the nodes of `uid` in `h` just if it is in `g`: the
number of a new node was used by none before. -/
theorem Touches.mem_ids_iff (htouches : g.Touches label uid p h)
    (hbelow : ∀ n ∈ g.nodes, n.id < g.nextId) {m : Node} (hm : m ∈ g.nodes) :
    m.id ∈ (h.nodesAt (.byUid label uid)).map Node.id
      ↔ m.id ∈ (g.nodesAt (.byUid label uid)).map Node.id := by
  rcases htouches.ids with hids | hids
  · rw [hids]
  · rw [hids, List.mem_append, List.mem_singleton]
    exact or_iff_left (Nat.ne_of_lt (hbelow m hm))

/-- Removing the nodes of `uid` leaves the same nodes and edges in both graphs. -/
theorem Touches.removeWhere (htouches : g.Touches label uid p h) (hclosed : g.Closed)
    (hbelow : ∀ n ∈ g.nodes, n.id < g.nextId) :
    (h.removeWhere (·.isMeantBy (.byUid label uid))).nodes
        = (g.removeWhere (·.isMeantBy (.byUid label uid))).nodes
      ∧ (h.removeWhere (·.isMeantBy (.byUid label uid))).edges
        = (g.removeWhere (·.isMeantBy (.byUid label uid))).edges := by
  refine ⟨htouches.filter_nodes, ?_⟩
  obtain ⟨more, hedges, hmore⟩ := htouches.edges
  have hnew : ∀ e ∈ more, e.source ∈ (h.nodesAt (.byUid label uid)).map Node.id
      ∨ e.target ∈ (h.nodesAt (.byUid label uid)).map Node.id := by
    intro e he
    obtain ⟨n, hn, hmeant, hend⟩ := hmore e he
    have hid := List.mem_map_of_mem (f := Node.id) (mem_nodesAt.mpr ⟨hn, hmeant⟩)
    rcases hend with heq | heq
    · exact .inl (heq ▸ hid)
    · exact .inr (heq ▸ hid)
  have hgone : more.filter (fun e =>
      !((h.nodesAt (.byUid label uid)).map Node.id).contains e.source
        && !((h.nodesAt (.byUid label uid)).map Node.id).contains e.target) = [] := by
    refine List.filter_eq_nil_iff.mpr fun e he => ?_
    rcases hnew e he with hend | hend <;> simp [hend]
  show h.edges.filter (fun e =>
      !((h.nodesAt (.byUid label uid)).map Node.id).contains e.source
        && !((h.nodesAt (.byUid label uid)).map Node.id).contains e.target) = _
  rw [hedges, List.filter_append, hgone, List.append_nil]
  -- Both ends of a relationship that was there are nodes that were there, so it goes or stays as
  -- it would have done before.
  refine List.filter_congr fun e he => ?_
  obtain ⟨⟨a, ha, hsource⟩, b, hb, htarget⟩ := hclosed e he
  rw [← hsource, ← htarget, Bool.eq_iff_iff]
  simp only [Bool.and_eq_true, Bool.not_eq_true', List.contains_eq_mem, decide_eq_false_iff_not,
    htouches.mem_ids_iff hbelow ha, htouches.mem_ids_iff hbelow hb]
  rfl

end Deletion

end Graph

/-! ## Creation and deletion -/

namespace Sync

variable {w : Writer} {now : Instant} {k : Kind} {raw : RawObject} {s : MemoryStore}

/-- Running `delete` removes the nodes of the `uid` with their edges, in a store that can be
written. -/
theorem run_delete (hk : k ≠ .event) {uid : String} (huid : raw.uid? = some uid) (hne : uid ≠ "")
    (h : s.writable = true) :
    (delete k raw).run MemoryStore.perform s
      = (.ok (), s.withGraph (s.graph.removeWhere (·.isMeantBy (.byUid k.name uid)))) := by
  rw [delete_of_requireUid hk (RawObject.requireUid_eq_ok_iff.mpr ⟨huid, hne⟩), Plan.run_call,
    MemoryStore.perform_delete k.isIdentifier_name uid h]
  rfl

/-- Case analysis of running `create`: either the object is refused and the store stays as it is, or
it `Touches` the graph at its own `uid`. -/
theorem run_create_cases (w : Writer) (now : Instant) (k : Kind) (hraw : raw.IsObject)
    (h : s.writable = true) :
    let written := (create w now k raw).run MemoryStore.perform s
    written.2.writable = true
      ∧ ((∃ e, written.1 = .error e) ∧ written.2.graph = s.graph
        ∨ written.1 = .ok () ∧ ∃ (o : ObjectOf k) (uid : String),
            raw.convert k k.name = .ok o ∧ raw.uid? = some uid
            ∧ s.graph.Touches k.name uid (storedProperties (ObjectOf.fields w.id now uid k o))
                written.2.graph) := by
  intro written
  refine ⟨writable_created w now k raw h, ?_⟩
  rcases create_cases w now k raw with ⟨e, he⟩ | ⟨o, uid, hconvert, huid, hne, -⟩
  · have hwritten : written = (.error (.conversion e), s) := by
      show (create w now k raw).run MemoryStore.perform s = _
      rw [he]
      rfl
    rw [hwritten]
    exact .inl ⟨⟨_, rfl⟩, rfl⟩
  · obtain ⟨upserts, hrun⟩ := run_create w now hconvert huid hne h
    have hwritten : written = (.ok (), { s with graph := s.graph.follow w now k o uid, upserts }) :=
      hrun
    rw [hwritten]
    exact .inr ⟨rfl, o, uid, hconvert, (hraw.uid_of_convert hconvert).symm.trans huid,
      Graph.touches_follow w now huid s.graph⟩

/-- Deletion undoes creation, in any graph whose edges have both ends. Running `create` and then
`delete` leaves the nodes and edges that `delete` alone leaves; and these are the ones from before,
if the object had no node. -/
theorem delete_undoes_create (w : Writer) (now : Instant) {k : Kind} (hk : k ≠ .event)
    {raw : RawObject} (hraw : raw.IsObject) {s : MemoryStore} (h : s.writable = true)
    (hclosed : s.graph.Closed) (hbelow : ∀ n ∈ s.graph.nodes, n.id < s.graph.nextId) :
    let written := (create w now k raw).run MemoryStore.perform s
    let undone := (delete k raw).run MemoryStore.perform written.2
    let alone := (delete k raw).run MemoryStore.perform s
    ((∃ e, written.1 = .error e) ∧ written.2.graph = s.graph
      ∨ written.1 = .ok () ∧ ∃ (o : ObjectOf k) (uid : String),
          raw.convert k k.name = .ok o ∧ raw.uid? = some uid
          ∧ s.graph.Touches k.name uid (storedProperties (ObjectOf.fields w.id now uid k o))
              written.2.graph)
    ∧ ∀ uid, raw.uid? = some uid → uid ≠ "" →
        undone.1 = .ok () ∧ alone.1 = .ok ()
        ∧ undone.2.graph.nodes = alone.2.graph.nodes
        ∧ undone.2.graph.edges = alone.2.graph.edges
        ∧ ((∀ n ∈ s.graph.nodes, n.isMeantBy (.byUid k.name uid) = false) →
            undone.2.graph.nodes = s.graph.nodes ∧ undone.2.graph.edges = s.graph.edges) := by
  intro written undone alone
  obtain ⟨hwritable, hcreated⟩ := run_create_cases w now k hraw h
  refine ⟨hcreated, fun uid huid hne => ?_⟩
  have halone : alone
      = (.ok (), s.withGraph (s.graph.removeWhere (·.isMeantBy (.byUid k.name uid)))) :=
    run_delete hk huid hne h
  have hundone : undone = (.ok (), written.2.withGraph
      (written.2.graph.removeWhere (·.isMeantBy (.byUid k.name uid)))) :=
    run_delete hk huid hne hwritable
  have hsame : undone.2.graph.nodes = alone.2.graph.nodes
      ∧ undone.2.graph.edges = alone.2.graph.edges := by
    rw [halone, hundone]
    rcases hcreated with ⟨-, hkept⟩ | ⟨-, o, other, -, hother, htouches⟩
    · show (written.2.graph.removeWhere _).nodes = _ ∧ (written.2.graph.removeWhere _).edges = _
      rw [show written.2.graph = s.graph from hkept]
      exact ⟨rfl, rfl⟩
    · cases huid.symm.trans hother
      exact htouches.removeWhere hclosed hbelow
  refine ⟨by rw [hundone], by rw [halone], hsame.1, hsame.2, fun hnone => ?_⟩
  have hkept : alone.2.graph = s.graph := by
    rw [halone]
    exact Graph.removeWhere_of_forall_not hnone
  rw [hsame.1, hsame.2, hkept]
  exact ⟨rfl, rfl⟩

/-- A volume that is bound to a claim, as a watch delivers it. -/
def volume : RawObject :=
  .unstructured (.object (Dict.ofList
    [("metadata", .object (Dict.ofList [("uid", .text "v"), ("name", .text "disk")])),
      ("spec", .object (Dict.ofList [("claimRef", .object (Dict.ofList
        [("namespace", .text "shop"), ("name", .text "data")]))]))]))

/-- A store with that claim and its namespace. -/
def claiming : MemoryStore :=
  .ofGraph ⟨2, [⟨0, [Kind.namespace_.name], Dict.ofList [(Key.uid, .text "n")]⟩,
    ⟨1, [Kind.persistentVolumeClaim.name], Dict.ofList [(Key.uid, .text "c"),
      (Key.namespacedName, .text "shop/data"), (Key.clusterName, .text "c1")]⟩],
    [⟨1, .belongsTo, 0⟩]⟩

/-- Instance of `delete_undoes_create`: the claim has an edge to the volume until it is deleted, and
keeps the one to its namespace. -/
theorem delete_undoes_create_volume :
    (created shopWriter ⟨0, 0⟩ .persistentVolume volume claiming).graph.edges
        = [⟨1, .belongsTo, 0⟩, ⟨1, .uses, 2⟩]
    ∧ ((delete .persistentVolume volume).run MemoryStore.perform
          (created shopWriter ⟨0, 0⟩ .persistentVolume volume claiming)).2.graph.nodes
        = claiming.graph.nodes
    ∧ ((delete .persistentVolume volume).run MemoryStore.perform
          (created shopWriter ⟨0, 0⟩ .persistentVolume volume claiming)).2.graph.edges
        = [⟨1, .belongsTo, 0⟩] := by
  have hclosed : claiming.graph.Closed := by
    intro e he
    rw [List.mem_singleton.mp he]
    exact ⟨⟨_, List.mem_cons_of_mem _ List.mem_cons_self, rfl⟩, _, List.mem_cons_self, rfl⟩
  obtain ⟨-, hundo⟩ := delete_undoes_create shopWriter ⟨0, 0⟩ (k := .persistentVolume) (by decide)
    (show volume.IsObject from rfl) rfl hclosed (by decide)
  obtain ⟨-, -, -, -, hback⟩ := hundo "v" (by decide +kernel) (by decide)
  obtain ⟨hnodes, hedges⟩ := hback (by decide +kernel)
  exact ⟨by decide +kernel, hnodes, hedges⟩

end Sync
end ClusterGraph
