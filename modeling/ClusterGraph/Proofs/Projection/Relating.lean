import ClusterGraph.Proofs.Projection.Following

/-!
# ClusterGraph.Proofs.Projection.Relating

**What following an object does to a graph as a whole, relationships included: its node is
written, and what it calls for is joined among the nodes that are there then.**

Node and relationships come from one plan that asks the store again and again, so what is in the
graph in the end is first said call by call (`MemoryStore.perform_link`), then for lists of links
(`Sync.run_linkAll`) and for the search for the other side of a selection (`Sync.run_relate`).
`Sync.run_create` puts them together: a writable store goes from one graph to `Graph.follow` of
it, whatever is in it.

Links are never taken back. That is all there is to know of the relationships that were there
before: they stay (`Graph.mem_edges_follow`).
-/

namespace ClusterGraph

/-! ## Links -/

namespace Statement

theorem isOk_endpoint (variable_ : String) (ref : NodeRef) :
    (endpoint variable_ ref).isOk = (isIdentifier ref.label && isIdentifier ref.key) := by
  unfold endpoint checkName
  by_cases hlabel : isIdentifier ref.label = true <;>
    by_cases hkey : isIdentifier ref.key = true <;>
    simp [hlabel, hkey, bind, Except.bind, pure, Except.pure, Except.isOk, Except.toBool]

theorem isOk_relationship (source : NodeRef) (rel : Relationship) (target : NodeRef) :
    (relationship source rel target).isOk
      = (isIdentifier source.label && isIdentifier source.key
          && (isIdentifier target.label && isIdentifier target.key)) := by
  rw [← isOk_endpoint "a", ← isOk_endpoint "b"]
  unfold relationship
  cases endpoint "a" source <;> cases endpoint "b" target <;> rfl

end Statement

namespace Link

/-- Whether all names in the link are identifiers, so that there is a statement for it. -/
def isValid (l : Link) : Bool :=
  isIdentifier l.source.label && isIdentifier l.source.key
    && (isIdentifier l.target.label && isIdentifier l.target.key)

/-- The edges that a link makes among `nodes`; none if it is not valid. -/
def edges (nodes : List Node) (l : Link) : List Edge :=
  if l.isValid then
    Graph.edgesBetween (nodes.filter (·.isMeantBy l.source)) l.rel
      (nodes.filter (·.isMeantBy l.target))
  else []

theorem mem_edges {nodes : List Node} {l : Link} {e : Edge} :
    e ∈ l.edges nodes ↔ l.isValid = true ∧ e.rel = l.rel
      ∧ (∃ a ∈ nodes, a.isMeantBy l.source = true ∧ a.id = e.source)
      ∧ ∃ b ∈ nodes, b.isMeantBy l.target = true ∧ b.id = e.target := by
  unfold edges
  split
  · rename_i hvalid
    rw [Graph.mem_edgesBetween]
    simp only [List.mem_filter, and_assoc, hvalid, true_and]
  · rename_i hvalid
    simp [hvalid]

end Link

namespace Graph

/-- The graph with the edges of `links` among its nodes added. -/
def join (g : Graph) (links : List Link) : Graph :=
  { g with edges := (links.flatMap (Link.edges g.nodes)).foldl addEdge g.edges }

@[simp] theorem nodes_join (g : Graph) (links : List Link) : (g.join links).nodes = g.nodes :=
  rfl

@[simp] theorem nextId_join (g : Graph) (links : List Link) : (g.join links).nextId = g.nextId :=
  rfl

@[simp] theorem join_nil (g : Graph) : g.join [] = g :=
  rfl

theorem join_append (g : Graph) (first second : List Link) :
    g.join (first ++ second) = (g.join first).join second := by
  unfold join
  rw [List.flatMap_append, List.foldl_append]

theorem mem_edges_join {g : Graph} {links : List Link} {e : Edge} :
    e ∈ (g.join links).edges ↔ e ∈ g.edges ∨ ∃ l ∈ links, e ∈ l.edges g.nodes := by
  unfold join
  rw [mem_foldl_addEdge, List.mem_flatMap]

theorem foldl_addEdge_of_subset {more edges : List Edge} (h : ∀ e ∈ more, e ∈ edges) :
    more.foldl addEdge edges = edges := by
  induction more with
  | nil => rfl
  | cons e rest ih =>
      rw [List.foldl_cons, addEdge, if_pos (h e (by simp))]
      exact ih fun f hf => h f (List.mem_cons_of_mem _ hf)

/-- Adding `more` edges puts those that are new at the end, each once. -/
theorem foldl_addEdge_eq_append (more edges : List Edge) :
    ∃ added, more.foldl addEdge edges = edges ++ added ∧ added.Nodup
      ∧ ∀ e, e ∈ added ↔ e ∉ edges ∧ e ∈ more := by
  induction more generalizing edges with
  | nil => exact ⟨[], by simp, .nil, by simp⟩
  | cons e rest ih =>
      obtain ⟨added, heq, hnodup, hadded⟩ := ih (addEdge edges e)
      rw [List.foldl_cons, heq]
      by_cases he : e ∈ edges
      · rw [addEdge, if_pos he] at hadded ⊢
        refine ⟨added, rfl, hnodup, fun f => (hadded f).trans ?_⟩
        rw [List.mem_cons]
        constructor
        · rintro ⟨hf, hrest⟩
          exact ⟨hf, .inr hrest⟩
        · rintro ⟨hf, rfl | hrest⟩
          · exact absurd he hf
          · exact ⟨hf, hrest⟩
      · rw [addEdge, if_neg he] at hadded ⊢
        refine ⟨e :: added, by simp, List.nodup_cons.mpr ⟨?_, hnodup⟩, fun f => ?_⟩
        · rw [hadded]
          simp
        · rw [List.mem_cons, List.mem_cons, hadded, List.mem_append, List.mem_singleton]
          by_cases hf : f = e
          · simp [hf, he]
          · simp [hf]

/-- If all edges of `links` are there already, `join` changes nothing. -/
theorem join_of_subset {g : Graph} {links : List Link}
    (h : ∀ l ∈ links, ∀ e ∈ l.edges g.nodes, e ∈ g.edges) : g.join links = g := by
  unfold join
  rw [foldl_addEdge_of_subset]
  intro e he
  obtain ⟨l, hl, he⟩ := List.mem_flatMap.mp he
  exact h l hl e he

end Graph

namespace MemoryStore

@[simp] theorem withGraph_graph (s : MemoryStore) : s.withGraph s.graph = s :=
  rfl

/-- Performing a link comes to `Graph.join`, in a store that can be written. -/
theorem perform_link (l : Link) {s : MemoryStore} (h : s.writable = true) :
    (perform l.call s).2 = s.withGraph (s.graph.join [l]) := by
  have hvalid := Statement.isOk_relationship l.source l.rel l.target
  rw [perform_of_writable h]
  show (s.settle (s.link l.source l.rel l.target)).2 = _
  unfold link
  cases hstatement : Statement.relationship l.source l.rel l.target with
  | error e =>
      rw [hstatement] at hvalid
      have hedges : ∀ f ∈ l.edges s.graph.nodes, f ∈ s.graph.edges := by
        intro f hf
        have hl : l.isValid = true := (Link.mem_edges.mp hf).1
        rw [Link.isValid, ← hvalid] at hl
        cases hl
      rw [Graph.join_of_subset fun l' hl' => List.mem_singleton.mp hl' ▸ hedges]
      rfl
  | ok text =>
      rw [hstatement] at hvalid
      have hl : l.isValid = true := hvalid.symm
      show s.withGraph (s.graph.link l.source l.rel l.target) = _
      unfold Graph.link Graph.join
      rw [List.flatMap_singleton, Link.edges, if_pos hl]
      rfl

end MemoryStore

/-! ## What an object calls for -/

namespace Search

/-- Whether `n` is among the answers to `Search.call`. -/
def isCandidate (w : Writer) (s : Search) (n : Node) : Bool :=
  n.hasLabel s.label && (n.holdsText Key.namespace_ s.namespace_
    && (n.holdsText Key.clusterName w.id.cluster && n.holdsText Key.instanceHash w.id.hash))

/-- The links that a search comes to among `nodes`. -/
def found (w : Writer) (nodes : List Node) (s : Search) : List Link :=
  ((nodes.filter (s.isCandidate w)).map Node.properties).filterMap s.link?

theorem mem_found {w : Writer} {nodes : List Node} {s : Search} {l : Link} :
    l ∈ s.found w nodes
      ↔ ∃ n ∈ nodes, s.isCandidate w n = true ∧ s.link? n.properties = some l := by
  simp only [found, List.mem_filterMap, List.mem_map, List.mem_filter]
  constructor
  · rintro ⟨_, ⟨n, ⟨hn, hcandidate⟩, rfl⟩, hl⟩
    exact ⟨n, hn, hcandidate, hl⟩
  · rintro ⟨n, hn, hcandidate, hl⟩
    exact ⟨n.properties, ⟨n, ⟨hn, hcandidate⟩, rfl⟩, hl⟩

end Search

/-- Performing `Search.call` lists the properties of the candidates, whether the store can be
written or not. -/
theorem MemoryStore.perform_search (w : Writer) (search : Search) (s : MemoryStore) :
    perform (search.call w) s
      = (.ok ((s.graph.nodes.filter (search.isCandidate w)).map Node.properties), s) := by
  show (Except.ok (s.list _ _), s) = _
  simp only [list, Graph.nodesWhere, List.all_cons, List.all_nil, Bool.and_true]
  rfl

/-- All links of an object among `nodes`: `ObjectOf.links`, and those that its search finds. -/
def ObjectOf.relations (w : Writer) (k : Kind) (o : ObjectOf k) (nodes : List Node) : List Link :=
  links w (Sync.self k (objectMeta k o)) k o
    ++ ((search? (Sync.self k (objectMeta k o)) k o).map (Search.found w nodes)).getD []

namespace Sync

variable {s : MemoryStore}

theorem run_linkAll (links : List Link) (h : s.writable = true) :
    ((linkAll links).run MemoryStore.perform s).2 = s.withGraph (s.graph.join links) := by
  induction links generalizing s with
  | nil => rfl
  | cons l rest ih =>
      have hl := MemoryStore.perform_link l h
      show ((linkAll rest).run MemoryStore.perform (MemoryStore.perform l.call s).2).2 = _
      rw [hl, ih (s := s.withGraph (s.graph.join [l])) h]
      show s.withGraph ((s.graph.join [l]).join rest) = s.withGraph (s.graph.join ([l] ++ rest))
      rw [Graph.join_append]

theorem run_select (w : Writer) (search : Search) (h : s.writable = true) :
    ((select w search).run MemoryStore.perform s).2
      = s.withGraph (s.graph.join (search.found w s.graph.nodes)) := by
  unfold select
  rw [Plan.run_call, MemoryStore.perform_search]
  exact run_linkAll _ h

/-- Running `relate` comes to `Graph.join` with the relations of the object. -/
theorem run_relate (w : Writer) (k : Kind) (o : ObjectOf k) (h : s.writable = true) :
    ((relate w k o).run MemoryStore.perform s).2
      = s.withGraph (s.graph.join (ObjectOf.relations w k o s.graph.nodes)) := by
  unfold ObjectOf.relations
  show (((linkAll _).bind _).run MemoryStore.perform s).2 = _
  rw [Plan.run_bind, run_linkAll _ h, Graph.join_append]
  cases ObjectOf.search? (self k (ObjectOf.objectMeta k o)) k o with
  | none => rfl
  | some search => exact run_select w search h

end Sync

/-! ## Following an object -/

namespace Graph

/-- The graph after the upsert of the node of an object. -/
def writeObject (w : Writer) (now : Instant) (k : Kind) (o : ObjectOf k) (uid : String)
    (g : Graph) : Graph :=
  g.upsert [k.name] Key.uid (.text uid) (storedProperties (ObjectOf.fields w.id now uid k o))

/-- The graph after an object was followed: its node is written, and then its relations are
joined. -/
def follow (w : Writer) (now : Instant) (k : Kind) (o : ObjectOf k) (uid : String) (g : Graph) :
    Graph :=
  let g := g.writeObject w now k o uid
  g.join (ObjectOf.relations w k o g.nodes)

section Follow

variable {w : Writer} {now : Instant} {k : Kind} {o : ObjectOf k} {uid : String} {g : Graph}

@[simp] theorem nodes_follow :
    (g.follow w now k o uid).nodes = (g.writeObject w now k o uid).nodes :=
  rfl

@[simp] theorem nextId_follow :
    (g.follow w now k o uid).nextId = (g.writeObject w now k o uid).nextId :=
  rfl

/-- The edges after `follow`: those of before, and those of the relations of the object. -/
theorem mem_edges_follow {e : Edge} :
    e ∈ (g.follow w now k o uid).edges ↔ e ∈ g.edges
      ∨ ∃ l ∈ ObjectOf.relations w k o (g.writeObject w now k o uid).nodes,
          e ∈ l.edges (g.writeObject w now k o uid).nodes := by
  unfold follow
  rw [mem_edges_join, writeObject, edges_upsert]

/-- The edges after `follow` are those of before and after them the new ones, each once. -/
theorem edges_follow_eq_append (w : Writer) (now : Instant) (o : ObjectOf k) (uid : String)
    (g : Graph) :
    ∃ added, (g.follow w now k o uid).edges = g.edges ++ added ∧ added.Nodup
      ∧ ∀ e, e ∈ added ↔ e ∉ g.edges
        ∧ ∃ l ∈ ObjectOf.relations w k o (g.writeObject w now k o uid).nodes,
            e ∈ l.edges (g.writeObject w now k o uid).nodes := by
  have hwritten : (g.writeObject w now k o uid).edges = g.edges := edges_upsert _ _ _ _ _
  obtain ⟨added, hedges, hnodup, hadded⟩ := foldl_addEdge_eq_append
    ((ObjectOf.relations w k o (g.writeObject w now k o uid).nodes).flatMap
      (Link.edges (g.writeObject w now k o uid).nodes)) (g.writeObject w now k o uid).edges
  rw [hwritten] at hedges hadded
  refine ⟨added, ?_, hnodup, fun e => (hadded e).trans ?_⟩
  · show ((g.writeObject w now k o uid).join _).edges = _
    rw [← hedges, ← hwritten]
    rfl
  · rw [List.mem_flatMap]

/-- The node of an object that was followed is found by the next upsert of the object: writing it
once more comes to writing the second version at once, but for the edges. -/
theorem writeObject_follow (now' : Instant) (o' : ObjectOf k) :
    (g.follow w now k o uid).writeObject w now' k o' uid
      = { g.writeObject w now' k o' uid with edges := (g.follow w now k o uid).edges } := by
  show ({ g.writeObject w now k o uid with edges := (g.follow w now k o uid).edges } :
    Graph).writeObject w now' k o' uid = _
  unfold writeObject
  rw [upsert_with_edges, upsert_upsert (ObjectOf.storedUid w.id now uid k o)]

/-- Following an object twice in the same version comes to following it once. -/
theorem follow_follow :
    (g.follow w now k o uid).follow w now k o uid = g.follow w now k o uid := by
  have hwritten : (g.follow w now k o uid).writeObject w now k o uid = g.follow w now k o uid :=
    writeObject_follow now o
  unfold follow at hwritten ⊢
  rw [hwritten]
  exact join_of_subset fun l hl e he => mem_edges_join.mpr (.inr ⟨l, hl, he⟩)

end Follow

end Graph

namespace Sync

/-- The store after `create` was run in memory. -/
def created (w : Writer) (now : Instant) (k : Kind) (raw : RawObject) (s : MemoryStore) :
    MemoryStore :=
  ((create w now k raw).run MemoryStore.perform s).2

variable (w : Writer) (now : Instant) {k : Kind} {raw : RawObject} {o : ObjectOf k} {uid : String}
  {s : MemoryStore}

theorem writable_created (k : Kind) (raw : RawObject) (h : s.writable = true) :
    (created w now k raw s).writable = true :=
  Plan.run_induction (P := fun r : MemoryStore => r.writable = true)
    (fun c _ _ hr => MemoryStore.writable_perform c hr) h

/-- Without a `uid`, `create` is `done` with an error and makes no call. -/
theorem create_of_unidentified (hconvert : raw.convert k k.name = .ok o)
    (huid : ∀ uid, (ObjectOf.objectMeta k o).uid = some uid → uid = "") :
    ∃ e, create w now k raw = .done (.error e) := by
  cases h : identify k.name (ObjectOf.objectMeta k o) with
  | error e => exact ⟨.conversion e, by simp [create, hconvert, write, properties, h, Except.map]⟩
  | ok uid =>
      obtain ⟨hsome, hne⟩ := identify_eq_ok_iff.mp h
      exact absurd (huid uid hsome) hne

theorem created_of_unidentified (hconvert : raw.convert k k.name = .ok o)
    (huid : ∀ uid, (ObjectOf.objectMeta k o).uid = some uid → uid = "") :
    created w now k raw s = s := by
  obtain ⟨e, he⟩ := create_of_unidentified w now hconvert huid
  unfold created
  rw [he]
  rfl

/-- Running `create` for an object that is read and has a `uid` comes to `Graph.follow`, in a store
that can be written. -/
theorem run_create (hconvert : raw.convert k k.name = .ok o)
    (huid : (ObjectOf.objectMeta k o).uid = some uid) (hne : uid ≠ "") (h : s.writable = true) :
    ∃ upserts, (create w now k raw).run MemoryStore.perform s
      = (.ok (), { s with graph := s.graph.follow w now k o uid, upserts }) := by
  have hfields : properties w now k o = .ok (ObjectOf.fields w.id now uid k o) :=
    properties_eq_ok_iff.mpr ⟨uid, huid, hne, rfl⟩
  have hupsert := MemoryStore.perform_upsert k.isIdentifier_name .direct
    (ObjectOf.storedUid w.id now uid k o) h
  refine ⟨s.upserts + 1, ?_⟩
  rw [create_of_properties hconvert hfields, Plan.run_call, hupsert]
  show ((relate w k o).bind _).run MemoryStore.perform _ = _
  rw [Plan.run_bind, run_relate w k o (s := (s.counting .direct).withGraph _) h]
  rfl

/-- In a store that cannot be written, `create` ends with `unavailable`, and the graph stays as it
is. -/
theorem run_create_of_not_writable (hconvert : raw.convert k k.name = .ok o)
    (huid : (ObjectOf.objectMeta k o).uid = some uid) (hne : uid ≠ "") (h : s.writable = false) :
    (create w now k raw).run MemoryStore.perform s
      = (.error (.store .unavailable), { s with upserts := s.upserts + 1 }) := by
  have hfields : properties w now k o = .ok (ObjectOf.fields w.id now uid k o) :=
    properties_eq_ok_iff.mpr ⟨uid, huid, hne, rfl⟩
  rw [create_of_properties hconvert hfields, Plan.run_call,
    MemoryStore.perform_of_not_writable rfl h]
  rfl

theorem graph_created (hconvert : raw.convert k k.name = .ok o)
    (huid : (ObjectOf.objectMeta k o).uid = some uid) (hne : uid ≠ "") (h : s.writable = true) :
    (created w now k raw s).graph = s.graph.follow w now k o uid := by
  obtain ⟨upserts, hrun⟩ := run_create w now hconvert huid hne h
  unfold created
  rw [hrun]

end Sync

end ClusterGraph
