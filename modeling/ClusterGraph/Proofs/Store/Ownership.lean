import ClusterGraph.Proofs.Graph.Contents
import ClusterGraph.Proofs.Graph.Numbering
import ClusterGraph.Proofs.Store.NodeChange

/-!
# ClusterGraph.Proofs.Store.Ownership

**Who wrote a node: what an instance writes it signs, and no deletion that is meant for others
touches what is signed.**

A node is swept for the hash it holds. An upsert replaces all properties, so whatever an upsert
of an instance writes holds the hash of that instance from then on, or none if it is an event
(`Signed`). `Graph.ChangesBy` says what the calls of an instance can do to a graph at all;
everything that lasts through them is proved once, for one change.
-/

namespace ClusterGraph

/-! ## Signatures -/

/-- Properties of a node with `label` that the instance `id` wrote: they hold its cluster and,
unless the node is an event, its hash. -/
structure Signed (id : Identity) (label : String) (p : Properties) : Prop where
  cluster : p.find? Key.clusterName = some (.text id.cluster)
  hash : p.find? Key.instanceHash
    = if label = Label.event then none else some (.text id.hash)

namespace Node

/-- The node has one label, and its properties are `Signed` by `id`. -/
def IsSigned (n : Node) (id : Identity) : Prop :=
  ∃ label, n.labels = [label] ∧ Signed id label n.properties

/-- The node is the cluster node of `id`, as `Command.register` writes it. -/
structure IsClusterOf (n : Node) (id : Identity) : Prop where
  labels : n.labels = [Label.cluster]
  uid : n.text? Key.uid = some id.uid
  signed : Signed id Label.cluster n.properties

variable {n : Node} {id : Identity}

theorem IsClusterOf.isSigned (h : n.IsClusterOf id) : n.IsSigned id :=
  ⟨Label.cluster, h.labels, h.signed⟩

theorem IsSigned.hash (h : n.IsSigned id) :
    (n.text? Key.instanceHash).any (· ≠ id.hash) = false := by
  obtain ⟨label, -, hsigned⟩ := h
  unfold text?
  rw [hsigned.hash]
  split <;> simp

/-- A node that `IsSigned` by `id` is not stale for `id`. -/
theorem IsSigned.isStale (h : n.IsSigned id) : n.isStale id = false := by
  unfold Node.isStale
  rw [h.hash, Bool.and_false]

theorem IsSigned.isStaleCluster (h : n.IsSigned id) : n.isStaleCluster id = false := by
  unfold Node.isStaleCluster
  rw [h.hash, Bool.and_false]

end Node

/-! ## What an instance does to a graph -/

namespace Graph

/-- Every node has exactly one label. -/
def SingleLabelled (g : Graph) : Prop :=
  ∀ n ∈ g.nodes, ∃ label, n.labels = [label]

/-- No node but events `isStale` for `id`. -/
def Swept (g : Graph) (id : Identity) : Prop :=
  ∀ n ∈ g.nodes, n.hasLabel Label.event = false → n.isStale id = false

/-- The cluster node of `id` is there. -/
def HasCluster (g : Graph) (id : Identity) : Prop :=
  ∃ n ∈ g.nodes, n.IsClusterOf id

/-- The number of the node that an upsert writes: of the first target, or `nextId` if there is
none. -/
def upsertId (g : Graph) (labels : List String) (key : String) (value : PropertyValue) : Nat :=
  ((g.nodes.find? (·.isUpsertTarget labels key value)).map Node.id).getD g.nextId

/-- Changes that calls of an instance make to a graph: an upsert of `Signed` properties, a removal
that spares the cluster node, or a change of edges alone. -/
inductive ChangesBy (id : Identity) (g : Graph) : Graph → Prop where
  | write {label uid : String} {p : Properties} (huid : p.find? Key.uid = some (.text uid))
      (hsigned : Signed id label p) : ChangesBy id g (g.upsert [label] Key.uid (.text uid) p)
  | remove {test : Node → Bool} (hspares : ∀ n, n.IsClusterOf id → test n = false) :
      ChangesBy id g (g.removeWhere test)
  | keep (edges : List Edge) : ChangesBy id g { g with edges }

section Upsert

variable {g : Graph} {labels : List String} {key : String} {value : PropertyValue}

theorem upsertId_of_first {before after : List Node} {n : Node}
    (hnodes : g.nodes = before ++ n :: after)
    (hbefore : ∀ m ∈ before, m.isUpsertTarget labels key value = false)
    (hn : n.isUpsertTarget labels key value = true) : g.upsertId labels key value = n.id := by
  have hfound : g.nodes.find? (·.isUpsertTarget labels key value) = some n :=
    List.find?_eq_some_iff_append.mpr ⟨hn, before, after, hnodes, by simpa using hbefore⟩
  unfold upsertId
  rw [hfound]
  rfl

theorem upsertId_of_missing (h : ∀ n ∈ g.nodes, n.isUpsertTarget labels key value = false) :
    g.upsertId labels key value = g.nextId := by
  have hnone : g.nodes.find? (·.isUpsertTarget labels key value) = none :=
    List.find?_eq_none.mpr (by simpa using h)
  unfold upsertId
  rw [hnone]
  rfl

end Upsert

/-- If nodes have one label each, a target of an upsert with `label` has just this label. -/
theorem SingleLabelled.labels_of_target {g : Graph} (hg : g.SingleLabelled) {label uid : String}
    {n : Node} (hn : n ∈ g.nodes)
    (htarget : n.isUpsertTarget [label] Key.uid (.text uid) = true) : n.labels = [label] := by
  obtain ⟨other, hlabels⟩ := hg n hn
  have hlabel := (Node.isUpsertTarget_uid.mp htarget).1
  rw [(Node.hasLabel_iff_of_labels_eq hlabels).mp hlabel]
  exact hlabels

/-- A node after an upsert was there before, the same, or has the label and the properties of the
upsert. -/
theorem mem_upsert_cases {g : Graph} (hg : g.SingleLabelled) {label uid : String}
    {p : Properties} {n : Node} (hn : n ∈ (g.upsert [label] Key.uid (.text uid) p).nodes) :
    n ∈ g.nodes ∨ (n.labels = [label] ∧ n.properties = p) := by
  rcases mem_upsert hn with hn | ⟨m, hm, htarget, rfl⟩ | rfl
  · exact .inl hn
  · have hlabels := hg.labels_of_target hm htarget
    exact .inr ⟨hlabels, rfl⟩
  · exact .inr ⟨rfl, rfl⟩

/-- A node before an upsert is there after it, the same or with the new properties. -/
theorem exists_mem_upsert {g : Graph} {label uid : String} {p : Properties} {n : Node}
    (hn : n ∈ g.nodes) : n ∈ (g.upsert [label] Key.uid (.text uid) p).nodes
      ∨ (n.isUpsertTarget [label] Key.uid (.text uid) = true
        ∧ { n with properties := p } ∈ (g.upsert [label] Key.uid (.text uid) p).nodes) := by
  rcases g.upsert_cases [label] Key.uid (.text uid) p with
    ⟨before, m, after, hnodes, -, htarget, hwritten⟩ | ⟨-, hadded⟩
  · rw [hnodes] at hn
    rw [hwritten]
    rcases List.mem_append.mp hn with hn | hn
    · exact .inl (List.mem_append_left _ hn)
    · rcases List.mem_cons.mp hn with rfl | hn
      · exact .inr ⟨htarget, List.mem_append_right _ List.mem_cons_self⟩
      · exact .inl (List.mem_append_right _ (List.mem_cons_of_mem _ hn))
  · rw [hadded]
    exact .inl (List.mem_append_left _ hn)

/-- After an upsert, the node with the number `upsertId` has its label and its properties. -/
theorem exists_upsertId {g : Graph} (hg : g.SingleLabelled) (label uid : String) (p : Properties) :
    ∃ n ∈ (g.upsert [label] Key.uid (.text uid) p).nodes,
      n.id = g.upsertId [label] Key.uid (.text uid) ∧ n.labels = [label] ∧ n.properties = p := by
  rcases g.upsert_cases [label] Key.uid (.text uid) p with
    ⟨before, m, after, hnodes, hbefore, htarget, hwritten⟩ | ⟨hnone, hadded⟩
  · have hlabels := hg.labels_of_target (by rw [hnodes]; simp) htarget
    rw [hwritten, upsertId_of_first hnodes hbefore htarget]
    exact ⟨{ m with properties := p }, by simp, rfl, hlabels, rfl⟩
  · rw [hadded, upsertId_of_missing hnone]
    exact ⟨⟨g.nextId, [label], p⟩, by simp, rfl, rfl, rfl⟩

/-- As numbers are distinct, every node with the number `upsertId` has this label and these
properties. -/
theorem Numbered.of_upsertId {g : Graph} (hg : g.Numbered) (hsingle : g.SingleLabelled)
    {label uid : String} {p : Properties} {n : Node}
    (hn : n ∈ (g.upsert [label] Key.uid (.text uid) p).nodes)
    (hid : n.id = g.upsertId [label] Key.uid (.text uid)) :
    n.labels = [label] ∧ n.properties = p := by
  obtain ⟨m, hm, hmid, hlabels, hproperties⟩ := exists_upsertId hsingle label uid p
  rw [(hg.upsert _ _ _ _).eq_of_id hn hm (hid.trans hmid.symm)]
  exact ⟨hlabels, hproperties⟩

namespace ChangesBy

variable {id : Identity} {g h : Graph}

theorem numbered (hchange : ChangesBy id g h) (hg : g.Numbered) : h.Numbered := by
  cases hchange with
  | write => exact hg.upsert _ _ _ _
  | remove => exact hg.removeWhere _
  | keep edges => exact hg.congr rfl rfl

/-- A node after one of `ChangesBy` was there before, the same, or is signed. -/
theorem mem_cases (hchange : ChangesBy id g h) (hg : g.SingleLabelled) {n : Node}
    (hn : n ∈ h.nodes) : n ∈ g.nodes ∨ n.IsSigned id := by
  cases hchange with
  | write huid hsigned =>
      refine (mem_upsert_cases hg hn).imp_right fun hwritten => ?_
      obtain ⟨hlabels, rfl⟩ := hwritten
      exact ⟨_, hlabels, hsigned⟩
  | remove => exact .inl (mem_nodes_removeWhere.mp hn).1
  | keep edges => exact .inl hn

theorem singleLabelled (hchange : ChangesBy id g h) (hg : g.SingleLabelled) :
    h.SingleLabelled := by
  intro n hn
  rcases hchange.mem_cases hg hn with hn | ⟨label, hlabels, -⟩
  · exact hg n hn
  · exact ⟨label, hlabels⟩

theorem swept (hchange : ChangesBy id g h) (hg : g.SingleLabelled) (hswept : g.Swept id) :
    h.Swept id := by
  intro n hn hevent
  rcases hchange.mem_cases hg hn with hn | hsigned
  · exact hswept n hn hevent
  · exact hsigned.isStale

theorem hasCluster (hchange : ChangesBy id g h) (hg : g.HasCluster id) : h.HasCluster id := by
  obtain ⟨n, hn, hcluster⟩ := hg
  cases hchange with
  | @write label uid p huid hsigned =>
      rcases exists_mem_upsert hn with hn | ⟨htarget, hn⟩
      · exact ⟨n, hn, hcluster⟩
      · obtain ⟨hlabel, hvalue⟩ := Node.isUpsertTarget_uid.mp htarget
        have heq : label = Label.cluster :=
          (Node.hasLabel_iff_of_labels_eq hcluster.labels).mp hlabel
        subst heq
        refine ⟨_, hn, hcluster.labels, ?_, hsigned⟩
        have hsame : uid = id.uid := Option.some.inj (hvalue.symm.trans hcluster.uid)
        unfold Node.text?
        rw [huid, hsame]
        rfl
  | remove hspares => exact ⟨n, mem_nodes_removeWhere.mpr ⟨hn, hspares n hcluster⟩, hcluster⟩
  | keep edges => exact ⟨n, hn, hcluster⟩

end ChangesBy
end Graph

/-! ## Calls -/

namespace Call

/-- The calls of `Retention.sweep`. -/
inductive IsSweep (id : Identity) : Call → Prop where
  | clusters : IsSweep id (.sweepClusters id)
  | label (label : String) : IsSweep id (.sweepLabel label id)
  | all : IsSweep id (.sweepAll id)

/-- The calls that an instance makes, by what they do to nodes: upserts by `uid` of signed
properties, deletions by `uid` of nodes that are no cluster nodes, calls that keep nodes, and those
of its sweep and its pruning. -/
inductive IsOwn (id : Identity) : Call → Prop where
  | upsert (mode : WriteMode) {label uid : String} {properties : Dict Json}
      (hlabel : isIdentifier label = true)
      (huid : (storedProperties properties).find? Key.uid = some (.text uid))
      (hsigned : Signed id label (storedProperties properties)) :
      IsOwn id (.upsert mode [label] properties Key.uid)
  | delete {label : String} (uid : String) (hlabel : isIdentifier label = true)
      (hcluster : label ≠ Label.cluster) : IsOwn id (.delete label Key.uid uid)
  | keeps {c : Call} (h : c.keepsNodes = true) : IsOwn id c
  | sweep {c : Call} (h : c.IsSweep id) : IsOwn id c
  | pruneEvents (cluster : String) (cutoff : Instant) : IsOwn id (.pruneEvents cluster cutoff)

end Call

namespace Graph

@[simp] theorem removeWhere_false (g : Graph) : g.removeWhere (fun _ => false) = g :=
  removeWhere_of_forall_not fun _ _ => rfl

end Graph

namespace MemoryStore

variable {id : Identity} {s : MemoryStore}

/-- Performing a call of a sweep succeeds and removes some nodes, none of which is signed. -/
theorem perform_sweep {c : Call} (hc : c.IsSweep id) (h : s.writable = true) :
    (∃ n, (perform c s).1 = .ok n) ∧ ∃ test : Node → Bool,
      (∀ n : Node, n.IsSigned id → test n = false)
        ∧ (perform c s).2.graph = s.graph.removeWhere test := by
  rw [perform_of_writable h]
  cases hc with
  | clusters => exact ⟨⟨_, rfl⟩, _, fun n hn => hn.isStaleCluster, rfl⟩
  | label label =>
      by_cases hevent : label = Label.event
      · refine ⟨⟨0, ?_⟩, fun _ => false, fun _ _ => rfl, ?_⟩
        · simp only [answer, if_pos hevent]
        · simp only [answer, if_pos hevent, graph_arrival, Graph.removeWhere_false]
      · simp only [answer, if_neg hevent]
        exact ⟨⟨_, rfl⟩, _, fun n hn => by simp [hn.isStale], rfl⟩
  | all => exact ⟨⟨_, rfl⟩, _, fun n hn => by simp [hn.isStale], rfl⟩

/-- A signed node stays when a call of a sweep is performed. -/
theorem mem_perform_sweep {c : Call} (hc : c.IsSweep id) (h : s.writable = true) {n : Node}
    (hn : n ∈ s.graph.nodes) (hsigned : n.IsSigned id) : n ∈ (perform c s).2.graph.nodes := by
  obtain ⟨-, test, hspares, hgraph⟩ := perform_sweep hc h
  rw [hgraph]
  exact Graph.mem_nodes_removeWhere.mpr ⟨hn, hspares n hsigned⟩

/-- After `sweepAll`, the graph is `Swept`. -/
theorem swept_perform_sweepAll (h : s.writable = true) :
    (perform (.sweepAll id) s).2.graph.Swept id := by
  intro n hn hevent
  rw [perform_of_writable h] at hn
  have htest := (Graph.mem_nodes_removeWhere.mp hn).2
  rw [hevent, Bool.not_false, Bool.true_and] at htest
  exact htest

/-- Performing a call that `IsOwn` is one of `ChangesBy`. -/
theorem changesBy_perform {c : Call} (hc : c.IsOwn id) (h : s.writable = true) :
    Graph.ChangesBy id s.graph (perform c s).2.graph := by
  cases hc with
  | upsert mode hlabel huid hsigned =>
      rw [graph_perform_upsert hlabel mode huid h]
      exact .write huid hsigned
  | @delete label uid hlabel hcluster =>
      rw [graph_perform_delete hlabel uid h]
      refine .remove fun n hn => ?_
      refine Bool.eq_false_iff.mpr fun htest => hcluster ?_
      exact (Node.hasLabel_iff_of_labels_eq hn.labels).mp (Node.isMeantBy_uid.mp htest).1
  | keeps hkeeps =>
      obtain ⟨edges, hgraph⟩ := graph_perform_of_keeps hkeeps h
      rw [hgraph]
      exact .keep edges
  | sweep hsweep =>
      obtain ⟨-, test, hspares, hgraph⟩ := perform_sweep hsweep h
      rw [hgraph]
      exact .remove fun n hn => hspares n hn.isSigned
  | pruneEvents cluster cutoff =>
      rw [perform_of_writable h]
      refine .remove fun n hn => ?_
      have hevent : n.hasLabel Label.event = false := by
        rw [Bool.eq_false_iff, Ne, Node.hasLabel_iff_of_labels_eq hn.labels]
        decide
      unfold Node.isExpiredEvent
      rw [hevent, Bool.false_and, Bool.false_and]

end MemoryStore

end ClusterGraph
