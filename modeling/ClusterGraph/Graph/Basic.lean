import ClusterGraph.Graph.NodeRef
import ClusterGraph.Graph.Property

/-!
# ClusterGraph.Graph.Basic

**The property graph: labelled nodes that hold scalar properties, and typed edges
between them.**

Design points:

* nodes are numbered in the order of their insertion and a number is never used again, so
  the list of nodes is in the order of their numbers;
* an edge is there once or not at all: linking what is linked already changes nothing;
* a node leaves together with every edge that touches it (`Graph.removeWhere` is the only
  operation that takes anything away).
-/

namespace ClusterGraph

/-- A node of the graph. Its `id` and its `labels` never change, `properties` are replaced by
upserts. -/
structure Node where
  id : Nat
  labels : List String
  properties : Properties
deriving DecidableEq

/-- An edge from the node with the number `source` to the one with the number `target`. -/
structure Edge where
  source : Nat
  rel : Relationship
  target : Nat
deriving DecidableEq

/-- A property graph. `nextId` is the number of the next node, so numbers are never used again. -/
structure Graph where
  nextId : Nat
  nodes : List Node
  edges : List Edge
deriving DecidableEq

/-! ### Nodes -/

namespace Node

/-- Whether `label` is among the labels. -/
def hasLabel (n : Node) (label : String) : Bool :=
  n.labels.contains label

/-- The text under `key`; `none` if the property is missing or of another type. -/
def text? (n : Node) (key : String) : Option String :=
  (n.properties.find? key).bind PropertyValue.text?

/-- Whether the property under `key` is the text `value`. -/
def holdsText (n : Node) (key value : String) : Bool :=
  n.text? key = some value

/-- Whether `ref` means this node: it has the label and the text under the key of `ref`, and is of
the cluster of `ref` if that is given. -/
def isMeantBy (n : Node) (ref : NodeRef) : Bool :=
  n.hasLabel ref.label && n.holdsText ref.key ref.value
    && ref.cluster.all (n.holdsText Key.clusterName)

/-- Whether another instance of the cluster of `id` wrote the node. A node without `instanceHash` is
never stale. -/
def isStale (n : Node) (id : Identity) : Bool :=
  n.holdsText Key.clusterName id.cluster && (n.text? Key.instanceHash).any (· ≠ id.hash)

/-- Whether this is the cluster node of another instance of the cluster of `id`. It is told by its
`name`, not by `clusterName`. -/
def isStaleCluster (n : Node) (id : Identity) : Bool :=
  n.hasLabel Label.cluster && n.holdsText Key.name id.cluster
    && (n.text? Key.instanceHash).any (· ≠ id.hash)

/-- Whether this is an event of `cluster` whose `createdAt` comes before `cutoff`. Both are printed
instants and are compared as texts. -/
def isExpiredEvent (n : Node) (cluster cutoff : String) : Bool :=
  n.hasLabel Label.event && n.holdsText Key.clusterName cluster
    && (n.text? Key.createdAt).any fun recorded => decide (recorded < cutoff)

/-- Whether the node is of the cluster of `id` and was written by this instance, or bears no
`instanceHash`. -/
def isOfInstance (n : Node) (id : Identity) : Bool :=
  n.holdsText Key.clusterName id.cluster && (n.text? Key.instanceHash).all (· = id.hash)

/-- Whether an upsert with these `labels` and this `value` under `key` finds this node: it has all
the labels, and the same scalar under the key. -/
def isUpsertTarget (n : Node) (labels : List String) (key : String) (value : PropertyValue) :
    Bool :=
  labels.all n.hasLabel && (n.properties.find? key).any (·.sameScalar value)

end Node

/-! ### Graphs -/

namespace Graph

/-- The graph without nodes. -/
def empty : Graph :=
  ⟨0, [], []⟩

instance : Inhabited Graph := ⟨empty⟩

/-- The nodes that satisfy `test`, in the order in which they were made. -/
def nodesWhere (g : Graph) (test : Node → Bool) : List Node :=
  g.nodes.filter test

/-- The nodes that `ref` means. -/
def nodesAt (g : Graph) (ref : NodeRef) : List Node :=
  g.nodesWhere (·.isMeantBy ref)

/-- The node with the number `id`. -/
def node? (g : Graph) (id : Nat) : Option Node :=
  g.nodes.find? (·.id = id)

/-- Make a node with the number `nextId`. -/
def addNode (g : Graph) (labels : List String) (properties : Properties) : Graph :=
  { g with
    nextId := g.nextId + 1
    nodes := g.nodes ++ [⟨g.nextId, labels, properties⟩] }

/-- Replace the properties of the first node that satisfies `test`. -/
def replaceFirst (test : Node → Bool) (properties : Properties) : List Node → List Node
  | [] => []
  | n :: rest =>
      if test n then { n with properties } :: rest
      else n :: replaceFirst test properties rest

/-- Find the first node that `isUpsertTarget` and replace all its properties, or make a new node if
there is none. -/
def upsert (g : Graph) (labels : List String) (key : String) (value : PropertyValue)
    (properties : Properties) : Graph :=
  if g.nodes.any (·.isUpsertTarget labels key value) then
    { g with nodes := replaceFirst (·.isUpsertTarget labels key value) properties g.nodes }
  else
    g.addNode labels properties

/-- Add `e`, unless it is there already. -/
def addEdge (edges : List Edge) (e : Edge) : List Edge :=
  if e ∈ edges then edges else edges ++ [e]

/-- An edge from every node of `sources` to every node of `targets`. -/
def edgesBetween (sources : List Node) (rel : Relationship) (targets : List Node) : List Edge :=
  sources.flatMap fun a => targets.map fun b => ⟨a.id, rel, b.id⟩

/-- Add an edge from every node that `source` means to every node that `target` means, unless it is
there already. -/
def link (g : Graph) (source : NodeRef) (rel : Relationship) (target : NodeRef) : Graph :=
  { g with
    edges := (edgesBetween (g.nodesAt source) rel (g.nodesAt target)).foldl addEdge g.edges }

/-- Whether there is an edge from a node of `source` to a node of `target`. -/
def isLinked (g : Graph) (source : NodeRef) (rel : Relationship) (target : NodeRef) : Bool :=
  (edgesBetween (g.nodesAt source) rel (g.nodesAt target)).any (g.edges.contains ·)

/-- Remove the nodes that satisfy `test`, and with them every edge that starts or ends at one of
them. -/
def removeWhere (g : Graph) (test : Node → Bool) : Graph :=
  let gone := (g.nodesWhere test).map Node.id
  { g with
    nodes := g.nodes.filter fun n => !test n
    edges := g.edges.filter fun e => !gone.contains e.source && !gone.contains e.target }

/-- The number of nodes that satisfy `test`. -/
def countWhere (g : Graph) (test : Node → Bool) : Nat :=
  (g.nodesWhere test).length

/-- For each first label of a node, the number of nodes with it that belong to the instance `id`. A
node without labels is not counted. -/
def countsByKind (g : Graph) (id : Identity) : Dict Nat :=
  (((g.nodesWhere (·.isOfInstance id)).filterMap fun n => n.labels.head?).foldl
    (fun counts kind => counts.insert kind ((counts.find? kind).getD 0 + 1)) Dict.empty)

/-! ### What the operations leave alone -/

@[simp] theorem nodes_link (g : Graph) (a : NodeRef) (r : Relationship) (b : NodeRef) :
    (g.link a r b).nodes = g.nodes :=
  rfl

@[simp] theorem nextId_link (g : Graph) (a : NodeRef) (r : Relationship) (b : NodeRef) :
    (g.link a r b).nextId = g.nextId :=
  rfl

@[simp] theorem edges_addNode (g : Graph) (labels : List String) (p : Properties) :
    (g.addNode labels p).edges = g.edges :=
  rfl

@[simp] theorem edges_upsert (g : Graph) (labels : List String) (key : String)
    (value : PropertyValue) (p : Properties) :
    (g.upsert labels key value p).edges = g.edges := by
  unfold upsert
  split <;> rfl

@[simp] theorem nextId_removeWhere (g : Graph) (test : Node → Bool) :
    (g.removeWhere test).nextId = g.nextId :=
  rfl

theorem mem_addEdge {edges : List Edge} {e f : Edge} :
    f ∈ addEdge edges e ↔ f ∈ edges ∨ f = e := by
  unfold addEdge
  split
  · constructor
    · exact Or.inl
    · rintro (h | rfl)
      · exact h
      · assumption
  · simp

theorem mem_foldl_addEdge {f : Edge} (more edges : List Edge) :
    f ∈ more.foldl addEdge edges ↔ f ∈ edges ∨ f ∈ more := by
  induction more generalizing edges with
  | nil => simp
  | cons e rest ih => simp [ih, mem_addEdge, or_assoc]

/-- The edges after `link`: those that were there, and one from each node of `a` to each node of
`b`. -/
theorem mem_edges_link {g : Graph} {a b : NodeRef} {r : Relationship} {e : Edge} :
    e ∈ (g.link a r b).edges
      ↔ e ∈ g.edges ∨ e ∈ edgesBetween (g.nodesAt a) r (g.nodesAt b) := by
  simp [link, mem_foldl_addEdge]

/-! ### The order of relationships -/

/-- Order of edges: by `source`, then by the text of the relationship, then by `target`. -/
def edgeLe (a b : Edge) : Bool :=
  a.source < b.source
    || (a.source = b.source
      && (a.rel.text < b.rel.text || (a.rel.text = b.rel.text && a.target ≤ b.target)))

/-- The edges of the graph in the order of `edgeLe`. -/
def orderedEdges (g : Graph) : List Edge :=
  g.edges.mergeSort edgeLe

end Graph

end ClusterGraph
