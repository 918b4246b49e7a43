import ClusterGraph.Graph.Identifier

/-!
# ClusterGraph.Graph.NodeRef

**The names of the graph: well-known keys and labels, kinds of relationship, and
references to nodes.**

A node is referred to by a label, a key and a text. References by a unique identifier stand
alone; references by name are not unique among clusters and are narrowed to the nodes of
one cluster.
-/

namespace ClusterGraph

/-! ### Well-known keys and labels -/

namespace Key

def uid : String := "uid"
def name : String := "name"
def namespace_ : String := "namespace"
def namespacedName : String := "namespacedName"
def clusterName : String := "clusterName"
def instanceHash : String := "instanceHash"
def annotations : String := "annotations"
def createdAt : String := "createdAt"
def startedAt : String := "startedAt"

end Key

namespace Label

/-- Label of the nodes of events. They expire, and no sweep deletes them. -/
def event : String := "Event"

/-- Label of the cluster nodes, of which each running instance has one (`Command.register`). -/
def cluster : String := "Cluster"

/-- Label of the nodes of namespaces, to which `belongsTo` leads. -/
def namespace_ : String := "Namespace"

end Label

/-! ### Identity of an instance -/

/-- An instance: the name of the `cluster` that it watches, and a `hash` of its own. -/
structure Identity where
  cluster : String
  hash : String
deriving DecidableEq

namespace Identity

/-- The `uid` of the cluster node of an instance. As the parts are joined by a slash, which both may
contain, different instances can have the same (`Identity.uid_eq_iff`). -/
def uid (id : Identity) : String :=
  id.cluster ++ "/" ++ id.hash

end Identity

/-! ### Relationships -/

/-- Type of an edge. As there are no others, none comes from outside into a statement. -/
inductive Relationship where
  | owns
  | manages
  | uses
  | scheduledOn
  | selects
  | scales
  | routesTo
  | involves
  | belongsTo
deriving DecidableEq

namespace Relationship

/-- All types in the order of the constructors. -/
def all : List Relationship :=
  [owns, manages, uses, scheduledOn, selects, scales, routesTo, involves, belongsTo]

/-- The type as the graph stores it. -/
def text : Relationship → String
  | owns => "OWNS"
  | manages => "MANAGES"
  | uses => "USES"
  | scheduledOn => "SCHEDULED_ON"
  | selects => "SELECTS"
  | scales => "SCALES"
  | routesTo => "ROUTES_TO"
  | involves => "INVOLVES"
  | belongsTo => "BELONGS_TO"

/-- The name of the constructor, in capitals and small letters. -/
def title : Relationship → String
  | owns => "Owns"
  | manages => "Manages"
  | uses => "Uses"
  | scheduledOn => "ScheduledOn"
  | selects => "Selects"
  | scales => "Scales"
  | routesTo => "RoutesTo"
  | involves => "Involves"
  | belongsTo => "BelongsTo"

/-- The type that is stored as `s`; `none` if there is none. -/
def ofText? (s : String) : Option Relationship :=
  all.find? fun r => r.text = s

theorem mem_all (r : Relationship) : r ∈ all := by
  cases r <;> decide

theorem text_injective {a b : Relationship} (h : a.text = b.text) : a = b := by
  cases a <;> cases b <;> first | rfl | exact absurd h (by decide)

end Relationship

/-! ### References -/

/-- One end of a relationship: the nodes with this label whose property `key` is the text
`value`, in one cluster or in any. -/
structure NodeRef where
  label : String
  key : String
  value : String
  cluster : Option String
deriving DecidableEq

namespace NodeRef

/-- Reference to the node of a `uid`, in any cluster: a `uid` is unique among all of them. -/
def byUid (label uid : String) : NodeRef :=
  ⟨label, Key.uid, uid, none⟩

/-- Reference to the nodes with a name in `cluster`, for kinds without namespaces. -/
def byName (label name cluster : String) : NodeRef :=
  ⟨label, Key.name, name, some cluster⟩

/-- Name of an object and its namespace in one text, as nodes store it. -/
def namespacedName (ns name : String) : String :=
  ns ++ "/" ++ name

/-- Reference to the nodes with a name in a namespace of `cluster`. -/
def byNamespacedName (label ns name cluster : String) : NodeRef :=
  ⟨label, Key.namespacedName, namespacedName ns name, some cluster⟩

/-- The reference as messages show it. -/
def display (r : NodeRef) : String :=
  "(" ++ r.label ++ ":" ++ r.key ++ "=" ++ r.value ++ ")"

end NodeRef

end ClusterGraph
