import ClusterGraph.Store.Call

/-!
# ClusterGraph.Client.Request

**The statement that a call sends to the database, and the arguments it takes along.**

Texts that come from outside never get into a statement: they are arguments, and only names
that are checked to be identifiers are written out. A call with a name that is none is
refused before anything is sent.

Design points:

* an argument has a name, and one that is bound again under the same name replaces the first;
* no statement deletes events by their instance, so the call for the label of events is
  answered without asking the database.
-/

namespace ClusterGraph

/-- A parameter of a statement: one value, or a map of properties. -/
inductive Argument where
  | scalar (v : PropertyValue)
  | record (p : Properties)
deriving DecidableEq

/-- A statement as `text`, with its parameters by name. -/
structure Request where
  text : String
  arguments : Dict Argument
deriving DecidableEq

namespace Request

/-- A request without `arguments`. -/
def ofText (text : String) : Request :=
  ⟨text, Dict.empty⟩

/-- The request with the parameter `name` bound to `a`. A parameter of this name is replaced. -/
def bind (r : Request) (name : String) (a : Argument) : Request :=
  { r with arguments := r.arguments.insert name a }

/-- The request with the parameter `name` bound to a text. -/
def bindText (r : Request) (name value : String) : Request :=
  r.bind name (.scalar (.text value))

/-- The request with `cluster_name` and `instance_hash` bound to those of the instance. -/
def bindIdentity (r : Request) (id : Identity) : Request :=
  (r.bindText "cluster_name" id.cluster).bindText "instance_hash" id.hash

/-- The statement `RETURN 1`, which asks whether the database is there. -/
def ping : Request :=
  ofText "RETURN 1"

end Request

/-! ### Statements -/

namespace Statement

/-- The lines of a statement, all but the first one indented. -/
def lines (items : List String) : String :=
  String.intercalate "\n             " items

/-- The conditions that nodes hold the texts of the arguments `f0`, `f1` and so on. -/
def conditions (from_ : Nat) : List String → Except NameError (List String)
  | [] => .ok []
  | key :: rest => do
      checkName .propertyKey key
      return ("n." ++ key ++ " = $f" ++ toString from_) :: (← conditions (from_ + 1) rest)

/-- The statement of `Call.list`: match the nodes of a label under the `conditions`. -/
def list (label : String) (keys : List String) : Except NameError String := do
  checkName .label label
  let conditions ← conditions 0 keys
  let condition :=
    if conditions.isEmpty then "" else "WHERE " ++ String.intercalate " AND " conditions
  return "MATCH (n:" ++ label ++ ") " ++ condition ++ " RETURN n"

/-- The statement of `Call.sweepClusters`. -/
def sweepClusters : String :=
  lines
    [ "MATCH (c:" ++ Label.cluster ++ " \x7bname: $cluster_name\x7d)",
      "WHERE c.instanceHash IS NOT NULL AND c.instanceHash <> $instance_hash",
      "DETACH DELETE c",
      "RETURN count(*) AS deleted" ]

/-- The statement of `Call.sweepLabel`. The label has to be an identifier, since it stands in the
`text`. -/
def sweepLabel (label : String) : Except NameError String := do
  checkName .label label
  return lines
    [ "MATCH (n:" ++ label ++ " \x7bclusterName: $cluster_name\x7d)",
      "WHERE n.instanceHash IS NOT NULL AND n.instanceHash <> $instance_hash",
      "DETACH DELETE n",
      "RETURN count(*) AS deleted" ]

/-- The statement of `Call.sweepAll`. -/
def sweepAll : String :=
  lines
    [ "MATCH (n \x7bclusterName: $cluster_name\x7d)",
      "WHERE NOT n:" ++ Label.event,
      "  AND n.instanceHash IS NOT NULL",
      "  AND n.instanceHash <> $instance_hash",
      "DETACH DELETE n",
      "RETURN count(*) AS deleted" ]

/-- The statement of `Call.pruneEvents`. -/
def pruneEvents : String :=
  lines
    [ "MATCH (e:" ++ Label.event
        ++ ") WHERE e.clusterName = $cluster_name AND e.createdAt < $cutoff",
      "DETACH DELETE e",
      "RETURN count(*) AS deleted" ]

/-- The statement of `Call.count`. -/
def count : String :=
  lines
    [ "MATCH (n \x7bclusterName: $cluster_name\x7d)",
      "WHERE n.instanceHash = $instance_hash OR n.instanceHash IS NULL",
      "RETURN labels(n)[0] AS kind, count(n) AS count",
      "ORDER BY kind" ]

/-- The statement that makes the `uid` of the nodes of a label unique. The label has to be an
identifier, since it stands in the `text`. -/
def constraint (label : String) : Except NameError String := do
  checkName .label label
  return "CREATE CONSTRAINT " ++ label.toLower ++ "_uid IF NOT EXISTS FOR (n:" ++ label
    ++ ") REQUIRE n.uid IS UNIQUE"

end Statement

/-! ### Calls -/

namespace Call

/-- Bind texts to the arguments `f0`, `f1` and so on. -/
def bindFilters (from_ : Nat) (r : Request) : List (String × String) → Request
  | [] => r
  | (_, value) :: rest => bindFilters (from_ + 1) (r.bindText ("f" ++ toString from_) value) rest

/-- Bind the cluster of a `NodeRef` to `name`, if it has one. -/
def bindCluster (r : Request) (name : String) (ref : NodeRef) : Request :=
  match ref.cluster with
  | some cluster => r.bindText name cluster
  | none => r

/-- The request with a `text`, or the error of its names. -/
def named (text : Except NameError String) (arguments : Request → Request) :
    Except StoreError (Option Request) :=
  match text with
  | .ok text => .ok (some (arguments (.ofText text)))
  | .error e => .error (.invalidName e)

/-- The request of a call. It is `none` for a call that sends nothing, and an error for one that is
refused. -/
def request : Call → Except StoreError (Option Request)
  | upsert _ labels properties key =>
      match Statement.upsert labels key with
      | .error e => .error (.invalidName e)
      | .ok text =>
          let stored := storedProperties properties
          match stored.find? key with
          | none => .error (.missingKey key)
          | some value =>
              .ok (some (((Request.ofText text).bind key (.scalar value)).bind "properties"
                (.record stored)))
  | delete label key value => named (Statement.delete label key) fun r => r.bindText "value" value
  | list label filters =>
      named (Statement.list label (filters.map Prod.fst)) fun r => bindFilters 0 r filters
  | link source rel target =>
      named (Statement.relationship source rel target) fun r =>
        bindCluster
          (bindCluster ((r.bindText "a_value" source.value).bindText "b_value" target.value)
            "a_cluster" source)
          "b_cluster" target
  | sweepClusters id => .ok (some ((Request.ofText Statement.sweepClusters).bindIdentity id))
  | sweepLabel label id =>
      match Statement.sweepLabel label with
      | .error e => .error (.invalidName e)
      | .ok text =>
          if label = Label.event then .ok none
          else .ok (some ((Request.ofText text).bindIdentity id))
  | sweepAll id => .ok (some ((Request.ofText Statement.sweepAll).bindIdentity id))
  | pruneEvents cluster cutoff =>
      .ok (some (((Request.ofText Statement.pruneEvents).bindText "cluster_name" cluster).bindText
        "cutoff" cutoff.format))
  | count id => .ok (some ((Request.ofText Statement.count).bindIdentity id))
  | health => .ok (some .ping)

/-- The name under which `instrument` records a call to the database. -/
def operation : Call → String
  | sweepAll _ => "cleanup_duplicate_clusters"
  | count _ => "count_nodes_by_kind"
  | c => c.name

end Call

end ClusterGraph
