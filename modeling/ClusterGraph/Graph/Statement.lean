import ClusterGraph.Graph.NodeRef

/-!
# ClusterGraph.Graph.Statement

**The texts of the statements that write and link nodes.**

Labels and property keys are put into the text after a check that they are identifiers;
every other text is a parameter. So the text of a statement depends on names alone, and on
whether a reference is narrowed to a cluster.

Design points:

* the first name that is no identifier is the one the error shows; the key of an upsert is
  checked before its labels, otherwise labels come before keys;
* an upsert replaces all properties of the node it finds or makes.
-/

namespace ClusterGraph

/-- Refusal to build a statement: `name` is no identifier. -/
structure NameError where
  role : NameRole
  name : String
deriving DecidableEq

namespace NameError

/-- The message of a refusal. -/
def message (e : NameError) : String :=
  "invalid " ++ e.role.text ++ " " ++ Text.quoted e.name

end NameError

namespace Statement

/-- Let `name` pass if it `isIdentifier`. -/
def checkName (role : NameRole) (name : String) : Except NameError Unit :=
  if isIdentifier name then .ok () else .error ⟨role, name⟩

/-- Let labels pass if each `isIdentifier`; the first that is none is reported. -/
def checkLabels : List String → Except NameError Unit
  | [] => .ok ()
  | label :: rest => do
      checkName .label label
      checkLabels rest

/-- The labels of a pattern, each after a colon. -/
def labelText (labels : List String) : String :=
  String.join (labels.map fun label => ":" ++ label)

/-- Statement that finds or makes the node with these labels and the value of a parameter under
`key`, and replaces all its properties. The parameter is called like the key. -/
def upsert (labels : List String) (key : String) : Except NameError String := do
  checkName .propertyKey key
  checkLabels labels
  return "MERGE (n" ++ labelText labels ++ " \x7b" ++ key ++ ": $" ++ key
    ++ "\x7d) SET n = $properties"

/-- Pattern for the nodes of a reference. All names in it begin with `variable_`: the variable and
the parameters for the value and the cluster. -/
def endpoint (variable_ : String) (ref : NodeRef) : Except NameError String := do
  checkName .label ref.label
  checkName .propertyKey ref.key
  let narrowed :=
    if ref.cluster.isSome then
      ", " ++ Key.clusterName ++ ": $" ++ variable_ ++ "_cluster"
    else ""
  return "(" ++ variable_ ++ ":" ++ ref.label ++ " \x7b" ++ ref.key ++ ": $" ++ variable_
    ++ "_value" ++ narrowed ++ "\x7d)"

/-- Statement that links every node of `source` to every node of `target`. -/
def relationship (source : NodeRef) (rel : Relationship) (target : NodeRef) :
    Except NameError String := do
  let a ← endpoint "a" source
  let b ← endpoint "b" target
  return "MATCH " ++ a ++ ", " ++ b ++ " MERGE (a)-[:" ++ rel.text ++ "]->(b)"

/-- Statement that deletes the nodes with `label` whose property `key` is the parameter `value`,
with their edges. -/
def delete (label key : String) : Except NameError String := do
  checkName .label label
  checkName .propertyKey key
  return "MATCH (n:" ++ label ++ " \x7b" ++ key ++ ": $value\x7d) DETACH DELETE n"

theorem checkName_eq_ok_iff {role : NameRole} {name : String} :
    checkName role name = .ok () ↔ isIdentifier name = true := by
  unfold checkName
  split <;> simp_all

end Statement

end ClusterGraph
