import ClusterGraph.Graph.Identifier
import ClusterGraph.Dict

/-!
# ClusterGraph.Projection.Owners

**Which kinds of object have nodes in the graph, and under which label.**

Objects name their owners, and autoscalers their targets, by kind. A kind is looked up here
before it becomes a label; since only identifiers can be registered, no text from an object
ever becomes part of a statement.
-/

namespace ClusterGraph

/-- Kinds whose objects have nodes, each with the label of these nodes. -/
structure OwnerKinds where
  labels : Dict String
deriving DecidableEq

/-- Refusal to register a kind: its name, or the label that it was given, is no identifier. -/
inductive RegistrationError where
  | invalidKind (kind : String)
  | invalidLabel (kind label : String)
deriving DecidableEq

namespace RegistrationError

/-- The message of a refusal. -/
def message : RegistrationError → String
  | invalidKind kind => "kind " ++ Text.quoted kind ++ " is not a valid graph label"
  | invalidLabel kind label =>
      "label " ++ Text.quoted label ++ " for kind " ++ Text.quoted kind
        ++ " is not a valid graph label"

end RegistrationError

namespace OwnerKinds

/-- Nothing is registered. -/
def empty : OwnerKinds :=
  ⟨Dict.empty⟩

instance : Inhabited OwnerKinds := ⟨empty⟩

/-- Register `kind` with `label`; a label that it had before is replaced. Both must be identifiers
(`isIdentifier`). -/
def registerAs (r : OwnerKinds) (kind label : String) : Except RegistrationError OwnerKinds :=
  if !isIdentifier kind then .error (.invalidKind kind)
  else if !isIdentifier label then .error (.invalidLabel kind label)
  else .ok ⟨r.labels.insert kind label⟩

/-- Register `kind` with its own name as label. -/
def register (r : OwnerKinds) (kind : String) : Except RegistrationError OwnerKinds :=
  r.registerAs kind kind

/-- Register `kinds` one after the other; the first refusal ends it. -/
def registerAll (r : OwnerKinds) (kinds : List String) : Except RegistrationError OwnerKinds :=
  kinds.foldlM register r

/-- The label of the nodes of `kind`; `none` if it is not registered. -/
def labelFor? (r : OwnerKinds) (kind : String) : Option String :=
  r.labels.find? kind

/-- Whether `kind` is registered. -/
def contains (r : OwnerKinds) (kind : String) : Bool :=
  r.labels.contains kind

/-- The registered kinds in ascending order. -/
def kinds (r : OwnerKinds) : List String :=
  r.labels.keys

/-- The number of registered kinds. -/
def size (r : OwnerKinds) : Nat :=
  r.labels.size

end OwnerKinds

end ClusterGraph
