import ClusterGraph.Resource.Shape
import ClusterGraph.Resource.Kind

/-!
# ClusterGraph.Resource.Schema.Common

**Shapes that many API types share: object metadata, references, selectors, conditions.**

Shapes list every field that the API defines, also those that the graph does not use: a
field of the wrong type makes an object malformed whether or not anyone reads it.
-/

namespace ClusterGraph
namespace Schema

open Shape

/-! ### Building blocks -/

/-- An array of texts. -/
def texts : Shape := .list .text

/-- A map from texts to texts. Quantities are texts as well. -/
def textMap : Shape := .map .text

/-- A field of one `shape` for each of the `keys`. -/
def all (shape : Shape) (keys : List String) : List (String × Shape) :=
  keys.map fun key => (key, shape)

/-- A record whose fields are all texts. -/
def textRecord (keys : List String) : Shape :=
  .record (all .text keys)

/-- The `conditions` of a status, which have instants under the keys `instants`. -/
def conditions (instants : List String) : Shape :=
  .list (.record (all .instant instants ++ all .text ["message", "reason", "status", "type"]))

/-! ### Metadata -/

/-- An entry of `ownerReferences`. A text that it leaves out is written back as an empty one. -/
def ownerReference : Shape :=
  .record (
    all (.always (.text "") .text) ["apiVersion", "kind", "name", "uid"]
      ++ all .flag ["blockOwnerDeletion", "controller"])

/-- An entry of `managedFields`. -/
def managedFields : Shape :=
  .record (
    [("fieldsV1", .any), ("time", .instant)]
      ++ all .text ["apiVersion", "fieldsType", "manager", "operation", "subresource"])

/-- The `metadata` of an object. -/
def objectMeta : Shape :=
  .record (
    all .text ["generateName", "name", "namespace", "resourceVersion", "selfLink", "uid"]
      ++ all .instant ["creationTimestamp", "deletionTimestamp"]
      ++ all .int64 ["deletionGracePeriodSeconds", "generation"]
      ++ all textMap ["annotations", "labels"]
      ++ [("finalizers", texts),
          ("managedFields", .list managedFields),
          ("ownerReferences", .list ownerReference)])

/-! ### References and selectors -/

/-- An `ObjectReference`: a reference to an object of any kind. -/
def objectReference : Shape :=
  textRecord ["apiVersion", "fieldPath", "kind", "name", "namespace", "resourceVersion", "uid"]

/-- A `LocalObjectReference`: a reference to an object of the same namespace. -/
def localReference : Shape :=
  textRecord ["name"]

/-- A `SecretReference`, which may name another namespace. -/
def secretReference : Shape :=
  textRecord ["name", "namespace"]

/-- A `TypedObjectReference`: a reference to an object by its group and its kind. -/
def typedReference : Shape :=
  textRecord ["apiGroup", "kind", "name", "namespace"]

/-- A `CrossVersionObjectReference`: a reference to what an autoscaler scales. -/
def scaleReference : Shape :=
  textRecord ["apiVersion", "kind", "name"]

/-- An entry of `matchExpressions`. -/
def selectorRequirement : Shape :=
  .record (("values", texts) :: all .text ["key", "operator"])

/-- A `LabelSelector`. -/
def labelSelector : Shape :=
  .record [("matchLabels", textMap), ("matchExpressions", .list selectorRequirement)]

/-- A term of a `nodeSelector`. -/
def nodeSelectorTerm : Shape :=
  .record (all (.list selectorRequirement) ["matchExpressions", "matchFields"])

/-- A `NodeSelector`: a list of terms. -/
def nodeSelector : Shape :=
  .record [("nodeSelectorTerms", .list nodeSelectorTerm)]

/-- The `resources` of a container or of a claim. -/
def resources : Shape :=
  .record [("claims", .list (textRecord ["name"])), ("limits", textMap), ("requests", textMap)]

/-! ### Whole objects -/

/-- The fields `apiVersion` and `kind`. They may be left out, and have to be those of the type if
they are there. -/
def identification (t : ResourceType) : List (String × Shape) :=
  [("apiVersion", .constant t.apiVersion), ("kind", .constant t.kind)]

/-- An object of the type `t`: its `identification`, its `metadata`, and `fields` of its own. -/
def object (t : ResourceType) (fields : List (String × Shape)) : Shape :=
  .record (identification t ++ ("metadata", objectMeta) :: fields)

end Schema
end ClusterGraph
