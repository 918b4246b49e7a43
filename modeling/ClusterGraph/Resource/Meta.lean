import ClusterGraph.Json.Basic
import ClusterGraph.Time.Rfc3339

/-!
# ClusterGraph.Resource.Meta

**What the graph takes from the metadata of an object, and how fields are read.**

Reading is total: it is done on values whose shape has been checked before, and a field
that is absent, `null` or of another type gives the default of its type.
-/

namespace ClusterGraph

/-! ### Reading fields -/

namespace Json

/-- The text under `key`, where `null` counts as absent (`present?`). -/
def textAt? (j : Json) (key : String) : Option String :=
  (j.present? key).bind text?

/-- The text under `key`, or the empty one if there is none. -/
def textAt (j : Json) (key : String) : String :=
  (j.textAt? key).getD ""

/-- The truth value under `key`, if there is one. -/
def flagAt? (j : Json) (key : String) : Option Bool :=
  (j.present? key).bind bool?

/-- The integer under `key`, if there is one. -/
def intAt? (j : Json) (key : String) : Option Int :=
  (j.present? key).bind int?

/-- The integer under `key`, or 0 if there is none. -/
def intAt (j : Json) (key : String) : Int :=
  (j.intAt? key).getD 0

/-- The instant whose text is under `key`, as `Time.read?` reads it. -/
def instantAt? (j : Json) (key : String) : Option Instant :=
  (j.textAt? key).bind Time.read?

/-- The object under `key`, if there is one. -/
def recordAt? (j : Json) (key : String) : Option Json :=
  (j.present? key).filter fun inner => inner.fields?.isSome

/-- The object under `key`, or `null` if there is none, in which every field is absent. -/
def recordAt (j : Json) (key : String) : Json :=
  (j.recordAt? key).getD .null

/-- The items of the array under `key`, if there is one. -/
def itemsAt? (j : Json) (key : String) : Option (List Json) :=
  (j.present? key).bind items?

/-- The items of the array under `key`, or none. -/
def itemsAt (j : Json) (key : String) : List Json :=
  (j.itemsAt? key).getD []

/-- The texts in the array under `key`, if there is one. -/
def textsAt? (j : Json) (key : String) : Option (List String) :=
  (j.itemsAt? key).map fun items => items.filterMap text?

/-- The map under `key`, of whose values only texts are kept. -/
def textMapAt? (j : Json) (key : String) : Option (Dict String) :=
  ((j.present? key).bind fields?).map fun fields => fields.filterMap text?

/-- The map under `key`, with `read` applied to each of its values. -/
def mapAt? {α : Type} (read : Json → α) (j : Json) (key : String) : Option (Dict α) :=
  ((j.present? key).bind fields?).map fun fields => fields.map read

/-- The keys of the map under `key`. -/
def keysAt? (j : Json) (key : String) : Option (List String) :=
  ((j.present? key).bind fields?).map Dict.keys

/-- The keys that `mapAt?` gives do not depend on `read`. -/
@[simp] theorem map_keys_mapAt? {α : Type} (read : Json → α) (j : Json) (key : String) :
    (j.mapAt? read key).map Dict.keys = j.keysAt? key := by
  simp [mapAt?, keysAt?, Function.comp_def]

end Json

/-! ### Metadata -/

/-- A reference to the owner of an object, by `kind` and `uid`, and whether the owner `controls` the
object. -/
structure OwnerReference where
  kind : String
  uid : String
  controls : Bool
deriving DecidableEq

/-- The metadata of an object, as far as handlers read them. Absent `labels` and `annotations` are
told from empty ones. -/
structure ObjectMeta where
  uid : Option String
  name : Option String
  namespace_ : Option String
  labels : Option (Dict String)
  annotations : Option (Dict String)
  created : Option Instant
  owners : List OwnerReference
deriving DecidableEq

/-- Read an entry of `ownerReferences`. -/
def OwnerReference.ofJson (j : Json) : OwnerReference where
  kind := j.textAt "kind"
  uid := j.textAt "uid"
  controls := j.flagAt? "controller" = some true

/-- Read the `metadata` of an object. What is absent there is `none` or empty here. -/
def ObjectMeta.ofJson (j : Json) : ObjectMeta where
  uid := j.textAt? "uid"
  name := j.textAt? "name"
  namespace_ := j.textAt? "namespace"
  labels := j.textMapAt? "labels"
  annotations := j.textMapAt? "annotations"
  created := j.instantAt? "creationTimestamp"
  owners := (j.itemsAt "ownerReferences").map OwnerReference.ofJson

end ClusterGraph
