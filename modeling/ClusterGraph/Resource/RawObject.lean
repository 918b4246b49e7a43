import ClusterGraph.Resource.Decode
import ClusterGraph.Text.Quoted

/-!
# ClusterGraph.Resource.RawObject

**Objects as watches deliver them, and their conversion into the objects of a kind.**

A raw object is either read already, or a JSON value that may turn out to be anything.

Design points:

* of two faults the first counts: a value that is `null`, then one that says it is of
  another kind, then one that is not well typed;
* a value that does not say what it is passes for the kind that is wanted;
* identity comes before conversion: the unique identifier can be told of any raw object, so
  an object that can no longer be read can still be deleted.
-/

namespace ClusterGraph

/-- An object as it is delivered: `typed`, which was read already, or `unstructured`, which is still
a JSON value. -/
inductive RawObject where
  | typed (kind : Kind) (object : ObjectOf kind)
  | unstructured (value : Json)

/-- Why `convert` or `requireUid` refuses a raw object. -/
inductive ConversionError where
  | null
  | unexpectedType (expected found : String)
  | unexpectedKind (expected found : String)
  | malformed (kind : String)
  | missingUid (kind : String)
deriving DecidableEq

namespace ConversionError

/-- The text of the error. -/
def message : ConversionError → String
  | null => "object is null"
  | unexpectedType expected found => "expected " ++ expected ++ ", got " ++ found
  | unexpectedKind expected found => "expected kind " ++ expected ++ ", got " ++ found
  | malformed kind => "malformed " ++ kind ++ " object"
  | missingUid kind => kind ++ " object has no metadata.uid"

end ConversionError

namespace RawObject

/-- A text of the metadata: `read` from those of a typed object, or under `metadata` and `key` in a
JSON value. -/
def metaText? (raw : RawObject) (key : String) (read : ObjectMeta → Option String) :
    Option String :=
  match raw with
  | typed kind object => read (ObjectOf.objectMeta kind object)
  | unstructured value => (value.path? ["metadata", key]).bind Json.text?

/-- The `uid` in the metadata, if there is one. -/
def uid? (raw : RawObject) : Option String :=
  raw.metaText? "uid" ObjectMeta.uid

/-- Whether the raw object is the JSON value `null`. -/
def isNull : RawObject → Bool
  | typed _ _ => false
  | unstructured value => value.isNull

/-- The object in a message: `namespace/name`, or its name alone, or `<unnamed>`. -/
def displayName (raw : RawObject) : String :=
  match raw.metaText? "namespace" ObjectMeta.namespace_,
      raw.metaText? "name" ObjectMeta.name with
  | some ns, some name => ns ++ "/" ++ name
  | none, some name => name
  | _, none => "<unnamed>"

/-- The `uid?`, which has to be there and not to be empty. The `kind` is for the error alone. -/
def requireUid (raw : RawObject) (kind : String) : Except ConversionError String :=
  if raw.isNull then .error .null
  else
    match raw.uid? with
    | none => .error (.missingUid kind)
    | some uid => if uid = "" then .error (.missingUid kind) else .ok uid

/-- The object as one of the kind `target`. A JSON value that states another `kind` than `name` is
refused as `.unexpectedKind`, whether it can be read or not. -/
def convert (raw : RawObject) (target : Kind) (name : String) :
    Except ConversionError (ObjectOf target) :=
  match raw with
  | typed kind object =>
      if h : kind = target then .ok (h ▸ object)
      else .error (.unexpectedType target.name kind.name)
  | unstructured .null => .error .null
  | unstructured value =>
      let decoded :=
        match ObjectOf.decode? target value with
        | some object => .ok object
        | none => .error (.malformed name)
      match (value.field? "kind").bind Json.text? with
      | some found => if found = name then decoded else .error (.unexpectedKind name found)
      | none => decoded

end RawObject

end ClusterGraph
