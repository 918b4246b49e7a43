import ClusterGraph.Resource.Schema.Common

/-!
# ClusterGraph.Watch.Listed

**Objects as the API lists them: of any type, with metadata that is understood.**

Lists leave out what their items are, so an object may come without its version and kind.
When it is handed on, it says both: its own if it said both itself, and otherwise those of
the list. Its metadata are written back as they were understood, and everything else as it
came.
-/

namespace ClusterGraph

/-- Object of a listing or of a change, as far as a watch has to know it. -/
structure ListedObject where
  /-- The fields `apiVersion` and `kind`, if both are texts. -/
  identity? : Option (String × String)
  metadata : Json
  others : Dict Json

namespace ListedObject

/-- Read `apiVersion` and `kind`; `none` unless both are texts. -/
def readIdentity? (fields : Dict Json) : Option (String × String) := do
  let version ← (fields.find? "apiVersion").bind Json.text?
  let kind ← (fields.find? "kind").bind Json.text?
  return (version, kind)

/-- Read an object. Its `metadata` may be missing, but if it is there it must have the shape
`Schema.objectMeta`, and is kept in its normal form. -/
def decode? : Json → Option ListedObject
  | .object fields =>
      let metadata := (fields.find? "metadata").getD (.object Dict.empty)
      if Schema.objectMeta.accepts metadata then
        some
          { identity? := readIdentity? fields
            metadata := Schema.objectMeta.normalize metadata
            others := ((fields.erase "apiVersion").erase "kind").erase "metadata" }
      else none
  | _ => none

/-- The text of a field of the `metadata`. -/
def metaText? (o : ListedObject) (key : String) : Option String :=
  (o.metadata.present? key).bind Json.text?

/-- The `uid` in the `metadata`. -/
def uid? (o : ListedObject) : Option String :=
  o.metaText? "uid"

/-- The object as it is handed on. One without an `identity?` is of the version and kind of its
list, which is how the API leaves them out in lists. -/
def toJson (listVersion listKind : String) (o : ListedObject) : Json :=
  let (version, kind) := o.identity?.getD (listVersion, listKind)
  .object (((o.others.insert "apiVersion" (.text version)).insert "kind" (.text kind)).insert
    "metadata" o.metadata)

/-- What the tracker remembers of an object: its kind and the `name`, `namespace` and `uid` of its
metadata. That is enough for a deletion, which `uid` decides. -/
def stub (version kind uid : String) (o : ListedObject) : Json :=
  .ofFields
    [ ("apiVersion", .text version),
      ("kind", .text kind),
      ("metadata", .ofFields
        [ ("name", .ofText? (o.metaText? "name")),
          ("namespace", .ofText? (o.metaText? "namespace")),
          ("uid", .text uid) ]) ]

end ListedObject

end ClusterGraph
