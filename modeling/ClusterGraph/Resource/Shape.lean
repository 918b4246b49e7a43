import ClusterGraph.Json.Basic
import ClusterGraph.Text.Base64
import ClusterGraph.Time.Rfc3339

/-!
# ClusterGraph.Resource.Shape

**The types of the cluster's API as shapes of JSON values.**

A shape says which values are well typed (`Shape.accepts`) and how a well-typed value is
written back (`Shape.normalize`): fields that the shape does not know are dropped, absent
ones left out, and instants printed in their stored form.

Design points:

* a record accepts any other field; a field that is absent or `null` is always well typed,
  also where the API calls it required, and then stands for the default of its type;
* the elements of lists and maps are not fields, so `null` is no element;
* `Shape.constant` is the one exception: a field that says what the object is may be
  absent, but not `null`.
-/

namespace ClusterGraph

/-- The shape of a JSON value: which values a type of the client accepts, and how it writes them
back. -/
inductive Shape where
  /-- Any value, `null` included. -/
  | any
  /-- A `.text`. -/
  | text
  /-- The text `s`, and no other value. -/
  | constant (s : String)
  /-- A `.bool`. -/
  | flag
  /-- An integer that `fits` 32 bits. -/
  | int32
  /-- An integer that `fits` 64 bits. -/
  | int64
  /-- An integer that `fits` 32 bits, or a text. -/
  | int32OrText
  /-- A text that `Time.read?` reads. -/
  | instant
  /-- Bytes in their padded base64 form; `null` is no bytes. -/
  | bytes
  /-- An array whose items are of the shape `item`. -/
  | list (item : Shape)
  /-- An object whose values are of the shape `value`, under any keys. -/
  | map (value : Shape)
  /-- An object in which every one of the `fields` that is there is of its shape. Other keys are
  ignored, and not written back. -/
  | record (fields : List (String × Shape))
  /-- A `field` that is written back even if it is absent, as `absent`. -/
  | always (absent : Json) (field : Shape)

namespace Shape

/-- Whether the integer fits a signed word of so many `bits`. -/
def fits (bits : Nat) (i : Int) : Bool :=
  let limit : Int := (Nat.pow 2 (bits - 1) : Nat)
  i < limit && -limit ≤ i

/-- Whether a field of the shape may be `null`. -/
def nullable : Shape → Bool
  | constant _ => false
  | _ => true

mutual

/-- Whether a value can be read as one of the shape. -/
def accepts : Shape → Json → Bool
  | any, _ => true
  | text, j => j.text?.isSome
  | constant s, j => j.text? = some s
  | flag, j => j.bool?.isSome
  | int32, j => j.int?.any (fits 32)
  | int64, j => j.int?.any (fits 64)
  | int32OrText, j => j.text?.isSome || j.int?.any (fits 32)
  | instant, j => (j.text?.bind Time.read?).isSome
  | bytes, j => j.isNull || (j.text?.bind Text.Base64.decode?).isSome
  | list item, j => j.items?.any fun items => items.all (accepts item)
  | map value, j => j.fields?.any fun fields => fields.values.all (accepts value)
  | record shapes, j => j.fields?.any (acceptsFields shapes)
  | always _ field, j => accepts field j

/-- Whether each field that is there can be read: `null` where the shape is `nullable`, any other
value where the shape `accepts` it. -/
def acceptsFields : List (String × Shape) → Dict Json → Bool
  | [], _ => true
  | (key, shape) :: rest, fields =>
      (match fields.find? key with
        | none => true
        | some .null => shape.nullable
        | some j => accepts shape j)
      && acceptsFields rest fields

end

/-! ### Writing back -/

/-- The text of an instant as it is written back, by `Instant.format`: in UTC, and without a
fraction of a second. -/
def normalizeInstant (j : Json) : Json :=
  match j.text?.bind Time.read? with
  | some t => .text t.format
  | none => j

mutual

/-- A value that the shape `accepts`, as it is written back. -/
def normalize : Shape → Json → Json
  | instant, j => normalizeInstant j
  | bytes, .null => .text ""
  | list item, .array items => .array (items.map (normalize item))
  | map value, .object fields => .object (fields.map (normalize value))
  | record shapes, .object fields => .object (Dict.ofList (normalizeFields shapes fields))
  | always _ field, j => normalize field j
  | _, j => j

/-- The fields of an object that a `record` knows, as they are written back. -/
def normalizeFields : List (String × Shape) → Dict Json → List (String × Json)
  | [], _ => []
  | (key, shape) :: rest, fields =>
      let others := normalizeFields rest fields
      match (Json.object fields).present? key, shape with
      | some j, _ => (key, normalize shape j) :: others
      | none, always absent _ => (key, absent) :: others
      | none, _ => others

end

end Shape

end ClusterGraph
