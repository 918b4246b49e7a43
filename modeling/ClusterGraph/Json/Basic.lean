import ClusterGraph.Dict
import ClusterGraph.Number.Binary64

/-!
# ClusterGraph.Json.Basic

**JSON values, and the look-ups the rest of the library makes in them.**

Design points:

* a number is an exact integer as long as it fits 64 bits, signed or unsigned, and the
  nearest `Binary64` otherwise; a number written with a point or an exponent is always a
  `Binary64`, so `1` and `1.0` stay apart;
* the fields of an object are a `Dict`: ordered by key, each key once.
-/

namespace ClusterGraph

/-- A JSON number: an `integer` that was written without a point and fits 64 bits, or a `float`. -/
inductive Number where
  | integer (i : Int)
  | float (x : Binary64)
deriving DecidableEq

/-- A JSON value. The fields of an `object` are a `Dict`, so a key has one value and the keys are in
order. -/
inductive Json where
  | null
  | bool (b : Bool)
  | number (n : Number)
  | text (s : String)
  | array (items : List Json)
  | object (fields : Dict Json)
deriving Inhabited

namespace Json

/-- The integer `i` as a `.number`. -/
def int (i : Int) : Json :=
  .number (.integer i)

/-- A text that may be absent; absence is `null`. -/
def ofText? : Option String → Json
  | some s => .text s
  | none => .null

/-- An integer that may be absent; absence is `null`. -/
def ofInt? : Option Int → Json
  | some i => .int i
  | none => .null

/-- A truth value that may be absent; absence is `null`. -/
def ofBool? : Option Bool → Json
  | some b => .bool b
  | none => .null

/-- An `.array` of texts. -/
def texts (items : List String) : Json :=
  .array (items.map .text)

/-- An `.object` whose values are the texts of `d`. -/
def textMap (d : Dict String) : Json :=
  .object (d.map .text)

/-- An `.object` given by its fields in any order. Of two fields of one key the later counts, as in
`Dict.ofList`. -/
def ofFields (fields : List (String × Json)) : Json :=
  .object (Dict.ofList fields)

/-! ### Look-ups -/

/-- Whether the value is `null`. -/
def isNull : Json → Bool
  | .null => true
  | _ => false

/-- The text of a `.text`, and `none` for any other value. -/
def text? : Json → Option String
  | .text s => some s
  | _ => none

/-- The truth value of a `.bool`, and `none` for any other value. -/
def bool? : Json → Option Bool
  | .bool b => some b
  | _ => none

/-- The integer of a number, and `none` for any other value, a `.float` included. -/
def int? : Json → Option Int
  | .number (.integer i) => some i
  | _ => none

/-- The items of an `.array`, and `none` for any other value. -/
def items? : Json → Option (List Json)
  | .array items => some items
  | _ => none

/-- The fields of an `.object`, and `none` for any other value. -/
def fields? : Json → Option (Dict Json)
  | .object fields => some fields
  | _ => none

/-- The value under `key` in an object, and `none` in any other value. -/
def field? (j : Json) (key : String) : Option Json :=
  match j with
  | .object fields => fields.find? key
  | _ => none

/-- The field of an object with the given key, unless it is `null`: a field that is `null`
counts as absent wherever fields may be left out. -/
def present? (j : Json) (key : String) : Option Json :=
  match j.field? key with
  | some .null => none
  | found => found

/-- The value that the keys lead to from `j`, one `field?` after the other. -/
def path? (j : Json) : List String → Option Json
  | [] => some j
  | key :: rest => (j.field? key).bind fun inner => inner.path? rest

@[simp] theorem path?_nil (j : Json) : j.path? [] = some j :=
  rfl

@[simp] theorem path?_cons (j : Json) (key : String) (rest : List String) :
    j.path? (key :: rest) = (j.field? key).bind fun inner => inner.path? rest :=
  rfl

@[simp] theorem field?_null (key : String) : Json.null.field? key = none :=
  rfl

end Json

end ClusterGraph
