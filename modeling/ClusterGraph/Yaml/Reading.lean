import ClusterGraph.Text.Integer
import ClusterGraph.Yaml.Node

/-!
# ClusterGraph.Yaml.Reading

**What nodes mean to one who expects a text, a number or a section of fields.**

Design points:

* any scalar is a text, however it is written and whatever it looks like;
* a number has to be written plainly, in base ten or with a mark for its base. Digits after a
  zero in front are no number;
* nothing at all stands for an empty text, for an absent optional text, and for a section
  without fields. The word for null stands for an absent optional text only.
-/

namespace ClusterGraph.Yaml.Node

/-! ### Texts -/

/-- The text of a `scalar`, in any style and under any tag. -/
def text? : Node → Option String
  | scalar _ _ s => some s
  | _ => none

/-- Whether a plain text means null: `null`, `Null`, `NULL` or `~`. -/
def isNullWord (s : String) : Bool :=
  s = "null" || s = "Null" || s = "NULL" || s = "~"

/-- The tag `!!null` in full. -/
def nullTag : String := "tag:yaml.org,2002:null"

/-- An optional text. It is `some none` for a plain text that is empty or a null word, and `none`
for a node that is no scalar, or that has `nullTag` and is another word. -/
def optionalText? : Node → Option (Option String)
  | scalar tag .plain s =>
      match tag with
      | none => some (if s.isEmpty || isNullWord s then none else some s)
      | some tag =>
          if tag = nullTag then (if isNullWord s then some none else none) else some (some s)
  | scalar _ _ s => some (some s)
  | _ => none

/-! ### Numbers -/

/-- The tag `!!int` in full. -/
def integerTag : String := "tag:yaml.org,2002:int"

/-- The characters of a scalar that may be read as a number: a plain one, or a literal one that has
`integerTag`. -/
def numeral? : Node → Option (List Char)
  | scalar _ .plain s => some s.toList
  | scalar (some tag) .literal s => if tag = integerTag then some s.toList else none
  | _ => none

/-- Whether the character is `+` or `-`. -/
def isSign (c : Char) : Bool :=
  c = '+' || c = '-'

/-- The characters without the first one, if that is a sign. -/
def withoutSign : List Char → List Char
  | c :: rest => if isSign c then rest else c :: rest
  | [] => []

/-- Whether the number is `0` and then further digits, which makes it no decimal number. -/
def isPadded (cs : List Char) : Bool :=
  match withoutSign cs with
  | '0' :: c :: rest => (c :: rest).all Char.isDigit
  | _ => false

/-- The base of a number in `0x`, `0o` or `0b`, and the digits behind that. -/
def marked? : List Char → Option (Nat × List Char)
  | '0' :: 'x' :: rest => some (16, rest)
  | '0' :: 'o' :: rest => some (8, rest)
  | '0' :: 'b' :: rest => some (2, rest)
  | _ => none

/-- The characters without the first one, if that is `+`. -/
def withoutPlus : List Char → List Char
  | '+' :: rest => rest
  | cs => cs

/-- Read an unsigned word of 64 bits, decimal or behind one of the marks of `marked?`. -/
def unsignedOf? (cs : List Char) : Option Nat :=
  let digits := withoutPlus cs
  match marked? digits with
  | some (base, rest) =>
      if rest.head?.any isSign then none else Text.readUnsigned base rest
  | none =>
      if digits.head?.any isSign || isPadded cs then none else Text.readUnsigned 10 digits

/-- Read a signed word of 64 bits, decimal or behind one of the marks of `marked?`. -/
def signedOf? (cs : List Char) : Option Int :=
  let digits := withoutPlus cs
  if cs.head? = some '+' && digits.head?.any isSign then none
  else
    match marked? digits, cs with
    | some (base, rest), _ =>
        if rest.head?.any isSign then none else Text.readSigned base rest
    | none, '-' :: rest =>
        match marked? rest with
        | some (base, rest) => Text.readSigned base ('-' :: rest)
        | none => if isPadded cs then none else Text.readSigned 10 cs
    | none, _ => if isPadded cs then none else Text.readSigned 10 digits

/-- The node as an unsigned word of 64 bits. -/
def unsigned? (n : Node) : Option Nat :=
  n.numeral?.bind unsignedOf?

/-- The node as a signed word of 64 bits. -/
def signed? (n : Node) : Option Int :=
  n.numeral?.bind signedOf?

/-! ### Sections -/

/-- The entries of a `map`. An empty plain scalar is taken for a map without entries. -/
def entries? : Node → Option (List (Node × Node))
  | map entries => some entries
  | scalar _ .plain s => if s.isEmpty then some [] else none
  | _ => none

/-- The `known` fields of a map. It is `none` if a key is no scalar, or if a known key comes
twice. -/
def fields? (known : List String) (n : Node) : Option (Dict Node) := do
  (← n.entries?).foldlM (fun (d : Dict Node) entry => do
    let key ← entry.1.text?
    if !known.contains key then return d
    else if d.contains key then none
    else return d.insert key entry.2) Dict.empty

end ClusterGraph.Yaml.Node

namespace ClusterGraph

/-- The field under `key`, as `read` reads it, or `default` if it is missing. -/
def fieldOr {α : Type} (d : Dict Yaml.Node) (key : String) (read : Yaml.Node → Option α)
    (default : α) : Option α :=
  match d.find? key with
  | none => some default
  | some n => read n

end ClusterGraph
