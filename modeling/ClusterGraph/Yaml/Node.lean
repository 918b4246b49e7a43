import ClusterGraph.Dict
import ClusterGraph.Yaml.Token

/-!
# ClusterGraph.Yaml.Node

**The tree of a YAML document.**

Design points:

* a text stays as it was written, together with how it was written and its tag: whether
  `5` is a number is for the one who reads it to say;
* an alias is replaced by the node that it names. Only within that node itself this is not
  possible, and there it stands as `Node.cycle`;
* a place where a node may be left out holds an empty plain text.
-/

namespace ClusterGraph.Yaml

/-- A node of a document: a scalar with its tag, a list, or a map. The entries of a map may repeat a
key. -/
inductive Node where
  | scalar (tag : Option String) (style : ScalarStyle) (text : String)
  | list (items : List Node)
  | map (entries : List (Node × Node))
  /-- An alias of a node that is still being read, and so contains itself. -/
  | cycle
deriving Inhabited

namespace Node

/-- The node that stands where none is written. -/
def omitted : Node :=
  .scalar none .plain ""

/-- The state of the reader: the `tokens` that are left, and what handles and anchors stand for. -/
structure Composition where
  tokens : List Token
  handles : Dict String
  /-- The nodes with an anchor. One that is still being read is `none`. -/
  anchors : Dict (Option Node)

/-- A reader with the state `Composition`, which fails on malformed text. -/
abbrev Compose := StateT Composition Option

/-- The next token, which is left where it is. -/
def next? : Compose (Option Token) :=
  return (← get).tokens.head?

/-- Drop the next token. -/
def skip : Compose Unit :=
  modify fun c => { c with tokens := c.tokens.drop 1 }

/-- Drop the next token if it is `t`, and tell whether it was. -/
def skipIf (t : Token) : Compose Bool := do
  if (← next?) = some t then
    skip
    return true
  else return false

/-- Put a node under its anchor `name`, if it has one. -/
def bind (name : Option String) (node : Option Node) : Compose Unit :=
  match name with
  | none => return ()
  | some name => modify fun c => { c with anchors := c.anchors.insert name node }

/-- The node of an alias: `failure` without an anchor of that name, `.cycle` while its node is being
read. -/
def named (name : String) : Compose Node := do
  match (← get).anchors.find? name with
  | none => failure
  | some none => return .cycle
  | some (some node) => return node

/-- The tag that a handle and a suffix stand for. A tag without a handle is written in full. -/
def expand (handle suffix : String) : Compose String := do
  if handle.isEmpty then return suffix
  else
    match (← get).handles.find? handle with
    | none => failure
    | some expansion => return expansion ++ suffix

/-- Read an anchor and a tag before a node, in either order, each at most once. -/
def properties : Compose (Option String × Option String) := do
  match ← next? with
  | some (.anchor name) =>
      skip
      match ← next? with
      | some (.tag handle suffix) =>
          skip
          return (some name, some (← expand handle suffix))
      | _ => return (some name, none)
  | some (.tag handle suffix) =>
      skip
      let tag ← expand handle suffix
      match ← next? with
      | some (.anchor name) =>
          skip
          return (some name, some tag)
      | _ => return (none, some tag)
  | _ => return (none, none)

/-- The position of a node, on which it depends what may begin there. -/
inductive Position where
  /-- In brackets or braces. -/
  | flow
  /-- An item of a block list, or the root of the document. -/
  | block
  /-- A key or a value of a block map, where a list may be as deep as the map (`looseItems`). -/
  | entry
deriving DecidableEq

/-- Read the comma before an item in brackets or braces. The `first` item has none. -/
def separator (first : Bool) : Compose Unit := do
  if first then return ()
  else if ← skipIf .comma then return ()
  else failure

mutual

/-- Read a node: an alias, or `properties` and then `content`. -/
def read : Nat → Position → Compose Node
  | 0, _ => failure
  | fuel + 1, position => do
      match ← next? with
      | some (.alias name) =>
          skip
          named name
      | _ =>
          let (name, tag) ← properties
          bind name none
          let node ← content fuel position (name.isSome || tag.isSome) tag
          bind name (some node)
          return node

/-- Read the content of a node, behind its anchor and its tag. The node is `marked` if it has one of
these. -/
def content : Nat → Position → Bool → Option String → Compose Node
  | 0, _, _, _ => failure
  | fuel + 1, position, marked, tag => do
      match ← next? with
      | some .item =>
          if position = .entry then return .list (← looseItems fuel)
          else if marked then return .scalar tag .plain "" else failure
      | some (.scalar style text) =>
          skip
          return .scalar tag style text
      | some .openBracket =>
          skip
          return .list (← flowItems fuel true)
      | some .openBrace =>
          skip
          return .map (← flowEntries fuel true)
      | some .listStart =>
          if position = .flow then failure
          else
            skip
            return .list (← items fuel)
      | some .mapStart =>
          if position = .flow then failure
          else
            skip
            return .map (← entries fuel)
      | _ => if marked then return .scalar tag .plain "" else failure

/-- Read the items of a block list up to its `.blockEnd`. -/
def items : Nat → Compose (List Node)
  | 0 => failure
  | fuel + 1 => do
      if ← skipIf .blockEnd then return []
      else if ← skipIf .item then
        let node ← readUnless fuel .block [.item, .blockEnd]
        return node :: (← items fuel)
      else failure

/-- Read the items of a list that is as deep as the map it belongs to. Such a list has no
`.blockEnd`. -/
def looseItems : Nat → Compose (List Node)
  | 0 => failure
  | fuel + 1 => do
      if ← skipIf .item then
        let node ← readUnless fuel .block [.item, .key, .value, .blockEnd]
        return node :: (← looseItems fuel)
      else return []

/-- Read the entries of a block map up to its `.blockEnd`. -/
def entries : Nat → Compose (List (Node × Node))
  | 0 => failure
  | fuel + 1 => do
      if ← skipIf .blockEnd then return []
      else if ← skipIf .key then
        let key ← readUnless fuel .entry [.key, .value, .blockEnd]
        let value ← entryValue fuel
        return (key, value) :: (← entries fuel)
      else failure

/-- Read the value of an entry, which is `omitted` if there is no `.value`. -/
def entryValue : Nat → Compose Node
  | 0 => failure
  | fuel + 1 => do
      if ← skipIf .value then readUnless fuel .entry [.key, .value, .blockEnd]
      else return omitted

/-- Read the items of a list in brackets. An item `key: value` is a map of one entry. -/
def flowItems : Nat → Bool → Compose (List Node)
  | 0, _ => failure
  | fuel + 1, first => do
      if ← skipIf .closeBracket then return []
      else
        separator first
        if ← skipIf .closeBracket then return []
        else if ← skipIf .key then
          let key ← readUnless fuel .flow [.value, .comma, .closeBracket]
          let value ← flowValue fuel .closeBracket
          return .map [(key, value)] :: (← flowItems fuel false)
        else
          let node ← read fuel .flow
          return node :: (← flowItems fuel false)

/-- Read the entries of a map in braces. -/
def flowEntries : Nat → Bool → Compose (List (Node × Node))
  | 0, _ => failure
  | fuel + 1, first => do
      if ← skipIf .closeBrace then return []
      else
        separator first
        if ← skipIf .closeBrace then return []
        else if ← skipIf .key then
          let key ← readUnless fuel .flow [.value, .comma, .closeBrace]
          let value ← flowValue fuel .closeBrace
          return (key, value) :: (← flowEntries fuel false)
        else
          let key ← read fuel .flow
          return (key, omitted) :: (← flowEntries fuel false)

/-- Read the value of an entry in brackets or braces, which is `omitted` if there is no `.value`. -/
def flowValue : Nat → Token → Compose Node
  | 0, _ => failure
  | fuel + 1, close => do
      if ← skipIf .value then readUnless fuel .flow [.comma, close]
      else return omitted

/-- Read a node, or take it for `omitted` if the next token is one of `before`. -/
def readUnless : Nat → Position → List Token → Compose Node
  | 0, _, _ => failure
  | fuel + 1, position, before => do
      match ← next? with
      | some t => if before.contains t then return omitted else read fuel position
      | none => read fuel position

end

/-! ### Documents -/

/-- The handles that every document has: `!` and `!!`. -/
def commonHandles : Dict String :=
  Dict.ofList [("!", "!"), ("!!", "tag:yaml.org,2002:")]

/-- Whether the version in a directive is `1.1` or `1.2`. -/
def isKnownVersion (major minor : Nat) : Bool :=
  major = 1 && (minor = 1 || minor = 2)

/-- Read the directives before a document: one version at most, and each handle once. The handles
that are bound are returned, and whether there were any directives. -/
def directives (versioned : Bool) (given : List String) :
    List Token → Option (List (String × String) × Bool × List Token)
  | .version major minor :: rest =>
      if versioned || !isKnownVersion major minor then none
      else (directives true given rest).map fun (handles, _, rest) => (handles, true, rest)
  | .tagHandle handle expansion :: rest =>
      if given.contains handle then none
      else
        (directives versioned (handle :: given) rest).map fun (handles, _, rest) =>
          ((handle, expansion) :: handles, true, rest)
  | ts => some ([], false, ts)

/-- Read the root of a document, and return the tokens behind it. A document may be empty, in which
case its root is `omitted`. -/
def document? (handles : Dict String) (ts : List Token) : Option (Node × List Token) :=
  match ts with
  | [] | .version _ _ :: _ | .tagHandle _ _ :: _ | .documentStart :: _ | .documentEnd :: _ =>
      some (omitted, ts)
  | _ =>
      ((read (4 * ts.length + 4) .block).run ⟨ts, handles, Dict.empty⟩).map fun (node, c) =>
        (node, c.tokens)

/-- Drop every `.documentEnd`. -/
def skipEnds (ts : List Token) : List Token :=
  ts.dropWhile (· = .documentEnd)

/-- The root of the only document in `ts`. A second document is an error. Without tokens the root is
`omitted`. -/
def ofTokens? (ts : List Token) : Option Node := do
  let (handles, directed, rest) ← directives false [] ts
  let (node, rest) ←
    match rest with
    | [] => if directed then none else some (omitted, [])
    | .documentStart :: rest =>
        document? (handles.foldl (fun d h => d.insert h.1 h.2) commonHandles) rest
    | .documentEnd :: _ => none
    | rest => if directed then none else document? commonHandles rest
  if (skipEnds rest).isEmpty then some node else none

/-- The root of the only document in the text. -/
def parse? (s : String) : Option Node :=
  (tokens? s).bind ofTokens?

end Node

end ClusterGraph.Yaml
