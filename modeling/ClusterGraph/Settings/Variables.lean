import ClusterGraph.Dict
import ClusterGraph.Text.Blank
import ClusterGraph.Text.Integer

/-!
# ClusterGraph.Settings.Variables

**The variables of an environment, and files that fill in those that are not set.**

A line of such a file binds a name to a text. The text may be quoted, in part or as a whole,
and may be continued on the next line within quotes; outside of single quotes a dollar sign
puts in the text of another variable, and a backslash takes a character as it is.

Design points:

* a variable that is set already stays as it is;
* the first line that cannot be read ends the file, and what came before it counts.
-/

namespace ClusterGraph

/-- The variables of an environment, by name. -/
abbrev Variables := Dict String

namespace Variables

/-! ### Numbers -/

/-- The variable `name` as an unsigned word of 64 bits, as `Text.readUnsigned` reads it. -/
def unsigned? (env : Variables) (name : String) : Option Nat :=
  (env.find? name).bind fun s => Text.readUnsigned 10 s.toList

/-- The variable `name` as a signed word of 64 bits, as `Text.readSigned` reads it. -/
def signed? (env : Variables) (name : String) : Option Int :=
  (env.find? name).bind fun s => Text.readSigned 10 s.toList

/-! ### Lines -/

/-- The place in a line that `scanLine` has come to: in quotes, behind a backslash, behind a blank,
or in a comment. -/
inductive LineState where
  | plain
  | afterBlank
  | escape
  | single
  | singleEscape
  | double
  | doubleEscape
  | comment
deriving DecidableEq

namespace LineState

/-- The state after a character outside of quotes that is no blank. -/
def open_ (c : Char) : LineState :=
  if c = '\\' then escape else if c = '"' then double else if c = '\'' then single else plain

/-- The state after one more character. A `#` begins a comment only behind a blank. -/
def step (s : LineState) (c : Char) : LineState :=
  match s with
  | plain => if Text.isBlank c && c ≠ '\n' && c ≠ '\r' then afterBlank else open_ c
  | afterBlank => if c = '#' then comment else open_ c
  | escape => plain
  | single => if c = '\\' then singleEscape else if c = '\'' then plain else single
  | singleEscape => single
  | double => if c = '\\' then doubleEscape else if c = '"' then plain else double
  | doubleEscape => double
  | comment => comment

end LineState

/-- Read on in a line from state `s`: the state at its end, and the characters before a comment. -/
def scanLine (s : LineState) : List Char → LineState × List Char
  | [] => (s, [])
  | c :: rest =>
      match s.step c with
      | .comment => (.comment, [])
      | s =>
          let (s, text) := scanLine s rest
          (s, c :: text)

/-- The lines of a file as `logicalLines` takes them, each with the newline that ends it. -/
def physicalLines : List Char → List (List Char)
  | [] => []
  | c :: rest =>
      if c = '\n' then [c] :: physicalLines rest
      else
        match physicalLines rest with
        | [] => [[c]]
        | line :: lines => (c :: line) :: lines

/-- The line without its end. -/
def withoutLineEnd (cs : List Char) : List Char :=
  match cs.reverse with
  | '\n' :: '\r' :: rest => rest.reverse
  | '\n' :: rest => rest.reverse
  | _ => cs

/-- The lines of a file without comments, with those joined that belong together. One that
is not complete is `none`. -/
def logicalLines (held : List Char) (s : LineState) :
    List (List Char) → List (Option (List Char))
  | [] => if s = .plain then [] else [none]
  | line :: rest =>
      if (Text.skipBlanks (held ++ line)).head? = some '#' then logicalLines [] .plain rest
      else
        match scanLine s line with
        | (.comment, text) => some (held ++ text) :: logicalLines [] .plain rest
        | (.plain, _) => some (withoutLineEnd (held ++ line)) :: logicalLines [] .plain rest
        | (s, _) => logicalLines (held ++ line) s rest

/-! ### Bindings -/

/-- The name of a variable that `step?` is reading in a value. -/
inductive Reference where
  | none
  /-- Behind a `$`. -/
  | bare (name : List Char)
  /-- Behind a `$` and an opening brace. -/
  | braced (name : List Char)
deriving DecidableEq

/-- The state in which a value is read: the `text` so far, and what the next character is in. -/
structure ValueReader where
  text : List Char := []
  single : Bool := false
  double : Bool := false
  escaped : Bool := false
  reference : Reference := .none
  /-- After the first blank outside of quotes: only blanks and a comment may follow. -/
  isOver : Bool := false
  /-- Behind the `#` of the comment. -/
  inComment : Bool := false

namespace ValueReader

/-- Add characters to the `text`. -/
def put (r : ValueReader) (cs : List Char) : ValueReader :=
  { r with text := r.text ++ cs }

/-- The character that an escape in a value stands for. -/
def escape? (c : Char) : Option Char :=
  if "\\'\"$ ".toList.contains c then some c else if c = 'n' then some '\n' else none

/-- Take a character while no name is being read and no escape is open. -/
def plainStep (r : ValueReader) (c : Char) : ValueReader :=
  if c = '$' then { r with reference := .bare [] }
  else if r.double then
    if c = '"' then { r with double := false }
    else if c = '\\' then { r with escaped := true }
    else r.put [c]
  else if c = '\'' then { r with single := true }
  else if c = '"' then { r with double := true }
  else if c = '\\' then { r with escaped := true }
  else if c = ' ' || c = '\t' then { r with isOver := true }
  else r.put [c]

/-- Take a character, where `valueOf` gives the values of variables. It is `none` if the character
is not allowed here. -/
def step? (valueOf : String → String) (r : ValueReader) (c : Char) : Option ValueReader :=
  let insert (name : List Char) := (valueOf (String.ofList name)).toList
  if r.inComment then some r
  else if r.isOver then
    if c = ' ' || c = '\t' then some r
    else if c = '#' then some { r with inComment := true }
    else none
  else if r.escaped then (escape? c).map fun c => { r with escaped := false }.put [c]
  else if r.single then some (if c = '\'' then { r with single := false } else r.put [c])
  else
    match r.reference with
    | .none => some (r.plainStep c)
    | .bare name =>
        if c.isAlphanum then some { r with reference := .bare (name ++ [c]) }
        else if c = '\x7b' && name.isEmpty then some { r with reference := .braced [] }
        else
          let r := r.put (insert name)
          if c = '$' then some { r with reference := .bare [] }
          else some ({ r with reference := .none }.put [c])
    | .braced name =>
        if c = '\x7d' then some ({ r with reference := .none }.put (insert name))
        else some { r with reference := .braced (name ++ [c]) }

/-- The text that was read, if no quotes and no braces are open. -/
def finish? (valueOf : String → String) (r : ValueReader) : Option String :=
  if r.single || r.double then none
  else
    match r.reference with
    | .none => some (String.ofList r.text)
    | .bare name => some (String.ofList r.text ++ valueOf (String.ofList name))
    | .braced _ => none

end ValueReader

/-- What a line says: `nothing`, or a `binding` of a name. -/
inductive Line where
  | nothing
  | binding (name value : String)

/-- Read a name: a letter or `_`, and then letters, digits, `_` and `.`; and the blanks behind
it. -/
def readName? (cs : List Char) : Option (String × List Char) :=
  let isNameChar (c : Char) : Bool := c.isAlphanum || c = '_' || c = '.'
  if cs.head?.any fun c => c.isAlpha || c = '_' then
    some (String.ofList (cs.takeWhile isNameChar), Text.skipBlanks (cs.dropWhile isNameChar))
  else none

/-- Read the `=` between a name and its value. -/
def readEquals? : List Char → Option (List Char)
  | '=' :: rest => some rest
  | _ => none

/-- Read a line. The word `export` may stand in front of a name. -/
def readLine? (valueOf : String → String) (cs : List Char) : Option Line :=
  match Text.skipBlanks cs with
  | [] | '#' :: _ => some .nothing
  | cs => do
      let (name, rest) ← readName? cs
      let (name, rest) ←
        match name, readEquals? rest with
        | "export", none => do
            let (name, rest) ← readName? rest
            some (name, ← readEquals? rest)
        | _, equals => equals.map fun rest => (name, rest)
      match Text.skipBlanks rest with
      | [] | '#' :: _ => return .binding name ""
      | value => do
          let r ← value.foldlM (ValueReader.step? valueOf) {}
          return .binding name (← r.finish? valueOf)

/-- Follow the lines until one is malformed: the environment, and in `bound` what the file has bound
so far. A variable that is set is not changed. -/
def followLines (env bound : Variables) : List (Option (List Char)) → Variables
  | [] | none :: _ => env
  | some line :: rest =>
      let valueOf (name : String) := ((env.find? name).or (bound.find? name)).getD ""
      match readLine? valueOf line with
      | none => env
      | some .nothing => followLines env bound rest
      | some (.binding name value) =>
          followLines (if env.contains name then env else env.insert name value)
            (bound.insert name value) rest

/-- The environment with the variables that the `text` of a file binds, unless they are set. -/
def withFile (env : Variables) (text : String) : Variables :=
  followLines env Dict.empty (logicalLines [] .plain (physicalLines text.toList))

end Variables

end ClusterGraph
