import ClusterGraph.Yaml.Scalar

/-!
# ClusterGraph.Yaml.Token

**The tokens of a YAML text, with its indentation turned into brackets.**

Outside of brackets and braces the structure of a text is in its columns. Reading tokens
keeps the indentations that are open; a deeper one opens a list or a map, and a shallower
line closes what stands deeper than itself.

Design points:

* that a text is a key shows only at the colon behind it. So a place where a key may have
  begun is remembered as a `Candidate`, and the colon puts `Token.key` in front of it, and the
  start of the map if the key stands deeper than what is open;
* a key written without question mark stays on one line and below 1024 characters;
* something that stands exactly where the keys of the open map stand has to be a key.
-/

namespace ClusterGraph.Yaml

/-- A token of a document. There is none for the end of the text, where the list of tokens ends. -/
inductive Token where
  /-- The directive `%YAML`. -/
  | version (major minor : Nat)
  /-- The directive `%TAG`: the handle stands for the expansion at the front of a tag. -/
  | tagHandle (handle expansion : String)
  | documentStart
  | documentEnd
  | listStart
  | mapStart
  | blockEnd
  | openBracket
  | closeBracket
  | openBrace
  | closeBrace
  /-- The `-` before an item. -/
  | item
  /-- The `,` between items. -/
  | comma
  | key
  | value
  | alias (name : String)
  | anchor (name : String)
  | tag (handle suffix : String)
  | scalar (style : ScalarStyle) (text : String)
deriving DecidableEq

/-- A place at which a key may have begun. It did if a `:` follows. -/
structure Candidate where
  /-- Whether it has to be a key, because no other token may begin in this column. -/
  required : Bool
  /-- The number of tokens before it. -/
  position : Nat
  place : Place

/-- The state of the lexer. -/
structure Lexer where
  /-- The tokens so far, in reverse. -/
  tokens : List Token
  /-- The columns of the block lists and maps that are open, the innermost first. -/
  indents : List Nat
  /-- The candidates for a key, one for each open bracket or brace and one outside of them, the
  innermost first. -/
  candidates : List (Option Candidate)
  /-- Whether a key without `?` may begin here. -/
  keyAllowed : Bool

namespace Lexer

/-- The state at the start of a text. -/
def start : Lexer :=
  ⟨[], [], [none], true⟩

/-- Whether a bracket or a brace is open. -/
def inFlow (s : Lexer) : Bool :=
  1 < s.candidates.length

/-- The column of the innermost block list or map, if one is open. -/
def indent? (s : Lexer) : Option Nat :=
  s.indents.head?

/-- The least column of a plain scalar in the innermost block list or map. -/
def innerColumn (s : Lexer) : Nat :=
  (s.indent?.map (· + 1)).getD 0

/-- Add `t` to the tokens. -/
def put (t : Token) (s : Lexer) : Lexer :=
  { s with tokens := t :: s.tokens }

/-- Insert `ts` into the tokens, behind the first `position` of them. -/
def insertAt (position : Nat) (ts : List Token) (s : Lexer) : Lexer :=
  let later := s.tokens.length - position
  { s with tokens := s.tokens.take later ++ ts.reverse ++ s.tokens.drop later }

/-- Set `keyAllowed`. -/
def allowKey (allowed : Bool) (s : Lexer) : Lexer :=
  { s with keyAllowed := allowed }

/-! ### Indentation -/

/-- Close the block lists and maps that are deeper than `column` with a `.blockEnd` each. In
brackets nothing is closed. -/
def closeAbove (column : Nat) (s : Lexer) : Lexer :=
  if s.inFlow then s
  else
    let (closed, open_) := (s.indents.takeWhile (column < ·), s.indents.dropWhile (column < ·))
    { s with tokens := closed.map (fun _ => Token.blockEnd) ++ s.tokens, indents := open_ }

/-- Close all block lists and maps with a `.blockEnd` each. In brackets nothing is closed. -/
def closeAll (s : Lexer) : Lexer :=
  if s.inFlow then s
  else
    { s with tokens := s.indents.map (fun _ => Token.blockEnd) ++ s.tokens, indents := [] }

/-- Whether `column` is deeper than the innermost block list or map. In brackets it is not. -/
def isDeeper (column : Nat) (s : Lexer) : Bool :=
  !s.inFlow && s.indent?.all (· < column)

/-- Open a block list or map with `t` in `column`, if that `isDeeper`. -/
def openAt (column : Nat) (t : Token) (s : Lexer) : Lexer :=
  if s.isDeeper column then { s.put t with indents := column :: s.indents } else s

/-! ### Keys -/

/-- The candidate for a key on the innermost level. -/
def candidate? (s : Lexer) : Option Candidate :=
  s.candidates.head?.join

/-- Set the candidate for a key on the innermost level. -/
def setCandidate (c : Option Candidate) (s : Lexer) : Lexer :=
  { s with candidates := c :: s.candidates.drop 1 }

/-- Drop the candidate for a key on the innermost level. It is `none` if that is `required` to be a
key. -/
def dropCandidate? (s : Lexer) : Option Lexer :=
  if s.candidate?.any Candidate.required then none else some (s.setCandidate none)

/-- Make the place `p` a candidate for a key, if a key is allowed here. -/
def markCandidate? (p : Place) (s : Lexer) : Option Lexer :=
  if s.keyAllowed then do
    let required := !s.inFlow && s.indent? = some p.column
    let s ← s.dropCandidate?
    return s.setCandidate (some ⟨required, s.tokens.length, p⟩)
  else some s

/-- The largest number of characters between the start of a key and its `:`. -/
def longestKey : Nat := 1024

/-- The candidate that a `:` makes a key: it has to be on the same line, and not more than
`longestKey` before. It is `none` if the candidate is `required` and too far away. -/
def keyBefore? (colon : Place) (s : Lexer) : Option (Option Candidate) :=
  match s.candidate? with
  | none => some none
  | some c =>
      if c.place.line < colon.line || c.place.index + longestKey < colon.index then
        if c.required then none else some none
      else some (some c)

/-! ### One token -/

/-- Read an opening bracket or brace, `t`. -/
def enter? (p : Place) (t : Token) (s : Lexer) : Option Lexer := do
  let s ← s.markCandidate? p
  return ({ s with candidates := none :: s.candidates }.allowKey true).put t

/-- Read a closing bracket or brace, `t`. -/
def leave? (t : Token) (s : Lexer) : Option Lexer := do
  let s ← s.dropCandidate?
  let s := if s.inFlow then { s with candidates := s.candidates.drop 1 } else s
  return (s.allowKey false).put t

/-- Read a `,`. -/
def comma? (s : Lexer) : Option Lexer := do
  let s ← s.dropCandidate?
  return (s.allowKey true).put .comma

/-- Read a `-` before an item, which opens a block list if it `isDeeper`. -/
def item? (p : Place) (s : Lexer) : Option Lexer := do
  if !s.inFlow && !s.keyAllowed then none
  else
    let s ← (s.openAt p.column .listStart).dropCandidate?
    return (s.allowKey true).put .item

/-- Read a `?` before a key, which opens a block map if it `isDeeper`. -/
def questionMark? (p : Place) (s : Lexer) : Option Lexer := do
  if !s.inFlow && !s.keyAllowed then none
  else
    let s ← (s.openAt p.column .mapStart).dropCandidate?
    return (s.allowKey !s.inFlow).put .key

/-- Read a `:`. If `keyBefore?` finds a candidate, a `.key` is inserted before it, and a `.mapStart`
if its column `isDeeper`. -/
def colon? (p : Place) (s : Lexer) : Option Lexer := do
  match ← s.keyBefore? p with
  | some c =>
      let column := c.place.column
      let opening := if s.isDeeper column then [Token.mapStart] else []
      let indents := if s.isDeeper column then column :: s.indents else s.indents
      let s := s.insertAt c.position (opening ++ [.key])
      return (({ s with indents }.setCandidate none).allowKey false).put .value
  | none =>
      if !s.inFlow && !s.keyAllowed then none
      else return ((s.openAt p.column .mapStart).allowKey !s.inFlow).put .value

/-- Read a `---` or `...`, which closes all block lists and maps. -/
def documentMark? (t : Token) (s : Lexer) : Option Lexer := do
  let s ← s.closeAll.dropCandidate?
  return (s.allowKey false).put t

/-- Read an alias, an anchor or a tag, `t`, at which a key may begin. -/
def leaf? (p : Place) (t : Token) (s : Lexer) : Option Lexer := do
  let s ← s.markCandidate? p
  return (s.allowKey false).put t

end Lexer

/-! ### Names and tags -/

/-- Whether the character is a letter, a digit, `_` or `-`. -/
def isNameChar (c : Char) : Bool :=
  c.isAlphanum || c = '_' || c = '-'

/-- Read the name of an anchor or of an alias. It is not empty, and a gap or an indicator
follows. -/
def readName? (ps : List Place) : Option (String × List Place) :=
  let name := ps.takeWhile fun p => isNameChar p.char
  let rest := ps.dropWhile fun p => isNameChar p.char
  if !name.isEmpty && (isWordEnd rest || nextIs "?:,]\x7d%@`".toList.contains rest) then
    some (textOf name, rest)
  else none

/-- Whether the character may be in a tag. In a `verbatim` one some more may. -/
def isTagChar (verbatim : Bool) (c : Char) : Bool :=
  isNameChar c || ";/?:@&=+$.%!~*'()".toList.contains c
    || (verbatim && (c = ',' || c = '[' || c = ']'))

/-- The bytes of characters in UTF-8, where `%` and two digits stand for a byte. -/
def percentDecoded? : List Char → Option (List UInt8)
  | [] => some []
  | '%' :: a :: b :: rest => do
      let a ← hexDigitValue? a
      let b ← hexDigitValue? b
      return UInt8.ofNat (a * 16 + b) :: (← percentDecoded? rest)
  | '%' :: _ => none
  | c :: rest => do return (String.singleton c).toUTF8.toList ++ (← percentDecoded? rest)

/-- Read the characters of a tag, as `percentDecoded?` decodes them. -/
def readTagText? (verbatim : Bool) (ps : List Place) : Option (String × List Place) := do
  let bytes ← percentDecoded? (charsOf (ps.takeWhile fun p => isTagChar verbatim p.char))
  let text ← String.fromUTF8? ⟨bytes.toArray⟩
  return (text, ps.dropWhile fun p => isTagChar verbatim p.char)

/-- Read the handle of a tag behind its first `!`: the characters up to a second one, if there is
one. -/
def readHandle (ps : List Place) : String × Bool × List Place :=
  let letters := ps.takeWhile fun p => isNameChar p.char
  let rest := ps.dropWhile fun p => isNameChar p.char
  if nextIs (· = '!') rest then ("!" ++ textOf letters ++ "!", true, rest.drop 1)
  else ("!" ++ textOf letters, false, rest)

/-- Read a tag behind its first `!`, as its handle and its suffix. -/
def readTag? (inFlow : Bool) (ps : List Place) : Option (String × String × List Place) := do
  let (handle, suffix, rest) ←
    if nextIs (· = '<') ps then do
      let (text, rest) ← readTagText? true (ps.drop 1)
      if !text.isEmpty && nextIs (· = '>') rest then some ("", text, rest.drop 1) else none
    else
      match readHandle ps with
      | (handle, true, rest) => do
          let (text, rest) ← readTagText? false rest
          if text.isEmpty then none else some (handle, text, rest)
      | (handle, false, rest) => do
          let (text, rest) ← readTagText? false rest
          let suffix := String.ofList (handle.toList.drop 1) ++ text
          if suffix.isEmpty then some ("", "!", rest) else some ("!", suffix, rest)
  if isWordEnd rest || (inFlow && nextIs (· = ',') rest) then some (handle, suffix, rest)
  else none

/-! ### Directives -/

/-- The places behind blanks and tabs. -/
def skipBlanks (ps : List Place) : List Place :=
  ps.dropWhile fun p => isBlank p.char

/-- Read a number of one to nine digits. -/
def readNumber? (ps : List Place) : Option (Nat × List Place) :=
  let digits := charsOf (ps.takeWhile fun p => p.char.isDigit)
  if 0 < digits.length ∧ digits.length ≤ 9 then
    some (digits.foldl (fun n c => n * 10 + (c.toNat - '0'.toNat)) 0,
      ps.dropWhile fun p => p.char.isDigit)
  else none

/-- Read a directive behind its `%`. -/
def readDirective? (ps : List Place) : Option (Token × List Place) := do
  let (name, rest) := (textOf (ps.takeWhile fun p => isNameChar p.char),
    ps.dropWhile fun p => isNameChar p.char)
  let rest := skipBlanks rest
  let (token, rest) ←
    match name with
    | "YAML" => do
        let (major, rest) ← readNumber? rest
        if !nextIs (· = '.') rest then none
        else
          let (minor, rest) ← readNumber? (rest.drop 1)
          some (.version major minor, rest)
    | "TAG" => do
        if !nextIs (· = '!') rest then none
        else
          let (handle, closed, rest) := readHandle (rest.drop 1)
          if !(closed || handle = "!") || !nextIs isBlank rest then none
          else
            let (expansion, rest) ← readTagText? true (skipBlanks rest)
            if expansion.isEmpty || !isWordEnd rest then none
            else some (.tagHandle handle expansion, rest)
    | _ => none
  let rest ← skipLineEnd? rest
  return (token, rest)

/-! ### All tokens -/

/-- Skip blanks, comments and line ends, and return whether a key may begin after them. Outside of
brackets it may after a line end. Where a key may begin, a tab is not skipped. -/
def skipToToken (inFlow : Bool) : (keyAllowed inComment : Bool) → List Place → Bool × List Place
  | keyAllowed, _, [] => (keyAllowed, [])
  | keyAllowed, inComment, p :: rest =>
      if isBreak p.char then skipToToken inFlow (keyAllowed || !inFlow) false rest
      else if inComment || p.char = '#' then skipToToken inFlow keyAllowed true rest
      else if p.char = ' ' || (p.char = '\t' && (inFlow || !keyAllowed)) then
        skipToToken inFlow keyAllowed false rest
      else (keyAllowed, p :: rest)

/-- Whether the character is an indicator, with a meaning of its own at the start of a token. -/
def isIndicator (c : Char) : Bool :=
  "-?:,[]\x7b\x7d#&*!|>'\"%@`".toList.contains c

/-- Whether a plain scalar may begin with the character. -/
def startsPlain (inFlow : Bool) (c : Char) (rest : List Place) : Bool :=
  (!isGap c && !isIndicator c)
    || (c = '-' && !nextIs isBlank rest)
    || (!inFlow && (c = '?' || c = ':') && !isWordEnd rest)

namespace Lexer

/-- Read a scalar in quotes, behind the opening one. -/
def quoted? (p : Place) (style : ScalarStyle) (rest : List Place) (s : Lexer) :
    Option (Lexer × List Place) := do
  let s ← s.markCandidate? p
  let (text, rest) ← readQuoted (style = .doubleQuoted) .empty rest
  return ((s.allowKey false).put (.scalar style (String.ofList text)), rest)

/-- Read a block scalar, behind its `|` or `>`. -/
def block? (style : ScalarStyle) (rest : List Place) (s : Lexer) :
    Option (Lexer × List Place) := do
  let s ← s.dropCandidate?
  let (text, rest) ← readBlock (style = .folded) s.indent? rest
  return ((s.allowKey true).put (.scalar style (String.ofList text)), rest)

/-- Read a plain scalar. -/
def plain? (p : Place) (rest : List Place) (s : Lexer) : Option (Lexer × List Place) := do
  let s ← s.markCandidate? p
  let (text, newLine, rest) ← readPlain s.inFlow s.innerColumn [] (p :: rest)
  return ((s.allowKey newLine).put (.scalar .plain (String.ofList text)), rest)

/-- Read the token that begins at `p`, and put it into the state. -/
def token? (p : Place) (rest : List Place) (s : Lexer) : Option (Lexer × List Place) :=
  let flow := s.inFlow
  let here := p :: rest
  let alone := flow || isWordEnd rest
  let one (s : Option Lexer) : Option (Lexer × List Place) := s.map fun s => (s, rest)
  if p.column = 0 && p.char = '%' then do
    let s ← s.closeAll.dropCandidate?
    let (t, rest) ← readDirective? rest
    return ((s.allowKey false).put t, rest)
  else if isMarker '-' here then
    (s.documentMark? .documentStart).map fun s => (s, here.drop 3)
  else if isMarker '.' here then
    (s.documentMark? .documentEnd).map fun s => (s, here.drop 3)
  else if p.char = '[' then one (s.enter? p .openBracket)
  else if p.char = '\x7b' then one (s.enter? p .openBrace)
  else if p.char = ']' then one (s.leave? .closeBracket)
  else if p.char = '\x7d' then one (s.leave? .closeBrace)
  else if p.char = ',' then one s.comma?
  else if p.char = '-' && isWordEnd rest then one (s.item? p)
  else if p.char = '?' && alone then one (s.questionMark? p)
  else if p.char = ':' && alone then one (s.colon? p)
  else if p.char = '*' then do
    let (name, rest) ← readName? rest
    return (← s.leaf? p (.alias name), rest)
  else if p.char = '&' then do
    let (name, rest) ← readName? rest
    return (← s.leaf? p (.anchor name), rest)
  else if p.char = '!' then do
    let (handle, suffix, rest) ← readTag? flow rest
    return (← s.leaf? p (.tag handle suffix), rest)
  else if p.char = '|' && !flow then s.block? .literal rest
  else if p.char = '>' && !flow then s.block? .folded rest
  else if p.char = '\'' then s.quoted? p .singleQuoted rest
  else if p.char = '"' then s.quoted? p .doubleQuoted rest
  else if startsPlain flow p.char rest then s.plain? p rest
  else none

/-- Read tokens up to the end of the text, no more than the fuel allows. -/
def run (s : Lexer) : Nat → List Place → Option (List Token)
  | 0, _ => none
  | fuel + 1, ps =>
      let (keyAllowed, ps) := skipToToken s.inFlow s.keyAllowed false ps
      let s := s.allowKey keyAllowed
      match ps with
      | [] => (s.closeAll.dropCandidate?).map fun s => s.tokens.reverse
      | p :: rest =>
          match (s.closeAbove p.column).token? p rest with
          | none => none
          | some (s, rest) => s.run fuel rest

end Lexer

/-- The tokens of a text. Each of them takes a character, so the fuel is enough. -/
def tokens? (s : String) : Option (List Token) := do
  let ps ← places? s
  Lexer.start.run (ps.length + 1) ps

end ClusterGraph.Yaml
