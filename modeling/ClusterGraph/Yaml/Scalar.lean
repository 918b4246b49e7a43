import ClusterGraph.Yaml.Place

/-!
# ClusterGraph.Yaml.Scalar

**The ways to write a text in YAML: as it is, in quotes, or as a block of lines.**

A text may go on over several lines. How lines are joined is the same rule throughout, the
folding of line ends: a single end becomes a blank, of several the first one is dropped, and
the blanks around them do not count.

Each reader starts behind the character that made it a text of its kind, and gives the text
and what is left. `none` is a text that is not well formed.
-/

namespace ClusterGraph.Yaml

/-- The style in which a scalar is written. -/
inductive ScalarStyle where
  | plain
  | singleQuoted
  | doubleQuoted
  | literal
  | folded
deriving DecidableEq

/-! ### Folding -/

/-- Fold the line ends between two words, as `foldGap` does: a newline alone becomes a blank, and in
front of others it is dropped. -/
def foldBreaks : List Char → List Char
  | [] => []
  | b :: more =>
      if b = '\n' then (if more.isEmpty then [' '] else more)
      else b :: more

/-- Fold what is between two words. Without a line end it stays as it is, and with one the blanks
are dropped. -/
def foldGap (gap : List Char) : List Char :=
  if gap.any isBreak then foldBreaks (gap.filter isBreak) else gap

@[simp] theorem foldGap_nil : foldGap [] = [] :=
  rfl

/-! ### Plain text -/

/-- Whether the character is one of `,[]` and the braces, which end a plain scalar in them. -/
def isFlowIndicator (c : Char) : Bool :=
  c = ',' || c = '[' || c = ']' || c = '\x7b' || c = '\x7d'

/-- Whether a plain scalar ends before `ps`, where `gap` is what lies between it and `ps`. -/
def endsPlain (inFlow : Bool) (indent : Nat) (gap : List Char) (ps : List Place) : Bool :=
  match ps with
  | [] => true
  | p :: rest =>
      (!gap.isEmpty && (p.char = '#' || (!inFlow && p.column < indent)))
        || isDocumentMarker ps
        || (p.char = ':' && isWordEnd rest)
        || (inFlow && isFlowIndicator p.char)

/-- Read a plain scalar. Outside of brackets its lines are at least as deep as `indent`. The `gap`
is what was read since its last word. The flag that is returned tells whether the gap behind it has
a line end, where a key may begin. A tab in the indentation is an error, and so is, in brackets, a
`:` that touches an indicator. -/
def readPlain (inFlow : Bool) (indent : Nat) :
    List Char → List Place → Option (List Char × Bool × List Place)
  | gap, [] => some ([], gap.any isBreak, [])
  | gap, p :: rest =>
      if isGap p.char then
        if p.char = '\t' && gap.any isBreak && p.column < indent then none
        else readPlain inFlow indent (gap ++ [p.char]) rest
      else if endsPlain inFlow indent gap (p :: rest) then some ([], gap.any isBreak, p :: rest)
      else if inFlow && p.char = ':' && nextIs (fun c => isFlowIndicator c || c = '?') rest then
        none
      else
        (readPlain inFlow indent [] rest).map fun (text, more) =>
          (foldGap gap ++ p.char :: text, more)

/-! ### Quoted text -/

/-- The value of a digit `0` to `9`, `a` to `f` or `A` to `F`. -/
def hexDigitValue? (c : Char) : Option Nat :=
  if '0' ≤ c ∧ c ≤ '9' then some (c.toNat - '0'.toNat)
  else if 'a' ≤ c ∧ c ≤ 'f' then some (c.toNat - 'a'.toNat + 10)
  else if 'A' ≤ c ∧ c ≤ 'F' then some (c.toNat - 'A'.toNat + 10)
  else none

/-- The number that digits in base 16 stand for. -/
def hexNumber? (cs : List Char) : Option Nat :=
  cs.foldlM (fun n c => (hexDigitValue? c).map (n * 16 + ·)) 0

/-- The character whose number is in the next `digits` places, in base 16. -/
def numberedChar? (digits : Nat) (ps : List Place) : Option Char := do
  let n ← hexNumber? (charsOf (ps.take digits))
  if (ps.take digits).length = digits ∧ n.isValidChar then some (Char.ofNat n) else none

/-- The characters behind a backslash that are an escape alone, with what they stand for. -/
def namedEscapes : List (Char × Nat) :=
  [('0', 0), ('a', 0x7), ('b', 0x8), ('t', 0x9), ('\t', 0x9), ('n', 0xa), ('v', 0xb),
    ('f', 0xc), ('r', 0xd), ('e', 0x1b), (' ', 0x20), ('"', 0x22), ('/', 0x2f), ('\\', 0x5c),
    ('N', 0x85), ('_', 0xa0), ('L', 0x2028), ('P', 0x2029)]

/-- The character that an escape stands for, and the number of places that it takes behind its
backslash. -/
def escaped? : List Place → Option (Char × Nat)
  | [] => none
  | p :: rest =>
      match namedEscapes.find? fun e => e.1 = p.char with
      | some (_, n) => some (Char.ofNat n, 1)
      | none =>
          if p.char = 'x' then (numberedChar? 2 rest).map fun c => (c, 3)
          else if p.char = 'u' then (numberedChar? 4 rest).map fun c => (c, 5)
          else if p.char = 'U' then (numberedChar? 8 rest).map fun c => (c, 9)
          else none

/-- What was read in quotes since the last word. It is `joined` behind a backslash at the end of a
line, and only line ends count then. -/
structure QuotedGap where
  joined : Bool
  chars : List Char

/-- Fold the gap: as `foldGap`, unless it is `joined`. -/
def QuotedGap.fold (g : QuotedGap) : List Char :=
  if g.joined then g.chars.filter isBreak else foldGap g.chars

/-- The gap with no characters. -/
def QuotedGap.empty : QuotedGap := ⟨false, []⟩

/-- Read a scalar in quotes up to the closing one. In single quotes a quote is written twice, in
`double` quotes there are escapes. A `---` or `...` at the start of a line is an error. -/
def readQuoted (double : Bool) (gap : QuotedGap) :
    List Place → Option (List Char × List Place)
  | [] => none
  | p :: rest =>
      let put (c : Char) (read : Option (List Char × List Place)) :=
        read.map fun (text, more) => (gap.fold ++ c :: text, more)
      if isDocumentMarker (p :: rest) then none
      else if isGap p.char then readQuoted double { gap with chars := gap.chars ++ [p.char] } rest
      else if p.char = (if double then '"' else '\'') then
        if !double && nextIs (· = '\'') rest then
          put '\'' (readQuoted double .empty (rest.drop 1))
        else some (gap.fold, rest)
      else if double && p.char = '\\' then
        if nextIs isBreak rest then
          (readQuoted double ⟨true, []⟩ (rest.drop 1)).map fun (text, more) =>
            (gap.fold ++ text, more)
        else
          match escaped? rest with
          | none => none
          | some (c, n) => put c (readQuoted double .empty (rest.drop n))
      else put p.char (readQuoted double .empty rest)
termination_by ps => ps.length
decreasing_by all_goals simp_all; try omega

/-! ### Blocks of lines -/

/-- What is done with the line ends after the last line of a block scalar. -/
inductive Chomping where
  /-- Drop all of them. -/
  | strip
  /-- Keep the first one. -/
  | clip
  /-- Keep all of them. -/
  | keep
deriving DecidableEq

/-- The chomping of an indicator: `-` is `strip`, `+` is `keep`. -/
def chomping? (c : Char) : Option Chomping :=
  if c = '-' then some .strip else if c = '+' then some .keep else none

/-- The indentation of an indicator, `1` to `9`. -/
def indentation? (c : Char) : Option Nat :=
  if '1' ≤ c ∧ c ≤ '9' then some (c.toNat - '0'.toNat) else none

/-- Read the indicators of a block scalar, in either order, each at most once. Without one the
chomping is `clip`, and the indentation is not given. -/
def readIndicators : List Place → Option Nat × Chomping × List Place
  | [] => (none, .clip, [])
  | p :: rest =>
      match chomping? p.char, indentation? p.char with
      | some c, _ =>
          match rest with
          | q :: more =>
              match indentation? q.char with
              | some n => (some n, c, more)
              | none => (none, c, rest)
          | [] => (none, c, [])
      | none, some n =>
          match rest with
          | q :: more =>
              match chomping? q.char with
              | some c => (some n, c, more)
              | none => (some n, .clip, rest)
          | [] => (some n, .clip, [])
      | none, none => (none, .clip, p :: rest)

/-- Skip the rest of a line, in which only blanks and a comment may be. -/
def skipLineEnd? (ps : List Place) : Option (List Place) :=
  match ps.dropWhile fun p => isBlank p.char with
  | [] => some []
  | p :: rest =>
      if isBreak p.char then some rest
      else if p.char = '#' then
        some ((rest.dropWhile fun q => !isBreak q.char).drop 1)
      else none

/-- Skip empty lines and the indentation of the next line. Returned are their line ends, the largest
indentation among them, and the rest. If `indent` is `none`, all blanks are indentation. A tab in it
is an error. -/
def skipIndentation (indent : Option Nat) :
    Nat → List Place → Option (List Char × Nat × List Place)
  | widest, [] => some ([], widest, [])
  | widest, p :: rest =>
      let within := indent.all fun n => p.column < n
      if within && p.char = ' ' then skipIndentation indent (max widest (p.column + 1)) rest
      else if within && p.char = '\t' then none
      else if isBreak p.char then
        (skipIndentation indent widest rest).map fun (breaks, more) => (p.char :: breaks, more)
      else some ([], widest, p :: rest)

/-- A line of a block scalar: its `text`, its `ending`, and the line ends of the `empties` behind
it. -/
structure BlockLine where
  text : List Char
  ending : List Char
  empties : List Char

/-- Whether the line begins with a blank, beyond the indentation. Such a line is not folded. -/
def BlockLine.isIndented (l : BlockLine) : Bool :=
  l.text.head?.any isBlank

/-- Read the lines of a block scalar that begin in the column `indent`. -/
def readLines (indent : Nat) : Nat → List Place → Option (List BlockLine × List Place)
  | 0, ps => some ([], ps)
  | fuel + 1, ps =>
      if !(ps.head?.any fun p => p.column = indent) then some ([], ps)
      else
        let text := charsOf (ps.takeWhile fun p => !isBreak p.char)
        let rest := ps.dropWhile fun p => !isBreak p.char
        match skipIndentation (some indent) 0 (rest.drop 1) with
        | none => none
        | some (empties, _, more) =>
            (readLines indent fuel more).map fun (lines, more) =>
              (⟨text, charsOf (rest.take 1), empties⟩ :: lines, more)

/-- What is between a line and the `next` one: its line end and those of the empty lines, folded by
`foldBreaks` if neither line is indented. -/
def joint (folded : Bool) (l next : BlockLine) : List Char :=
  if folded && l.ending = ['\n'] && !l.isIndented && !next.isIndented then
    foldBreaks (l.ending ++ l.empties)
  else l.ending ++ l.empties

/-- The text of a block scalar: its lines with each `joint`, and what `chomping` leaves at the
end. -/
def joinLines (folded : Bool) (chomping : Chomping) : List BlockLine → List Char
  | [] => []
  | [l] =>
      l.text ++
        match chomping with
        | .strip => []
        | .clip => l.ending
        | .keep => l.ending ++ l.empties
  | l :: next :: rest =>
      l.text ++ joint folded l next ++ joinLines folded chomping (next :: rest)

/-- Read a block scalar behind its `|` or `>`. It is deeper than `parent`, which is `none` for the
root of a document. Its indentation is given by an indicator, or else it is the largest one up to
its first word (`skipIndentation`). -/
def readBlock (folded : Bool) (parent : Option Nat) (ps : List Place) :
    Option (List Char × List Place) := do
  let (given, chomping, rest) := readIndicators ps
  let rest ← skipLineEnd? rest
  let least := max 1 ((parent.map (· + 1)).getD 0)
  let given := given.map fun n => (parent.getD 0) + n
  let (empties, widest, rest) ← skipIndentation given 0 rest
  let indent := given.getD (max least widest)
  let (lines, rest) ← readLines indent rest.length rest
  let before := if lines.isEmpty && chomping ≠ .keep then [] else empties
  return (before ++ joinLines folded chomping lines, rest)

end ClusterGraph.Yaml
