/-!
# ClusterGraph.Yaml.Place

**The characters of a YAML text, each with the place where it stands.**

What a character means in YAML hangs on its column, and on whether something is still on
the same line. So a text is read as a list of characters that know their places, and reading
is recursion on that list.

Design points:

* however a line ends, its end is one character here: a carriage return, a line feed, both
  in a row or a next-line character are all `'\n'`; the two Unicode separators end lines as
  well, and stay what they are;
* a text with a character that YAML does not allow is no YAML text at all.
-/

namespace ClusterGraph.Yaml

/-- A character of a text with its `line`, its `column` in the line and its `index` in the text, all
counted from 0. -/
structure Place where
  char : Char
  line : Nat
  column : Nat
  index : Nat
deriving DecidableEq

/-- Whether the character ends a line, after `unifyBreaks`. -/
def isBreak (c : Char) : Bool :=
  c = '\n' || c.toNat = 0x2028 || c.toNat = 0x2029

/-- Whether the character is a blank or a tab. -/
def isBlank (c : Char) : Bool :=
  c = ' ' || c = '\t'

/-- Whether the character is a blank, a tab or the end of a line, so that a word ends before it. -/
def isGap (c : Char) : Bool :=
  isBlank c || isBreak c

/-- Whether a document may contain the character. -/
def isAllowed (c : Char) : Bool :=
  let n := c.toNat
  n = 0x9 || n = 0xa || n = 0xd || (0x20 ≤ n && n ≤ 0x7e) || n = 0x85
    || (0xa0 ≤ n && n ≤ 0xd7ff) || (0xe000 ≤ n && n ≤ 0xfffd) || 0x10000 ≤ n

/-- The characters with every line end as one newline, as `isBreak` expects it, but for U+2028 and
U+2029, which stay. -/
def unifyBreaks : List Char → List Char
  | '\r' :: '\n' :: rest => '\n' :: unifyBreaks rest
  | c :: rest => (if c = '\r' || c.toNat = 0x85 then '\n' else c) :: unifyBreaks rest
  | [] => []

/-- The characters with their places, the first of them at `line`, `column` and `index`. -/
def placesFrom (line column index : Nat) : List Char → List Place
  | [] => []
  | c :: rest =>
      ⟨c, line, column, index⟩ ::
        if isBreak c then placesFrom (line + 1) 0 (index + 1) rest
        else placesFrom line (column + 1) (index + 1) rest

/-- The characters of a text with their places, without a byte order mark at the front. It is `none`
if one of them is not allowed. -/
def places? (s : String) : Option (List Place) :=
  let cs := s.toList
  let cs := if cs.head?.any (·.toNat = 0xfeff) then cs.drop 1 else cs
  if cs.all isAllowed then some (placesFrom 0 0 0 (unifyBreaks cs)) else none

/-! ### Looking ahead -/

/-- Whether there is a next character and `p` holds of it. -/
def nextIs (p : Char → Bool) (ps : List Place) : Bool :=
  ps.head?.any fun place => p place.char

/-- Whether a word ends here: nothing follows, or a gap does (`isGap`). -/
def isWordEnd (ps : List Place) : Bool :=
  ps.isEmpty || nextIs isGap ps

/-- Whether the word here is three times `c`, at the start of a line. -/
def isMarker (c : Char) : List Place → Bool
  | p :: q :: r :: rest =>
      p.column = 0 && p.char = c && q.char = c && r.char = c && isWordEnd rest
  | _ => false

/-- Whether the word here is `---` or `...`, at the start of a line. -/
def isDocumentMarker (ps : List Place) : Bool :=
  isMarker '-' ps || isMarker '.' ps

/-- The characters at the places. -/
def charsOf (ps : List Place) : List Char :=
  ps.map Place.char

/-- The text of the characters at the places. -/
def textOf (ps : List Place) : String :=
  String.ofList (charsOf ps)

end ClusterGraph.Yaml
