/-!
# ClusterGraph.Text.Blank

**The characters that count as blank space, and cutting them from the ends of a text.**

The set is the `White_Space` property of Unicode: the ASCII blanks, the vertical tab and
the form feed among them, the next-line control, the no-break spaces, the spaces of fixed
width, the two separators of lines and paragraphs, and the ideographic space.
-/

namespace ClusterGraph.Text

/-- Whether the character has the property `White_Space` of Unicode. -/
def isBlank (c : Char) : Bool :=
  let n := c.toNat
  (0x9 ≤ n && n ≤ 0xd) || n = 0x20 || n = 0x85 || n = 0xa0 || n = 0x1680
    || (0x2000 ≤ n && n ≤ 0x200a) || n = 0x2028 || n = 0x2029 || n = 0x202f
    || n = 0x205f || n = 0x3000

/-- Whether every character of the text satisfies `isBlank`. The empty text does. -/
def isBlankText (s : String) : Bool :=
  s.toList.all isBlank

@[simp] theorem isBlankText_empty : isBlankText "" = true :=
  rfl

/-- The characters after those at the front that satisfy `isBlank`. -/
def skipBlanks (cs : List Char) : List Char :=
  cs.dropWhile isBlank

end ClusterGraph.Text
