import ClusterGraph.Text.Unprintable

/-!
# ClusterGraph.Text.Quoted

**Text in double quotes for an error message, with every doubtful character escaped.**

Messages quote the names they complain about, so that an empty name, a trailing blank
or a control character can be seen. Quotes, backslashes, line ends, tabs and the zero
character have short escapes; any other unprintable character is written by its number.
-/

namespace ClusterGraph.Text

/-- The digits `0` to `f` of a number in base 16. -/
def lowerHex (n : Nat) : String :=
  String.ofList (Nat.toDigits 16 n)

/-- One character in quotes. A character that `isUnprintable` is shown by its number. -/
def quotedChar (c : Char) : String :=
  if c = '"' then "\\\""
  else if c = '\\' then "\\\\"
  else if c = '\n' then "\\n"
  else if c = '\r' then "\\r"
  else if c = '\t' then "\\t"
  else if c.toNat = 0 then "\\0"
  else if isUnprintable c then "\\u\x7b" ++ lowerHex c.toNat ++ "\x7d"
  else c.toString

/-- The text in double quotes, each character as `quotedChar` shows it. -/
def quoted (s : String) : String :=
  "\"" ++ String.join (s.toList.map quotedChar) ++ "\""

/-- The texts in square brackets, each `quoted`. -/
def quotedList (items : List String) : String :=
  "[" ++ String.intercalate ", " (items.map quoted) ++ "]"

end ClusterGraph.Text
