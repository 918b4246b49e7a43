import ClusterGraph.Json.Basic
import ClusterGraph.Number.Shortest

/-!
# ClusterGraph.Json.Printer

**The compact text of a JSON value: no blanks, fields in the order of their keys.**

Design points:

* in a string only the quote, the backslash and the controls below the blank are escaped,
  five of these by a letter and the others by four hexadecimal digits; every other
  character stands for itself;
* an integer is written in full, a `Binary64` as its shortest decimal, which always has a
  point or an exponent, so the two kinds of number read back as what they were.
-/

namespace ClusterGraph.Json

/-! ### Strings -/

/-- The digit `0` to `f` of a number below 16. -/
def hexDigit (n : Nat) : Char :=
  Nat.digitChar n

/-- What is written for one character in a JSON string: itself, an escape by one letter, or `\u` and
four digits. -/
def escapeChar (c : Char) : List Char :=
  if c = '"' then ['\\', '"']
  else if c = '\\' then ['\\', '\\']
  else if c.toNat = 0x8 then ['\\', 'b']
  else if c.toNat = 0xc then ['\\', 'f']
  else if c = '\n' then ['\\', 'n']
  else if c = '\r' then ['\\', 'r']
  else if c = '\t' then ['\\', 't']
  else if c.toNat < 0x20 then
    ['\\', 'u', '0', '0', hexDigit (c.toNat / 16), hexDigit (c.toNat % 16)]
  else [c]

/-- The characters in quotes, each after `escapeChar`. -/
def printText (s : List Char) : List Char :=
  '"' :: s.flatMap escapeChar ++ ['"']

/-! ### Values -/

/-- A number as it is written: an `.integer` in decimal digits, a `.float` as `compactText`. -/
def printNumber : Number → List Char
  | .integer i => (toString i).toList
  | .float x => x.compactText.toList

/-- The texts with a comma between each two. -/
def separated : List (List Char) → List Char
  | [] => []
  | [x] => x
  | x :: rest => x ++ ',' :: separated rest

/-- The characters of a value, without blanks between its parts. Fields come in the order of
`entries`. -/
def print : Json → List Char
  | .null => ['n', 'u', 'l', 'l']
  | .bool true => ['t', 'r', 'u', 'e']
  | .bool false => ['f', 'a', 'l', 's', 'e']
  | .number n => printNumber n
  | .text s => printText s.toList
  | .array items => '[' :: separated (printItems items) ++ [']']
  | .object fields => '{' :: separated (printFields fields.entries) ++ ['}']
where
  printItems : List Json → List (List Char)
    | [] => []
    | j :: rest => print j :: printItems rest
  printFields : List (String × Json) → List (List Char)
    | [] => []
    | (key, value) :: rest => (printText key.toList ++ ':' :: print value) :: printFields rest

/-- The compact text of a value: `print` as a `String`. -/
def compact (j : Json) : String :=
  String.ofList j.print

@[simp] theorem separated_nil : separated [] = [] :=
  rfl

@[simp] theorem separated_singleton (x : List Char) : separated [x] = x :=
  rfl

@[simp] theorem separated_cons_cons (x y : List Char) (rest : List (List Char)) :
    separated (x :: y :: rest) = x ++ ',' :: separated (y :: rest) :=
  rfl

@[simp] theorem toList_compact (j : Json) : j.compact.toList = j.print := by
  simp [compact]

end ClusterGraph.Json
