import ClusterGraph.Json.Basic

/-!
# ClusterGraph.Json.Parser

**Reading JSON text: strict, and telling a text that stops early from one that is wrong.**

A reader takes the characters still to be read and gives the value it found together with
the characters after it. The readers of nested values count down a number that starts
above the length of the text, which no text can exhaust: every step of the recursion
takes at least one character.

Design points:

* of two fields with one key the later one counts;
* a string must not hold raw controls, and an escaped surrogate must come as a pair;
* a number beyond the largest `Binary64` is an error.
-/

namespace ClusterGraph.Json

/-- Why a text, or the part of it that `readValue` was given, is no JSON value. -/
inductive ReadError where
  /-- The text stops inside a value: with more text it could be one. -/
  | unexpectedEnd
  /-- No continuation of the text is a value. -/
  | malformed
deriving DecidableEq

/-- The four characters that may stand between the parts of a value and that `skipSpace` drops:
blank, newline, tab and carriage return. -/
def isSpace (c : Char) : Bool :=
  c = ' ' || c = '\n' || c = '\t' || c = '\r'

/-- The characters after those at the front that satisfy `isSpace`. -/
def skipSpace (cs : List Char) : List Char :=
  cs.dropWhile isSpace

/-- Read the characters of a word, such as `true`, one by one. -/
def readWord : List Char → List Char → Except ReadError (List Char)
  | [], cs => .ok cs
  | _ :: _, [] => .error .unexpectedEnd
  | w :: word, c :: cs => if c = w then readWord word cs else .error .malformed

/-! ### Strings -/

/-- The value of a hexadecimal digit: `0` to `9`, `a` to `f` or `A` to `F`. -/
def hexValue? (c : Char) : Option Nat :=
  if '0' ≤ c ∧ c ≤ '9' then some (c.toNat - '0'.toNat)
  else if 'a' ≤ c ∧ c ≤ 'f' then some (c.toNat - 'a'.toNat + 10)
  else if 'A' ≤ c ∧ c ≤ 'F' then some (c.toNat - 'A'.toNat + 10)
  else none

/-- The value of four hexadecimal digits, as they follow `\u`. -/
def hexUnit? (a b c d : Char) : Option Nat := do
  let a ← hexValue? a
  let b ← hexValue? b
  let c ← hexValue? c
  let d ← hexValue? d
  some (((a * 16 + b) * 16 + c) * 16 + d)

/-- The character that an escape by one letter stands for, such as `'\t'` for `'t'`. -/
def letterEscape? (c : Char) : Option Char :=
  match c with
  | '"' => some '"'
  | '\\' => some '\\'
  | '/' => some '/'
  | 'b' => some (Char.ofNat 0x8)
  | 'f' => some (Char.ofNat 0xc)
  | 'n' => some '\n'
  | 'r' => some '\r'
  | 't' => some '\t'
  | _ => none

/-- Put `c` in front of the characters that a reader returned. -/
def prepend (c : Char) (r : Except ReadError (List Char × List Char)) :
    Except ReadError (List Char × List Char) :=
  r.map fun (cs, rest) => (c :: cs, rest)

/-- Whether the unit is the first of a surrogate pair: `0xd800` to `0xdbff`. -/
def isLeading (n : Nat) : Bool :=
  0xd800 ≤ n && n ≤ 0xdbff

/-- Whether the unit is the second of a surrogate pair: `0xdc00` to `0xdfff`. -/
def isTrailing (n : Nat) : Bool :=
  0xdc00 ≤ n && n ≤ 0xdfff

/-- Whether the text stops where the escape `\u` of the second unit would have to go on. -/
def stopsInPair : List Char → Bool
  | [] => true
  | ['\\'] => true
  | '\\' :: 'u' :: rest => rest.length < 4
  | _ => false

/-- Read the characters of a string after its opening quote, up to the closing one and with it. A
surrogate pair is one character; a surrogate on its own is `malformed`. -/
def readText : List Char → Except ReadError ((List Char) × List Char)
  | [] => .error .unexpectedEnd
  | '"' :: rest => .ok ([], rest)
  | '\\' :: 'u' :: a :: b :: c :: d :: '\\' :: 'u' :: e :: f :: g :: h :: rest =>
      match hexUnit? a b c d with
      | none => .error .malformed
      | some n =>
          if isLeading n then
            match hexUnit? e f g h with
            | none => .error .malformed
            | some m =>
                if isTrailing m then
                  prepend (Char.ofNat (0x10000 + (n - 0xd800) * 0x400 + (m - 0xdc00)))
                    (readText rest)
                else .error .malformed
          else if isTrailing n then .error .malformed
          else prepend (Char.ofNat n) (readText ('\\' :: 'u' :: e :: f :: g :: h :: rest))
  | '\\' :: 'u' :: a :: b :: c :: d :: rest =>
      match hexUnit? a b c d with
      | none => .error .malformed
      | some n =>
          if isLeading n then
            .error (if stopsInPair rest then .unexpectedEnd else .malformed)
          else if isTrailing n then .error .malformed
          else prepend (Char.ofNat n) (readText rest)
  | '\\' :: 'u' :: _ => .error .unexpectedEnd
  | ['\\'] => .error .unexpectedEnd
  | '\\' :: c :: rest =>
      match letterEscape? c with
      | some c => prepend c (readText rest)
      | none => .error .malformed
  | c :: rest => if c.toNat < 0x20 then .error .malformed else prepend c (readText rest)
termination_by cs => cs.length

/-! ### Numbers -/

/-- Whether the character is one of `0` to `9`. -/
def isDigit (c : Char) : Bool :=
  '0' ≤ c && c ≤ '9'

/-- The number that decimal digits stand for, where each is one that `isDigit` accepts. -/
def digitsValue (cs : List Char) : Nat :=
  cs.foldl (fun n c => n * 10 + (c.toNat - '0'.toNat)) 0

/-- Read digits, one at least. -/
def readDigits (cs : List Char) : Except ReadError ((List Char) × List Char) :=
  match cs.takeWhile isDigit, cs.dropWhile isDigit with
  | [], [] => .error .unexpectedEnd
  | [], _ => .error .malformed
  | digits, rest => .ok (digits, rest)

/-- Read the digits before the point. After a `0` there is no other digit. -/
def readWhole : List Char → Except ReadError ((List Char) × List Char)
  | '0' :: c :: rest =>
      if isDigit c then .error .malformed else .ok (['0'], c :: rest)
  | cs => readDigits cs

/-- Read the digits after a `.`, if there is one. -/
def readFraction : List Char → Except ReadError ((Option (List Char)) × List Char)
  | '.' :: rest => (readDigits rest).map fun (digits, rest) => (some digits, rest)
  | cs => .ok (none, cs)

/-- Read the power of ten after an `e` or `E`, if there is one. -/
def readExponent : List Char → Except ReadError ((Option Int) × List Char)
  | c :: rest =>
      if c = 'e' ∨ c = 'E' then
        match rest with
        | '-' :: rest =>
            (readDigits rest).map fun (digits, rest) => (some (-(digitsValue digits : Int)), rest)
        | '+' :: rest =>
            (readDigits rest).map fun (digits, rest) => (some (digitsValue digits : Int), rest)
        | rest =>
            (readDigits rest).map fun (digits, rest) => (some (digitsValue digits : Int), rest)
      else .ok (none, c :: rest)
  | [] => .ok (none, [])

/-- The number that its parts stand for. Without fraction and exponent it is an `.integer` if it
fits 64 bits, except for `-0`, which is a `.float`. It is `none` if it is too large for a
`Binary64`. -/
def numberOf? (negative : Bool) (whole : List Char) (fraction : Option (List Char))
    (exponent : Option Int) : Option Number :=
  let float (digits : List Char) (e : Int) :=
    (Binary64.ofDecimal negative (digitsValue digits) e).map Number.float
  match fraction, exponent with
  | none, none =>
      let n := digitsValue whole
      if negative then
        if 0 < n ∧ n ≤ 0x8000000000000000 then some (.integer (-(n : Int))) else float whole 0
      else if n < 0x10000000000000000 then some (.integer n) else float whole 0
  | fraction, exponent =>
      let places := fraction.getD []
      float (whole ++ places) (exponent.getD 0 - (places.length : Int))

/-- Read a number with `readWhole`, `readFraction` and `readExponent`. -/
def readNumber (cs : List Char) : Except ReadError (Number × List Char) := do
  let negative := cs.head? = some '-'
  let (whole, rest) ← readWhole (if negative then cs.drop 1 else cs)
  let (fraction, rest) ← readFraction rest
  let (exponent, rest) ← readExponent rest
  match numberOf? negative whole fraction exponent with
  | some n => .ok (n, rest)
  | none => .error .malformed

/-! ### Values -/

mutual

/-- Read a value, with the blanks before it. Every call of one of these readers takes one of
`fuel`. -/
def readValue : Nat → List Char → Except ReadError (Json × List Char)
  | 0, _ => .error .malformed
  | fuel + 1, cs =>
      match skipSpace cs with
      | [] => .error .unexpectedEnd
      | '"' :: rest => (readText rest).map fun (s, rest) => (.text (String.ofList s), rest)
      | '[' :: rest =>
          match skipSpace rest with
          | ']' :: rest => .ok (.array [], rest)
          | rest => (readItems fuel rest).map fun (items, rest) => (.array items, rest)
      | '{' :: rest =>
          match skipSpace rest with
          | '}' :: rest => .ok (.object .empty, rest)
          | rest =>
              (readFields fuel rest).map fun (fields, rest) => (.object (Dict.ofList fields), rest)
      | 'n' :: rest => (readWord ['u', 'l', 'l'] rest).map fun rest => (.null, rest)
      | 't' :: rest => (readWord ['r', 'u', 'e'] rest).map fun rest => (.bool true, rest)
      | 'f' :: rest => (readWord ['a', 'l', 's', 'e'] rest).map fun rest => (.bool false, rest)
      | c :: rest =>
          if c = '-' ∨ isDigit c then
            (readNumber (c :: rest)).map fun (n, rest) => (.number n, rest)
          else .error .malformed

/-- Read the items of an array after its `[`, up to the `]` and with it. -/
def readItems : Nat → List Char → Except ReadError ((List Json) × List Char)
  | 0, _ => .error .malformed
  | fuel + 1, cs => do
      let (item, rest) ← readValue fuel cs
      match skipSpace rest with
      | ',' :: rest =>
          let (items, rest) ← readItems fuel rest
          .ok (item :: items, rest)
      | ']' :: rest => .ok ([item], rest)
      | [] => .error .unexpectedEnd
      | _ => .error .malformed

/-- Read the fields of an object after its brace, up to the closing one and with it. Each key is
read by `readText`, and may come twice. -/
def readFields : Nat → List Char → Except ReadError ((List (String × Json)) × List Char)
  | 0, _ => .error .malformed
  | fuel + 1, cs =>
      match skipSpace cs with
      | '"' :: rest => do
          let (key, rest) ← readText rest
          match skipSpace rest with
          | ':' :: rest =>
              let (value, rest) ← readValue fuel rest
              match skipSpace rest with
              | ',' :: rest =>
                  let (fields, rest) ← readFields fuel rest
                  .ok ((String.ofList key, value) :: fields, rest)
              | '}' :: rest => .ok ([(String.ofList key, value)], rest)
              | [] => .error .unexpectedEnd
              | _ => .error .malformed
          | [] => .error .unexpectedEnd
          | _ => .error .malformed
      | [] => .error .unexpectedEnd
      | _ => .error .malformed

end

/-- Read a whole text as one value, with blanks around it. No text can exhaust the fuel that
`readValue` is given. -/
def parse (s : String) : Except ReadError Json := do
  let cs := s.toList
  let (value, rest) ← readValue (2 * cs.length + 2) cs
  if (skipSpace rest).isEmpty then .ok value else .error .malformed

/-- Read a whole text as the fields of one object, in the order in which they are written. A key
that is written twice has two fields here, while `parse` would keep the later one. -/
def parseFields? (s : String) : Option (List (String × Json)) :=
  match skipSpace s.toList with
  | '{' :: cs =>
      match skipSpace cs with
      | '}' :: rest => if (skipSpace rest).isEmpty then some [] else none
      | cs =>
          match readFields (2 * s.length + 1) cs with
          | .ok (fields, rest) => if (skipSpace rest).isEmpty then some fields else none
          | .error _ => none
  | _ => none

/-- The key and the text of a field whose value is a `.text`. -/
def textField? (field : String × Json) : Option (String × String) :=
  field.2.text?.map (field.1, ·)

/-- Read a whole text as an object whose values are texts. Every value that is written has to
satisfy `textField?`, also one that a later field of the same key replaces. -/
def parseTextMap? (s : String) : Option (Dict String) :=
  ((parseFields? s).bind (·.mapM textField?)).map Dict.ofList

end ClusterGraph.Json
