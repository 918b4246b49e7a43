import ClusterGraph.Text.Blank
import ClusterGraph.Time.Instant

/-!
# ClusterGraph.Time.Rfc3339

**Reading a point in time from the text that objects carry.**

The form is the one of RFC 3339, read generously: the date and the time may be separated
by a blank, parts may have one digit, blanks may stand around the separators, the year may
have a sign, and the colon of the offset may be missing. The offset itself may not.

Design points:

* a reader takes the characters still to be read and gives what it found together with
  the characters after it; `none` is a text that does not fit;
* second 60 is a leap second, whatever the minute;
* digits of a fraction after the ninth are skipped.
-/

namespace ClusterGraph.Time

/-- Whether the character is one of `0` to `9`. -/
def isDigit (c : Char) : Bool :=
  '0' ≤ c && c ≤ '9'

/-- The number that decimal digits stand for, where each is one that `isDigit` accepts. -/
def digitsValue (cs : List Char) : Nat :=
  cs.foldl (fun n c => n * 10 + (c.toNat - '0'.toNat)) 0

/-- Read a number of at least one and at most `width` digits. -/
def readNumber (width : Nat) (cs : List Char) : Option (Nat × List Char) :=
  let digits := (cs.take width).takeWhile isDigit
  if digits.isEmpty then none else some (digitsValue digits, cs.drop digits.length)

/-- Read a number of one or two digits, with blanks in front as `skipBlanks` drops them. -/
def readPart (cs : List Char) : Option (Nat × List Char) :=
  readNumber 2 (Text.skipBlanks cs)

/-- Read a year: four digits, or a `-` or `+` and any number of digits. There may be blanks in
front. -/
def readYear (cs : List Char) : Option (Int × List Char) :=
  match Text.skipBlanks cs with
  | '-' :: rest => (readNumber rest.length rest).map fun (n, rest) => (-(n : Int), rest)
  | '+' :: rest => (readNumber rest.length rest).map fun (n, rest) => ((n : Int), rest)
  | rest => (readNumber 4 rest).map fun (n, rest) => ((n : Int), rest)

/-- Read the character `c`, with blanks in front. -/
def readSeparator (c : Char) (cs : List Char) : Option (List Char) :=
  match Text.skipBlanks cs with
  | d :: rest => if d = c then some rest else none
  | [] => none

/-- Read the fraction of a second in nanoseconds. Digits after the ninth are dropped, and without a
`.` the fraction is 0. -/
def readFraction (cs : List Char) : Option (Nat × List Char) :=
  match cs with
  | '.' :: rest =>
      let digits := (rest.take 9).takeWhile isDigit
      if digits.isEmpty then none
      else
        some (digitsValue digits * Nat.pow 10 (9 - digits.length),
          (rest.drop digits.length).dropWhile isDigit)
  | cs => some (0, cs)

/-- Read two digits, no more and no fewer. -/
def readTwoDigits : List Char → Option (Nat × List Char)
  | a :: b :: rest =>
      if isDigit a && isDigit b then some (digitsValue [a, b], rest) else none
  | _ => none

/-- Read an offset from UTC in seconds: `Z` or `UTC` in either case, or a sign, hours and
minutes. -/
def readOffset (cs : List Char) : Option (Int × List Char) :=
  match cs with
  | 'Z' :: rest => some (0, rest)
  | 'z' :: rest => some (0, rest)
  | u :: t :: c :: rest =>
      if (u = 'U' ∨ u = 'u') ∧ (t = 'T' ∨ t = 't') ∧ (c = 'C' ∨ c = 'c') then some (0, rest)
      else
        let sign : Option Int :=
          if u = '+' then some 1
          else if u = '-' ∨ u.toNat = 0x2212 then some (-1)
          else none
        do
          let sign ← sign
          let (hours, rest) ← readTwoDigits (t :: c :: rest)
          let rest := rest.dropWhile fun c => c = ':' || Text.isBlank c
          let (minutes, rest) ← readTwoDigits rest
          if minutes < 60 ∧ hours < 24 then
            some (sign * ((hours * 3600 + minutes * 60 : Nat) : Int), rest)
          else none
  | _ => none

/-- The instant of a local `date` and time with its `offset`, if the date `isValid` and both the
local day and that of the instant are in range. A `second` of 60 is a leap second. -/
def instantOf? (date : Date) (hour minute second nano : Nat) (offset : Int) :
    Option Instant :=
  if date.isValid && hour < 24 && minute < 60 && second ≤ 60
      && Instant.isDayInRange date.toDay then
    let leap := second = 60
    let inDay := hour * 3600 + minute * 60 + (if leap then 59 else second)
    let t : Instant :=
      ⟨date.toDay * Instant.daySeconds + (inDay : Int) - offset,
        if leap then nano + Instant.secondNanos else nano⟩
    if Instant.isDayInRange t.dayNumber then some t else none
  else none

/-- Read a whole text as an instant. -/
def read? (text : String) : Option Instant := do
  let (year, cs) ← readYear text.toList
  let cs ← readSeparator '-' cs
  let (month, cs) ← readPart cs
  let cs ← readSeparator '-' cs
  let (day, cs) ← readPart cs
  let cs ← match cs with
    | c :: rest => if c = 'T' ∨ c = 't' ∨ c = ' ' then some rest else none
    | [] => none
  let (hour, cs) ← readPart cs
  let cs ← readSeparator ':' cs
  let (minute, cs) ← readPart cs
  let cs ← readSeparator ':' cs
  let (second, cs) ← readPart cs
  let (nano, cs) ← readFraction cs
  let (offset, cs) ← readOffset (Text.skipBlanks cs)
  if (Text.skipBlanks cs).isEmpty then
    instantOf? ⟨year, month, day⟩ hour minute second nano offset
  else none

end ClusterGraph.Time
