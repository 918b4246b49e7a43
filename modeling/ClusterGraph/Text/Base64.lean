/-!
# ClusterGraph.Text.Base64

**Bytes written with 64 characters, four for every three bytes, padded to a multiple of four.**

Reading is strict: no blanks, padding only at the end and exactly as much as needed, and
no bits set beyond the last byte. So every list of bytes has one text.
-/

namespace ClusterGraph.Text.Base64

/-- The six bits that a character of the alphabet stands for. The padding `=` has none. -/
def value? (c : Char) : Option Nat :=
  if 'A' ≤ c ∧ c ≤ 'Z' then some (c.toNat - 'A'.toNat)
  else if 'a' ≤ c ∧ c ≤ 'z' then some (c.toNat - 'a'.toNat + 26)
  else if '0' ≤ c ∧ c ≤ '9' then some (c.toNat - '0'.toNat + 52)
  else if c = '+' then some 62
  else if c = '/' then some 63
  else none

/-- The bytes of the last four characters, of which the last one or two may be `=`. -/
def decodeLast? (a b c d : Char) : Option (List UInt8) := do
  let x ← value? a
  let y ← value? b
  let first := UInt8.ofNat (x * 4 + y / 16)
  if d ≠ '=' then
    let z ← value? c
    let w ← value? d
    some [first, UInt8.ofNat (y % 16 * 16 + z / 4), UInt8.ofNat (z % 4 * 64 + w)]
  else if c ≠ '=' then
    let z ← value? c
    if z % 4 = 0 then some [first, UInt8.ofNat (y % 16 * 16 + z / 4)] else none
  else if y % 16 = 0 then some [first]
  else none

/-- The bytes of a list of characters, four at a time. Only `decodeLast?` accepts padding. -/
def decodeChars? : List Char → Option (List UInt8)
  | [] => some []
  | [a, b, c, d] => decodeLast? a b c d
  | a :: b :: c :: d :: rest => do
      let x ← value? a
      let y ← value? b
      let z ← value? c
      let w ← value? d
      let bytes ← decodeChars? rest
      some (UInt8.ofNat (x * 4 + y / 16) :: UInt8.ofNat (y % 16 * 16 + z / 4)
        :: UInt8.ofNat (z % 4 * 64 + w) :: bytes)
  | _ => none

/-- The bytes of a text in base 64, or `none` if it is malformed. -/
def decode? (s : String) : Option (List UInt8) :=
  decodeChars? s.toList

end ClusterGraph.Text.Base64
