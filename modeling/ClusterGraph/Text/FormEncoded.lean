/-!
# ClusterGraph.Text.FormEncoded

**Text as a value in the query of a request: everything but plain letters goes by its bytes.**

Letters and digits of ASCII and the four marks `*`, `-`, `.` and `_` stand for themselves, a
blank is written as a plus, and every other character as the bytes of its UTF-8 form, each
with a percent sign and two upper-case hexadecimal digits.
-/

namespace ClusterGraph.Text

/-- Whether the byte stands for itself in a query: a letter, a digit, or one of `*-._`. -/
def isPlainByte (b : UInt8) : Bool :=
  let c := Char.ofNat b.toNat
  c.isAlphanum || c = '*' || c = '-' || c = '.' || c = '_'

/-- The digit `0` to `F` of a number below 16. -/
def upperHexDigit (n : Nat) : Char :=
  (Nat.digitChar n).toUpper

/-- One byte of a value: itself, `+` for a blank, or `%` and two digits. -/
def formEncodedByte (b : UInt8) : List Char :=
  if isPlainByte b then [Char.ofNat b.toNat]
  else if b = 0x20 then ['+']
  else ['%', upperHexDigit (b.toNat / 16), upperHexDigit (b.toNat % 16)]

/-- The text as a value in a query: its bytes in UTF-8, each as a `formEncodedByte`. -/
def formEncoded (s : String) : String :=
  String.ofList (s.toUTF8.toList.flatMap formEncodedByte)

end ClusterGraph.Text
