/-!
# ClusterGraph.Text.Integer

**Reading integers: digits of a base, with a sign or without, into a word of 64 bits.**

A number is digits and nothing else, but for one sign in front: no blanks, no separators, no
point. A number that does not fit its word is not read at all.
-/

namespace ClusterGraph.Text

/-- The value of a digit in a `base` of at most 16. Letters may be of either case. -/
def digitValue? (base : Nat) (c : Char) : Option Nat :=
  let value :=
    if '0' ≤ c ∧ c ≤ '9' then some (c.toNat - '0'.toNat)
    else if 'a' ≤ c ∧ c ≤ 'f' then some (c.toNat - 'a'.toNat + 10)
    else if 'A' ≤ c ∧ c ≤ 'F' then some (c.toNat - 'A'.toNat + 10)
    else none
  value.filter (· < base)

/-- The number that the digits stand for in `base`. There has to be one digit at least. -/
def digits? (base : Nat) : List Char → Option Nat
  | [] => none
  | cs => cs.foldlM (fun n c => (digitValue? base c).map (n * base + ·)) 0

/-- The number, if it is below `2 ^ 64`. -/
def unsignedWord? (n : Nat) : Option Nat :=
  if n < 0x10000000000000000 then some n else none

/-- The number, if it is from `-2 ^ 63` to `2 ^ 63 - 1`. -/
def signedWord? (i : Int) : Option Int :=
  if -0x8000000000000000 ≤ i ∧ i < 0x8000000000000000 then some i else none

/-- Read an unsigned word in `base`, with an optional `+` in front. -/
def readUnsigned (base : Nat) (cs : List Char) : Option Nat :=
  let digits :=
    match cs with
    | '+' :: rest => rest
    | _ => cs
  (digits? base digits).bind unsignedWord?

/-- Read a signed word in `base`, with an optional `+` or `-` in front. -/
def readSigned (base : Nat) (cs : List Char) : Option Int :=
  let value :=
    match cs with
    | '+' :: rest => (digits? base rest).map Int.ofNat
    | '-' :: rest => (digits? base rest).map fun n => -(Int.ofNat n)
    | _ => (digits? base cs).map Int.ofNat
  value.bind signedWord?

end ClusterGraph.Text
