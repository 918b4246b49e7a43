import ClusterGraph.Number.Binary64

/-!
# ClusterGraph.Number.Shortest

**The shortest decimal that reads back as a given number, and the two ways it is written.**

The reals that round to a number form an interval around it. For one digit, then two,
and so on, the two neighbours of the number on that decimal grid are tried; the first
grid with a neighbour inside the interval gives the shortest decimal, and of two such
neighbours the nearer one is taken. Seventeen digits always suffice.

Design points:

* the ends of the interval belong to it exactly when the significand is even;
* below a power of two the numbers lie twice as dense, so the lower half of the interval
  is half as wide there;
* `Binary64.plainText` never uses an exponent, `Binary64.compactText` does for very large
  and very small numbers.
-/

namespace ClusterGraph

/-- The decimal `digits * 10 ^ exponent`. -/
structure Decimal where
  digits : Nat
  exponent : Int
deriving DecidableEq

namespace Decimal

/-- The same decimal without zeros at the end of `digits`. -/
def trimmed (d : Decimal) : Decimal :=
  go d.digits d.exponent (Binary64.decimalLength d.digits)
where
  go (digits : Nat) (exponent : Int) : Nat → Decimal
    | 0 => ⟨digits, exponent⟩
    | fuel + 1 =>
        if digits ≠ 0 ∧ digits % 10 = 0 then go (digits / 10) (exponent + 1) fuel
        else ⟨digits, exponent⟩

end Decimal

namespace Binary64

/-! ### The interval of a number -/

/-- A `value` and the ends of an interval around it, as numerators over one `denominator`. The ends
belong to the interval if it is `closed`. -/
structure RoundingInterval where
  lower : Nat
  value : Nat
  upper : Nat
  denominator : Nat
  closed : Bool

/-- The interval of the reals that round to the magnitude of `x`. -/
def roundingInterval (x : Binary64) : RoundingInterval :=
  let m := x.significand
  let below := if m = leadingOne ∧ x.exponentField > 1 then 1 else 2
  let scale := Nat.pow 2 x.exponent.natAbs
  if x.exponent < 0 then
    ⟨4 * m - below, 4 * m, 4 * m + 2, 4 * scale, m % 2 = 0⟩
  else
    ⟨(4 * m - below) * scale, 4 * m * scale, (4 * m + 2) * scale, 4, m % 2 = 0⟩

/-- The largest `e` with `10 ^ e ≤ num / den`. -/
def decimalMagnitude (num den : Nat) : Int :=
  let guess : Int := (decimalLength num : Int) - (decimalLength den : Int)
  let reached :=
    if guess < 0 then num * Nat.pow 10 guess.natAbs ≥ den
    else num ≥ den * Nat.pow 10 guess.natAbs
  if reached then guess else guess - 1

/-- The decimal of step `10 ^ step` in the interval, if a neighbour of the value on that
grid lies there. -/
def RoundingInterval.onGrid (i : RoundingInterval) (step : Int) : Option Decimal :=
  let up := if step < 0 then Nat.pow 10 step.natAbs else 1
  let down := if step < 0 then 1 else Nat.pow 10 step.natAbs
  let unit := i.denominator * down
  let value := i.value * up
  let floor := value / unit
  let inside (n : Nat) : Bool :=
    let at_ := n * unit
    if i.closed then i.lower * up ≤ at_ && at_ ≤ i.upper * up
    else i.lower * up < at_ && at_ < i.upper * up
  match inside floor, inside (floor + 1) with
  | true, true => some ⟨roundHalfEven floor (value % unit) unit, step⟩
  | true, false => some ⟨floor, step⟩
  | false, true => some ⟨floor + 1, step⟩
  | false, false => none

/-- The shortest decimal that reads back as the magnitude of `x`. -/
def shortest (x : Binary64) : Decimal :=
  let i := x.roundingInterval
  let top := decimalMagnitude i.value i.denominator
  let steps := (List.range 17).map fun (n : Nat) => top - (n : Int)
  ((steps.findSome? i.onGrid).getD ⟨0, 0⟩).trimmed

/-! ### Writing -/

/-- The digits of a decimal with a point at its place, and at least one digit before it.
Whole numbers end in `whole`. -/
def positional (digits : String) (exponent : Int) (whole : String) : String :=
  if exponent ≥ 0 then
    digits ++ String.ofList (List.replicate exponent.toNat '0') ++ whole
  else
    let places := exponent.natAbs
    let cs := digits.toList
    if places < cs.length then
      String.ofList (cs.take (cs.length - places)) ++ "."
        ++ String.ofList (cs.drop (cs.length - places))
    else
      "0." ++ String.ofList (List.replicate (places - cs.length) '0') ++ digits

/-- The `digits` with a point after the first one, then `e`, a sign and the power of ten. -/
def scientific (digits : String) (magnitude : Int) : String :=
  let cs := digits.toList
  let tail := if cs.length > 1 then "." ++ String.ofList (cs.drop 1) else ""
  String.ofList (cs.take 1) ++ tail ++ "e" ++ (if magnitude < 0 then "-" else "+")
    ++ toString magnitude.natAbs

/-- The sign of the number as it is written: `-` or nothing. -/
def signText (x : Binary64) : String :=
  if x.isNegative then "-" else ""

/-- The full decimal without an exponent: the digits of `shortest`, and no point in a whole
number. -/
def plainText (x : Binary64) : String :=
  if x.isZero then x.signText ++ "0"
  else
    let d := x.shortest
    x.signText ++ positional (toString d.digits) d.exponent ""

/-- The decimal with a power of ten when the leading digit stands at `10 ^ 16` or above or
below `10 ^ -5`; otherwise positional, a whole number with one zero after the point. -/
def compactText (x : Binary64) : String :=
  if x.isZero then x.signText ++ "0.0"
  else
    let d := x.shortest
    let digits := toString d.digits
    let magnitude := d.exponent + (digits.length : Int) - 1
    x.signText ++
      (if magnitude < -5 ∨ magnitude ≥ 16 then scientific digits magnitude
       else positional digits d.exponent ".0")

end Binary64

end ClusterGraph
