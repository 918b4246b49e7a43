/-!
# ClusterGraph.Number.Binary64

**Finite binary floating-point numbers of 64 bits, and the one nearest to a decimal.**

A number is held as its bit pattern, so two numbers are the same value of the type
exactly when they print and store alike; the two zeros stay apart. All arithmetic here
is exact arithmetic on natural numbers: a finite number is `significand * 2 ^ exponent`
up to its sign, and reading a decimal rounds a ratio of two natural numbers.

Design points:

* a pattern whose exponent field is all ones is no number, and the type leaves it out;
* rounding goes to the nearest number, and a tie to the one with an even significand;
* a decimal beyond the largest number has no value, one below the smallest is zero.
-/

namespace ClusterGraph

/-- A finite number of binary64, as its 64 `bits`: the sign, 11 bits of exponent and 52 bits of
fraction. All ones in the exponent would be an infinity or no number, which `finite` excludes. -/
structure Binary64 where
  bits : UInt64
  finite : (bits >>> 52) &&& 0x7ff ≠ 0x7ff
deriving DecidableEq

namespace Binary64

/-! ### The parts of a number -/

/-- Whether the sign bit is set, which it can be for zero, too. -/
def isNegative (x : Binary64) : Bool :=
  x.bits >>> 63 = 1

/-- The 11 bits of the exponent as they are stored. -/
def exponentField (x : Binary64) : Nat :=
  ((x.bits >>> 52) &&& 0x7ff).toNat

/-- The 52 bits of the significand below `leadingOne`. -/
def fraction (x : Binary64) : Nat :=
  (x.bits &&& 0xfffffffffffff).toNat

/-- The leading one of a significand, `2 ^ 52`, which is not stored. -/
def leadingOne : Nat := 0x10000000000000

/-- The magnitude is `significand * 2 ^ exponent`. A stored exponent of zero means that
there is no leading one. -/
def significand (x : Binary64) : Nat :=
  if x.exponentField = 0 then x.fraction else x.fraction + leadingOne

/-- The power of two of the last bit of `significand`. -/
def exponent (x : Binary64) : Int :=
  if x.exponentField = 0 then -1074 else (x.exponentField : Int) - 1075

/-- Whether the magnitude is zero, with either sign. -/
def isZero (x : Binary64) : Bool :=
  x.significand = 0

/-- The number `0.0`. -/
def zero : Binary64 := ⟨0, by decide⟩

/-- The number `-0.0`. -/
def negativeZero : Binary64 := ⟨0x8000000000000000, by decide⟩

instance : Inhabited Binary64 := ⟨zero⟩

/-- Equality of numbers, for which `zero` and `negativeZero` are one. -/
def sameNumber (x y : Binary64) : Bool :=
  x = y || (x.isZero && y.isZero)

theorem sameNumber_refl (x : Binary64) : x.sameNumber x = true := by
  simp [sameNumber]

/-- For two numbers that `sameNumber` takes for one, it gives the same at every third. -/
theorem sameNumber_congr {x y : Binary64} (h : x.sameNumber y = true) (z : Binary64) :
    z.sameNumber x = z.sameNumber y := by
  simp only [sameNumber, Bool.or_eq_true, decide_eq_true_eq, Bool.and_eq_true] at h
  rcases h with rfl | ⟨hx, hy⟩
  · rfl
  · refine Bool.eq_iff_iff.mpr ?_
    simp only [sameNumber, hx, hy, Bool.and_true, Bool.or_eq_true, decide_eq_true_eq]
    constructor
    · rintro (rfl | hz)
      · exact .inr hx
      · exact .inr hz
    · rintro (rfl | hz)
      · exact .inr hy
      · exact .inr hz

/-! ### Rounding a ratio -/

/-- The quotient `num / (den * 2 ^ shift)`, cut to a natural number, and the two sides of the
division whose remainder decides the rounding. -/
def scaledQuotient (num den : Nat) (shift : Int) : Nat × Nat × Nat :=
  let n := if shift < 0 then num * Nat.pow 2 shift.natAbs else num
  let d := if shift < 0 then den else den * Nat.pow 2 shift.natAbs
  (n / d, n % d, d)

/-- The `quotient` rounded to the nearest natural number by its `remainder`, and to an even one at a
tie. -/
def roundHalfEven (quotient remainder divisor : Nat) : Nat :=
  if 2 * remainder < divisor then quotient
  else if divisor < 2 * remainder then quotient + 1
  else quotient + quotient % 2

/-- The exponent at which `num / den` has 53 bits before the point, but never one below
that of the smallest number. -/
def ratioExponent (num den : Nat) : Int :=
  let guess : Int := (num.log2 : Int) - (den.log2 : Int) - 52
  let exact := if (scaledQuotient num den guess).1 < leadingOne then guess - 1 else guess
  max exact (-1074)

/-- The number nearest to `num / den`, or `none` when that lies beyond the largest one.
The bit pattern counts up through the numbers, so a significand that rounds up to the
next power of two carries into the exponent by itself. -/
def ofRatio (negative : Bool) (num den : Nat) : Option Binary64 :=
  let exponent := ratioExponent num den
  let (quotient, remainder, divisor) := scaledQuotient num den exponent
  let magnitude := (exponent + 1074).toNat * leadingOne + roundHalfEven quotient remainder divisor
  if magnitude < 0x7ff * leadingOne then
    let bits := UInt64.ofNat (if negative then 0x8000000000000000 + magnitude else magnitude)
    if finite : (bits >>> 52) &&& 0x7ff ≠ 0x7ff then some ⟨bits, finite⟩ else none
  else none

/-- The number of decimal digits of `n`, which is 1 for zero. -/
def decimalLength (n : Nat) : Nat :=
  (Nat.toDigits 10 n).length

/-- The number nearest to `digits * 10 ^ exponent`. A decimal far outside the range of
the type is settled by its length, before any power of ten is taken. -/
def ofDecimal (negative : Bool) (digits : Nat) (exponent : Int) : Option Binary64 :=
  if digits = 0 then some (if negative then negativeZero else zero)
  else
    let magnitude := (decimalLength digits : Int) + exponent
    if magnitude > 310 then none
    else if magnitude < -330 then some (if negative then negativeZero else zero)
    else if exponent < 0 then ofRatio negative digits (Nat.pow 10 exponent.natAbs)
    else ofRatio negative (digits * Nat.pow 10 exponent.natAbs) 1

/-- The number nearest to the integer `i`. -/
def ofInt (i : Int) : Option Binary64 :=
  ofDecimal (i < 0) i.natAbs 0

end Binary64

end ClusterGraph
