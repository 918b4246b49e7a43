/-!
# ClusterGraph.Time.Span

**Lengths of time as messages show them: a decimal in the largest unit that fits.**

The units are the second, the millisecond, the microsecond and the nanosecond; the largest
one of which the span holds at least one whole is taken, and the rest follows the point
without zeros at its end.
-/

namespace ClusterGraph

/-- A length of time, in nanoseconds. -/
structure Span where
  nanos : Nat
deriving DecidableEq

namespace Span

/-- The span of `n` seconds. -/
def ofSeconds (n : Nat) : Span := ⟨n * 1000000000⟩

/-- The span of `n` milliseconds. -/
def ofMillis (n : Nat) : Span := ⟨n * 1000000⟩

/-- The number of whole seconds in the span. -/
def seconds (s : Span) : Nat := s.nanos / 1000000000

/-- The number of whole milliseconds in the span. -/
def millis (s : Span) : Nat := s.nanos / 1000000

/-- The digits after the point of `part / 10 ^ places`, without zeros at the end. -/
def fractionDigits (part places : Nat) : List Char :=
  let digits := Nat.toDigits 10 part
  let padded := List.replicate (places - digits.length) '0' ++ digits
  (padded.reverse.dropWhile (· = '0')).reverse

/-- A number of `unit`s of `10 ^ places` nanoseconds. -/
def inUnit (nanos places : Nat) (unit : String) : String :=
  let size := Nat.pow 10 places
  let part := nanos % size
  let whole := toString (nanos / size)
  if part = 0 then whole ++ unit
  else whole ++ "." ++ String.ofList (fractionDigits part places) ++ unit

/-- The span in a message, in the largest of the units `s`, `ms`, `µs` and `ns` in which it is 1 or
more. -/
def text (s : Span) : String :=
  if s.nanos ≥ 1000000000 then inUnit s.nanos 9 "s"
  else if s.nanos ≥ 1000000 then inUnit s.nanos 6 "ms"
  else if s.nanos ≥ 1000 then inUnit s.nanos 3 "µs"
  else inUnit s.nanos 0 "ns"

end Span

end ClusterGraph
