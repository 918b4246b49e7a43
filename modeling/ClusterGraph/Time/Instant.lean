import ClusterGraph.Time.Calendar

/-!
# ClusterGraph.Time.Instant

**Points in time, their range, and the text in which the graph stores them.**

An instant is a number of seconds since the start of 1970 and a number of nanoseconds in
that second. The second before a leap second is twice as long: from a thousand million
nanoseconds on, an instant lies in the leap second, which is written as second 60.

Design points:

* stored text has whole seconds in UTC, cut and not rounded, and for the years 0 to 9999
  its order as text is the order in time;
* other years have a sign and at least four digits;
* only the years from -262143 to 262142 exist: going back past them gives no instant.
-/

namespace ClusterGraph

/-- A point in time: the `second` since 1970-01-01, and the `nano` since that second. In a leap
second `nano` is `secondNanos` or more. -/
structure Instant where
  second : Int
  nano : Nat
deriving DecidableEq

namespace Instant

/-- The number of seconds of a day. -/
def daySeconds : Int := 86400

/-- The number of nanoseconds of a second. -/
def secondNanos : Nat := 1000000000

/-- The day in which `second` lies, counted from 1970-01-01. -/
def dayNumber (t : Instant) : Int :=
  t.second / daySeconds

/-- The date of the instant, by `Date.ofDay`. -/
def date (t : Instant) : Date :=
  Date.ofDay t.dayNumber

/-- The number of the second in its day. -/
def secondOfDay (t : Instant) : Nat :=
  (t.second % daySeconds).toNat

/-- Whether the instant is in the leap second that follows `second`. -/
def inLeapSecond (t : Instant) : Bool :=
  secondNanos ≤ t.nano

/-! ### Range -/

/-- The first day that an instant can lie in, that of the year -262143. -/
def firstDay : Int := Date.toDay ⟨-262143, 1, 1⟩

/-- The last day that an instant can lie in, that of the year 262142. -/
def lastDay : Int := Date.toDay ⟨262142, 12, 31⟩

/-- Whether the day is one from `firstDay` to `lastDay`. -/
def isDayInRange (day : Int) : Bool :=
  firstDay ≤ day && day ≤ lastDay

/-- The instant of a `second` and a `nano`, if there is one: `isDayInRange` holds of its day, and a
leap second follows the last second of a minute. -/
def ofUnix? (second : Int) (nano : Nat) : Option Instant :=
  let t : Instant := ⟨second, nano⟩
  if isDayInRange t.dayNumber
      && (nano < secondNanos || (nano < 2 * secondNanos && second % 60 = 59)) then
    some t
  else none

/-! ### Text -/

/-- The number in decimal digits, two at least. -/
def twoDigits (n : Nat) : String :=
  if n < 10 then "0" ++ toString n else toString n

/-- The number in decimal digits, four at least. -/
def fourDigits (n : Nat) : String :=
  let digits := toString n
  String.ofList (List.replicate (4 - digits.length) '0') ++ digits

/-- The year as `fourDigits`, with a sign outside of 0 to 9999. -/
def yearText (year : Int) : String :=
  if 0 ≤ year ∧ year ≤ 9999 then fourDigits year.toNat
  else (if year < 0 then "-" else "+") ++ fourDigits year.natAbs

/-- The second of the minute that `format` writes, which is 60 in a leap second. -/
def writtenSecond (t : Instant) : Nat :=
  t.secondOfDay % 60 + if t.inLeapSecond then 1 else 0

/-- The text of the instant, as in `1970-01-01T00:00:00Z`. A fraction of a second is not written. -/
def format (t : Instant) : String :=
  let date := t.date
  yearText date.year ++ "-" ++ twoDigits date.month ++ "-" ++ twoDigits date.day
    ++ "T" ++ twoDigits (t.secondOfDay / 3600) ++ ":" ++ twoDigits (t.secondOfDay / 60 % 60)
    ++ ":" ++ twoDigits t.writtenSecond ++ "Z"

/-! ### Going back -/

/-- The instant that is `days` earlier, if `isDayInRange` holds of its day. An instant in a leap
second is moved to the second after it first. -/
def daysBefore? (t : Instant) (days : Int) : Option Instant :=
  let start : Instant :=
    if t.inLeapSecond && days ≠ 0 then
      ⟨if days > 0 then t.second + 1 else t.second, t.nano - secondNanos⟩
    else t
  let earlier : Instant := ⟨start.second - days * daySeconds, start.nano⟩
  if isDayInRange earlier.dayNumber then some earlier else none

end Instant

end ClusterGraph
