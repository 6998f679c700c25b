import Steward.Number

/-!
# Moments

Points in time, as the platform writes them: seconds since the start of 1970 and microseconds after that
second. A moment written without an offset from universal time is read as universal time, but is `floating`:
its milliseconds are computed in another order.

## Contents

* `daysInMonth`, `daysSinceEpoch` — the calendar;
* `Moment` — a point in time;
* `Moment.timestamp` — the seconds since 1970 as a double;
* `Moment.millis` — whole milliseconds since 1970.
-/

namespace Steward

/-! ## The calendar -/

namespace Calendar

/-- Whether a year has a 29th of February. -/
def isLeap (year : Nat) : Bool :=
  year % 4 == 0 && (year % 100 != 0 || year % 400 == 0)

/-- The length of a month; zero for what is no month. -/
def daysInMonth (year month : Nat) : Nat :=
  match month with
  | 1 | 3 | 5 | 7 | 8 | 10 | 12 => 31
  | 4 | 6 | 9 | 11 => 30
  | 2 => if isLeap year then 29 else 28
  | _ => 0

/-- Days of a year before a month. -/
def daysBeforeMonth (year : Nat) : (month : Nat) → Nat
  | 0 => 0
  | month + 1 => daysBeforeMonth year month + daysInMonth year month

/-- Days from the first day of year zero to the first day of a year. -/
def daysBeforeYear : (year : Nat) → Nat
  | 0 => 0
  | y + 1 => 366 + 365 * y + (y / 4 + y / 400 - y / 100)

/-- Days from the first of January 1970 to a date. -/
def daysSinceEpoch (year month day : Nat) : Int :=
  (daysBeforeYear year + daysBeforeMonth year month + day : Nat) - ((daysBeforeYear 1970 + 1 : Nat) : Int)

end Calendar

/-! ## Moments -/

/-- A point in time: `micros < 10 ^ 6` microseconds after the second `seconds`, counted from the start of
1970 in universal time. -/
structure Moment where
  seconds : Int
  micros : Nat
  floating : Bool
  deriving DecidableEq, Inhabited

namespace Moment

/-- The second at which the year 1 starts. -/
def firstSecond : Int := -62135596800

/-- The seconds since 1970 as a double. With an offset given, the microseconds are divided once; without,
the fraction of the second is divided and then added. -/
def timestamp (t : Moment) : Binary64 :=
  let million := Binary64.ofInt 1000000
  if t.floating then Binary64.add (Binary64.ofInt t.seconds) (Binary64.div (Binary64.ofInt t.micros) million)
  else
    let micros := t.seconds * 1000000 + t.micros
    Binary64.ofRatio (micros < 0) micros.natAbs 1000000

/-- Whether the local clock can be asked about a floating moment: it is asked about the day before too,
which has to lie in the calendar. -/
def isPlaceable (t : Moment) : Bool :=
  !t.floating || firstSecond ≤ t.seconds - 86400

/-- Whole milliseconds since 1970, cut off towards zero; none for a floating moment that cannot be placed. -/
def millis (t : Moment) : Option Int :=
  if t.isPlaceable then (Number.millis? (.real t.timestamp)).toOption else none

end Moment

end Steward
