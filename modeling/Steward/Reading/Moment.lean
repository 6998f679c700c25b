import Steward.Reading.Scalar

/-!
# Reading moments

A moment is written as date and time of day, as a date alone (its midnight), or as a number of seconds since
1970; a number whose size is beyond `watershed` counts milliseconds.

## Contents

* `dateOf`, `timeOf`, `offsetOf` — the parts of a written moment;
* `momentOfText`, `momentOfSeconds` — the two notations;
* `moment` — the reader.
-/

namespace Steward

namespace MomentText

/-- The value of exactly `count` digits at the start, and the rest. -/
def digits : (count : Nat) → List Char → Option (Nat × List Char)
  | 0, cs => some (0, cs)
  | count + 1, c :: rest =>
    if Decimal.isDigit c then
      (digits count rest).map fun (n, after) => (Decimal.digitValue c * Decimal.tenTo count + n, after)
    else none
  | _ + 1, [] => none

/-- Drops a character that has to stand at the start. -/
def expect (c : Char) : List Char → Option (List Char)
  | d :: rest => if c = d then some rest else none
  | [] => none

/-- A date `yyyy-mm-dd` at the start: its days since 1970, whether its year is zero, and the rest. -/
def dateOf (cs : List Char) : Option ((Int × Bool) × List Char) := do
  let (year, cs) ← digits 4 cs
  let cs ← expect '-' cs
  let (month, cs) ← digits 2 cs
  let cs ← expect '-' cs
  let (day, cs) ← digits 2 cs
  if day < 1 ∨ Calendar.daysInMonth year month < day then none
  else some ((Calendar.daysSinceEpoch year month day, year == 0), cs)

/-- The digits after the point as microseconds; digits beyond the sixth are cut off. -/
def microsOf (ds : List Char) : Nat :=
  let kept := ds.take 6
  Decimal.value kept * Decimal.tenTo (6 - kept.length)

/-- A time of day `hh:mm`, `hh:mm:ss` or with a fraction of a second: seconds, microseconds, and the rest. -/
def timeOf (cs : List Char) : Option ((Nat × Nat) × List Char) := do
  let (hour, cs) ← digits 2 cs
  let cs ← expect ':' cs
  let (minute, cs) ← digits 2 cs
  if 23 < hour ∨ 59 < minute then none
  else
    let start := hour * 3600 + minute * 60
    match cs with
    | ':' :: cs =>
      let (second, cs) ← digits 2 cs
      if 59 < second then none
      else
        match cs with
        | c :: rest =>
          if c = '.' ∨ c = ',' then
            let ds := rest.takeWhile Decimal.isDigit
            if ds.isEmpty then none
            else some ((start + second, microsOf ds), rest.dropWhile Decimal.isDigit)
          else some ((start + second, 0), cs)
        | [] => some ((start + second, 0), [])
    | cs => some ((start, 0), cs)

/-- Hours and minutes of an offset, with a colon between them or without. -/
def hoursAndMinutes (cs : List Char) : Option Nat := do
  let (hours, cs) ← digits 2 cs
  let cs := match cs with
    | ':' :: rest => rest
    | other => other
  let (minutes, cs) ← digits 2 cs
  let seconds := hours * 3600 + minutes * 60
  if !cs.isEmpty ∨ 59 < minutes ∨ 86400 ≤ seconds then none else some seconds

/-- The minus sign of mathematics, which may stand for the hyphen. -/
def minusSign : Char := Char.ofNat 0x2212

/-- The offset from universal time that ends a written moment: none given, or seconds to the east. -/
def offsetOf : List Char → Option (Option Int)
  | [] => some none
  | c :: rest =>
    if c = 'Z' ∨ c = 'z' then (if rest.isEmpty then some (some 0) else none)
    else if c = '+' then (hoursAndMinutes rest).map fun n => some (n : Int)
    else if c = '-' ∨ c = minusSign then (hoursAndMinutes rest).map fun n => some (-(n : Int))
    else none

end MomentText

open MomentText

/-- Reads a date and a time of day with `T`, `t`, a blank or an underscore between them. The flag says
whether the year is zero. -/
def dateAndTime (cs : List Char) : Option (Moment × Bool) := do
  let ((days, yearZero), cs) ← dateOf cs
  match cs with
  | c :: cs =>
    if c = 'T' ∨ c = 't' ∨ c = ' ' ∨ c = '_' then
      let ((seconds, micros), cs) ← timeOf cs
      let offset ← offsetOf cs
      some (⟨days * 86400 + seconds - offset.getD 0, micros, offset.isNone⟩, yearZero)
    else none
  | [] => none

/-- Sizes up to this count seconds, larger ones milliseconds. -/
def watershed : Int := 20000000000

/-- The seconds from which on the year is not yet 0, and those after the year 9999. -/
def firstYearZero : Int := -62167219200
def lastSecond : Int := 253402300799

/-- The moment so many seconds, or milliseconds beyond the watershed, and microseconds after 1970. -/
def momentOfSeconds (n : Int) (micros : Nat) : Option (Moment × Bool) :=
  let (seconds, extra) :=
    if -watershed ≤ n ∧ n ≤ watershed then (n, 0) else (n.fdiv 1000, (n.fmod 1000).toNat * 1000)
  let total := micros + extra
  let seconds := seconds + (total / 1000000 : Nat)
  if seconds < firstYearZero ∨ lastSecond < seconds then none
  else some (⟨seconds, total % 1000000, false⟩, seconds < Moment.firstSecond)

/-- The largest 64-bit integer; doubles beyond it are cut down to it. -/
def longestCount : Int := 9223372036854775807

/-- The moment a double number of seconds, or milliseconds beyond the watershed, after 1970. The fraction
is always taken as a fraction of a second, without its sign. -/
def momentOfReal (x : Binary64) : Option (Moment × Bool) :=
  match x.truncate?, x.floor? with
  | some towardsZero, some below =>
    let fraction := Binary64.sub x (Binary64.ofInt towardsZero)
    let size := match fraction with
      | .finite _ m p => Binary64.finite false m p
      | other => other
    let scaled := Binary64.mul size (Binary64.ofInt 1000000)
    let micros := (Binary64.units scaled + Binary64.unit / 2).toNat / Binary64.unit
    momentOfSeconds (max (-longestCount) (min longestCount below)) micros
  | _, _ => none

/-- What follows a decimal point, added up digit by digit in doubles. -/
def addDigits : (sum place : Binary64) → List Char → Option Binary64
  | sum, _, [] => some sum
  | sum, place, c :: rest =>
    if Decimal.isDigit c then
      addDigits (Binary64.add sum (Binary64.div (Binary64.ofInt (Decimal.digitValue c)) place))
        (Binary64.mul place (Binary64.ofInt 10)) rest
    else none

/-- The moment that a number written as text stands for. A fraction counts the unit of the number, and the
result is rounded to a microsecond. -/
def momentOfNumeral (cs : List Char) : Option (Moment × Bool) := do
  let (negative, rest) := signed cs
  let whole := rest.takeWhile Decimal.isDigit
  let count : Int := Decimal.value whole
  if whole.isEmpty ∨ longestCount < count then none
  else
    match rest.dropWhile Decimal.isDigit with
    | [] => momentOfSeconds (if negative then -count else count) 0
    | '.' :: ds =>
      let size ← addDigits (Binary64.ofInt count) (Binary64.ofInt 10) ds
      let x := if negative then Binary64.neg size else size
      let x := if Binary64.less (Binary64.ofInt watershed) size then Binary64.div x (Binary64.ofInt 1000) else x
      let below ← x.floor?
      let rest := Binary64.mul (Binary64.sub x (Binary64.ofInt below)) (Binary64.ofInt 1000000)
      momentOfSeconds below ((Binary64.units rest + Binary64.unit / 2).toNat / Binary64.unit)
    | _ => none

/-- A moment whose year is not zero. -/
def placed : Moment × Bool → Reading Moment
  | (_, true) => .complain .momentOutOfRange
  | (t, false) => .accepted t

/-- The moment that a text is read as: date and time, a number, or a date. -/
def momentOfText (s : String) : Reading Moment :=
  let cs := s.toList
  match dateAndTime cs <|> momentOfNumeral cs with
  | some t => placed t
  | none =>
    match dateOf cs with
    | some ((days, yearZero), []) => placed (⟨days * 86400, 0, true⟩, yearZero)
    | _ => .complain .unreadableMoment

/-- Reads a moment. -/
def moment : Reader Moment
  | .text s => momentOfText s
  | .int n =>
    match Binary64.ofInt n with
    | .infinite _ => .complain .notMoment
    | x =>
      let t := if -longestCount ≤ n ∧ n ≤ longestCount then momentOfSeconds n 0 else momentOfReal x
      match t with
      | some t => placed t
      | none => .complain .momentOutOfRange
  | .real x =>
    match momentOfReal x with
    | some t => placed t
    | none => .complain .momentOutOfRange
  | _ => .complain .notMoment

end Steward
