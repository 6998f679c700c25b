import Steward.Decimal.Digits
import Steward.Binary64.Basic

/-!
# Double-precision numbers in decimal

Reading rounds a decimal to the nearest number. Writing looks for the coarsest decimal grid that has a
point from which the number is read back; on that grid the nearest such point is taken. Where the point is
put and when an exponent is used is a `Layout`.

## Contents

* `ofDecimal` — the number nearest to `digits · 10 ^ exponent`;
* `Shortest`, `shortest` — the fewest digits that read back;
* `Layout`, `write` — digits and exponent as text.
-/

namespace Steward.Binary64

/-- The number nearest to `digits · 10 ^ exponent`. Decimals beyond every double are decided by the place
of their first digit alone. -/
def ofDecimal (negative : Bool) (digits : Nat) (exponent : Int) : Binary64 :=
  let place : Int := exponent + (Decimal.ofNat digits).length
  if digits = 0 ∨ place < -400 then zero negative
  else if 400 < place then .infinite negative
  else if 0 ≤ exponent then ofRatio negative (digits * Decimal.tenTo exponent.toNat) 1
  else ofRatio negative digits (Decimal.tenTo (-exponent).toNat)

/-! ## The fewest digits -/

/-- A decimal `digits · 10 ^ exponent`. -/
structure Shortest where
  digits : Nat
  exponent : Int
  deriving DecidableEq, Inhabited

/-- The numbers that are read back as one double, in quarter units: from `low` to `high` around `mid`,
the ends included where the significand is even. -/
structure Span where
  low : Nat
  mid : Nat
  high : Nat
  closed : Bool

/-- What is read back as `m · 2 ^ p`. Below a power of two the neighbours lie half as far apart. -/
def span (m p : Nat) : Span :=
  let mid := 4 * m * twoTo p
  { low := mid - (if m = twoTo 52 ∧ 0 < p then twoTo p else 2 * twoTo p)
    mid := mid
    high := mid + 2 * twoTo p
    closed := m % 2 = 0 }

/-- Whether a value lies in the span, both taken `scale` times as large. -/
def Span.holds (s : Span) (scale x : Nat) : Bool :=
  if s.closed then s.low * scale ≤ x && x ≤ s.high * scale else s.low * scale < x && x < s.high * scale

/-- The point of the grid of multiples of `10 ^ exponent` that lies in the span nearest to its middle. Only
the two neighbours of the middle can be that point; of two at one distance the even one is taken. -/
def Span.onGrid (s : Span) (exponent : Int) : Option Nat :=
  let scale := Decimal.tenTo (-exponent).toNat
  let step := Decimal.tenTo exponent.toNat * (4 * unit)
  let below := s.mid * scale / step
  let above := below + 1
  match s.holds scale (below * step), s.holds scale (above * step) with
  | false, false => none
  | true, false => some below
  | false, true => some above
  | true, true =>
    let down := s.mid * scale - below * step
    let up := above * step - s.mid * scale
    if down < up then some below else if up < down then some above
    else if below % 2 = 0 then some below else some above

/-- The first hit on grids that get finer by the factor ten. -/
def Span.firstHit (s : Span) : (grids : Nat) → (exponent : Int) → Shortest
  | 0, exponent => ⟨s.mid, exponent⟩
  | grids + 1, exponent =>
    match s.onGrid exponent with
    | some digits => ⟨digits, exponent⟩
    | none => s.firstHit grids (exponent - 1)

/-- The fewest decimal digits from which the finite nonzero number `m · 2 ^ p` is read back. -/
def shortest (m p : Nat) : Shortest :=
  (span m p).firstHit 700 310

/-! ## Layout -/

/-- How digits and exponent are laid out. -/
structure Layout where
  /-- The lowest place of a first digit that is written without an exponent. -/
  lowest : Int
  /-- The place of a first digit from which on an exponent is written. -/
  beyond : Int
  /-- What follows a number that has no digits after the point. -/
  wholeTail : String
  /-- The fewest digits of an exponent. -/
  exponentDigits : Nat
  infinity : String
  undefined : String

/-- Digits and the place of the first of them (zero for units), as text. -/
def Layout.place (l : Layout) (ds : List Char) (place : Int) : List Char :=
  if l.lowest ≤ place ∧ place < l.beyond then
    if place < 0 then '0' :: '.' :: (List.replicate (-place - 1).toNat '0' ++ ds)
    else
      let whole := (place + 1).toNat
      if ds.length ≤ whole then ds ++ List.replicate (whole - ds.length) '0' ++ l.wholeTail.toList
      else ds.take whole ++ '.' :: ds.drop whole
  else
    let mantissa := match ds with
      | d :: e :: rest => d :: '.' :: e :: rest
      | other => other
    let sign := if place < 0 then '-' else '+'
    mantissa ++ 'e' :: sign :: Decimal.padded l.exponentDigits place.natAbs

/-- A number as text. -/
def write (l : Layout) (x : Binary64) : String :=
  let sign := if x.isNegative then ['-'] else []
  match x with
  | .undefined => l.undefined
  | .infinite _ => String.ofList (sign ++ l.infinity.toList)
  | .finite _ 0 _ => String.ofList (sign ++ l.place ['0'] 0)
  | .finite _ m p =>
    let s := shortest m p
    let ds := Decimal.ofNat s.digits
    let place : Int := s.exponent + ds.length - 1
    let stripped := (ds.reverse.dropWhile (· = '0')).reverse
    String.ofList (sign ++ l.place stripped place)

end Steward.Binary64
