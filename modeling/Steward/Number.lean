import Steward.Binary64.Decimal

/-!
# Numbers

A reading of a clock, a delay or an amount is an integer of any size or a double-precision number. Integers
stay integers as long as nothing else takes part; an integer that meets a double is rounded to one, except
in comparisons, which are exact.

## Contents

* `Number` — the numbers, with addition, subtraction and order as instances;
* `Number.plain` — how the library writes doubles: sixteen digits before an exponent is used;
* `Number.millis?` — whole milliseconds of a number of seconds.
-/

namespace Steward

/-- An integer or a double-precision number. -/
inductive Number where
  | whole (n : Int)
  | real (x : Binary64)
  deriving DecidableEq, Inhabited

namespace Number

/-- The nearest double. -/
def toReal : Number → Binary64
  | .whole n => Binary64.ofInt n
  | .real x => x

/-- The sum. -/
def add : Number → Number → Number
  | .whole a, .whole b => .whole (a + b)
  | x, y => .real (Binary64.add x.toReal y.toReal)

/-- The difference. -/
def sub : Number → Number → Number
  | .whole a, .whole b => .whole (a - b)
  | x, y => .real (Binary64.sub x.toReal y.toReal)

/-- Whether the first number is below the second. -/
def less : Number → Number → Bool
  | .whole a, .whole b => a < b
  | .real x, .real y => Binary64.less x y
  | .whole a, .real x =>
    match x with
    | .undefined => false
    | .infinite negative => !negative
    | .finite negative m p => a * Binary64.unit < Binary64.units (.finite negative m p)
  | .real x, .whole b =>
    match x with
    | .undefined => false
    | .infinite negative => negative
    | .finite negative m p => Binary64.units (.finite negative m p) < b * Binary64.unit

/-- Whether the two are the same number. -/
def equal : Number → Number → Bool
  | .whole a, .whole b => a == b
  | .real x, .real y => Binary64.equal x y
  | .whole a, .real x | .real x, .whole a =>
    match x with
    | .undefined | .infinite _ => false
    | .finite negative m p => Binary64.units (.finite negative m p) == a * Binary64.unit

/-- Whether the first number is at most the second. -/
def atMost (x y : Number) : Bool :=
  less x y || equal x y

instance : Add Number := ⟨add⟩
instance : Sub Number := ⟨sub⟩
instance : OfNat Number n := ⟨.whole n⟩
instance : LT Number := ⟨fun x y => less x y = true⟩
instance : LE Number := ⟨fun x y => atMost x y = true⟩
instance : DecidableLT Number := fun x y => inferInstanceAs (Decidable (less x y = true))
instance : DecidableLE Number := fun x y => inferInstanceAs (Decidable (atMost x y = true))

/-- Doubles are written without an exponent from a ten-thousandth up to sixteen digits, and always with
a digit after the point or an exponent of two digits or more. -/
def plain : Binary64.Layout :=
  { lowest := -4, beyond := 16, wholeTail := ".0", exponentDigits := 2, infinity := "inf", undefined := "nan" }

/-- Why a number of seconds has no whole milliseconds. -/
inductive Boundless where
  | undefined
  | infinite
  deriving DecidableEq

/-- Whole milliseconds of a number of seconds: the product is rounded as doubles are, then what lies
beyond the point is cut off. -/
def millis? : Number → Except Boundless Int
  | .whole n => .ok (n * 1000)
  | .real x =>
    match Binary64.mul x (Binary64.ofInt 1000) with
    | .undefined => .error .undefined
    | .infinite _ => .error .infinite
    | .finite negative m p => .ok ((Binary64.units (.finite negative m p)).tdiv Binary64.unit)

end Number

end Steward
