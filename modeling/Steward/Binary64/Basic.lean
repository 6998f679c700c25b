/-!
# Double-precision numbers

Numbers of the IEEE 754 format with 53 significant bits, held as what they mean: a finite number is its
sign, a significand and a shift, and stands for `significand · 2 ^ shift` units of `2 ^ -1074`. Every
operation computes the exact result in integers and rounds it once, to the nearest number, a tie to the
even significand.

## Contents

* `Binary64` — the numbers, the two infinities and the undefined number;
* `roundHalfEven`, `Binary64.ofUnits`, `Binary64.ofRatio` — the rounding everything else goes through;
* `add`, `sub`, `mul`, `div` — arithmetic;
* `less`, `equal` — comparison, false wherever an undefined number takes part;
* `floor?`, `truncate?` — the integer at or below a number, and the one next to it on the way to zero.
-/

namespace Steward

/-- A double-precision number. Of a finite one, `significand < 2 ^ 53`, and `2 ^ 52 ≤ significand` unless
`shift = 0`. -/
inductive Binary64 where
  | finite (negative : Bool) (significand shift : Nat)
  | infinite (negative : Bool)
  | undefined
  deriving DecidableEq, Inhabited

namespace Binary64

/-- A power of two. -/
def twoTo (n : Nat) : Nat :=
  Nat.pow 2 n

/-- How many units of `2 ^ -1074` make one. -/
def unit : Nat := twoTo 1074

/-- Zero, with a sign. -/
def zero (negative : Bool) : Binary64 := .finite negative 0 0

/-- A finite number in units of `2 ^ -1074`; the others count as zero. -/
def units : Binary64 → Int
  | .finite negative m p => if negative then -((m * twoTo p : Nat) : Int) else ((m * twoTo p : Nat) : Int)
  | .infinite _ | .undefined => 0

/-- Whether the number carries a minus sign. -/
def isNegative : Binary64 → Bool
  | .finite negative _ _ => negative
  | .infinite negative => negative
  | .undefined => false

/-- The quotient rounded to the nearest integer, a tie to the even one. -/
def roundHalfEven (num den : Nat) : Nat :=
  let q := num / den
  let r := num % den
  if 2 * r < den then q else if den < 2 * r then q + 1 else if q % 2 = 0 then q else q + 1

/-- The number nearest to `num / den` units of `2 ^ -1074`. -/
def ofUnits (negative : Bool) (num den : Nat) : Binary64 :=
  let shift := (num / den).log2 - 52
  let m := roundHalfEven num (den * twoTo shift)
  let (m, shift) := if m = twoTo 53 then (twoTo 52, shift + 1) else (m, shift)
  if 2045 < shift then .infinite negative else .finite negative m shift

/-- The number nearest to `num / den`. -/
def ofRatio (negative : Bool) (num den : Nat) : Binary64 :=
  ofUnits negative (num * unit) den

/-- The number nearest to an integer. -/
def ofInt (n : Int) : Binary64 :=
  ofRatio (n < 0) n.natAbs 1

/-! ## Arithmetic -/

/-- The opposite number. -/
def neg : Binary64 → Binary64
  | .finite negative m p => .finite (!negative) m p
  | .infinite negative => .infinite (!negative)
  | .undefined => .undefined

/-- The sum. Exact zero is positive unless both numbers are negative zeros. -/
def add : Binary64 → Binary64 → Binary64
  | .undefined, _ | _, .undefined => .undefined
  | .infinite a, .infinite b => if a = b then .infinite a else .undefined
  | .infinite a, .finite _ _ _ => .infinite a
  | .finite _ _ _, .infinite b => .infinite b
  | .finite a m p, .finite b n q =>
    let s := units (.finite a m p) + units (.finite b n q)
    if s = 0 then zero (a && b) else ofUnits (s < 0) s.natAbs 1

/-- The difference. -/
def sub (x y : Binary64) : Binary64 :=
  add x (neg y)

/-- The product. -/
def mul : Binary64 → Binary64 → Binary64
  | .undefined, _ | _, .undefined => .undefined
  | .infinite a, .infinite b => .infinite (a != b)
  | .infinite a, .finite b n _ => if n = 0 then .undefined else .infinite (a != b)
  | .finite a m _, .infinite b => if m = 0 then .undefined else .infinite (a != b)
  | .finite a m p, .finite b n q =>
    ofUnits (a != b) (m * n * twoTo (p + q)) unit

/-- The quotient. -/
def div : Binary64 → Binary64 → Binary64
  | .undefined, _ | _, .undefined => .undefined
  | .infinite _, .infinite _ => .undefined
  | .infinite a, .finite b _ _ => .infinite (a != b)
  | .finite a _ _, .infinite b => zero (a != b)
  | .finite a m p, .finite b n q =>
    if n = 0 then (if m = 0 then .undefined else .infinite (a != b))
    else ofUnits (a != b) (m * twoTo p * unit) (n * twoTo q)

/-! ## Comparison -/

/-- Whether the first number is below the second. -/
def less : Binary64 → Binary64 → Bool
  | .undefined, _ | _, .undefined => false
  | .infinite a, .infinite b => a && !b
  | .infinite a, .finite _ _ _ => a
  | .finite _ _ _, .infinite b => !b
  | .finite a m p, .finite b n q => units (.finite a m p) < units (.finite b n q)

/-- Whether the numbers are equal; the two zeros are. -/
def equal : Binary64 → Binary64 → Bool
  | .infinite a, .infinite b => a == b
  | .finite a m p, .finite b n q => units (.finite a m p) == units (.finite b n q)
  | _, _ => false

/-- Whether the first number is at most the second. -/
def atMost (x y : Binary64) : Bool :=
  less x y || equal x y

/-! ## Integers -/

/-- The integer next to the number on the way to zero. -/
def truncate? : Binary64 → Option Int
  | .finite negative m p => some ((units (.finite negative m p)).tdiv unit)
  | .infinite _ | .undefined => none

/-- The integer at or below the number. -/
def floor? : Binary64 → Option Int
  | .finite negative m p => some ((units (.finite negative m p)).fdiv unit)
  | .infinite _ | .undefined => none

/-- The integer that the number is, if it is one. -/
def whole? : Binary64 → Option Int
  | .finite negative m p =>
    let n := units (.finite negative m p)
    if n % (unit : Int) = 0 then some (n.tdiv unit) else none
  | .infinite _ | .undefined => none

end Binary64

end Steward
