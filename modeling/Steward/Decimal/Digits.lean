/-!
# Decimal digits

Numbers as they are written: digits to the base ten.

## Contents

* `ofNat`, `ofInt` — a number in the fewest digits, a minus sign before a negative one;
* `value` — the number that a run of digits names;
* `isDigit` — the ten ASCII digits;
* `tenTo` — powers of ten.
-/

namespace Steward.Decimal

/-- The ten ASCII digits. -/
def isDigit (c : Char) : Bool :=
  '0' ≤ c && c ≤ '9'

/-- A power of ten. -/
def tenTo (n : Nat) : Nat :=
  Nat.pow 10 n

/-- The value of a digit; of another character nothing is asked. -/
def digitValue (c : Char) : Nat :=
  c.toNat - 48

/-- The digit with a value below ten. -/
def digit (n : Nat) : Char :=
  Char.ofNat (48 + n)

/-- The number that a run of digits names; an empty run names zero. -/
def value (ds : List Char) : Nat :=
  ds.foldl (fun n d => 10 * n + digitValue d) 0

/-- The digits of a number, in front of digits already written. -/
def digitsOnto (n : Nat) (written : List Char) : List Char :=
  if n < 10 then digit n :: written else digitsOnto (n / 10) (digit (n % 10) :: written)
termination_by n
decreasing_by omega

/-- A natural number in the fewest digits. -/
def ofNat (n : Nat) : List Char :=
  digitsOnto n []

/-- An integer in the fewest digits, a minus sign before a negative one. -/
def ofInt (n : Int) : List Char :=
  if n < 0 then '-' :: ofNat n.natAbs else ofNat n.natAbs

/-- An integer as text. -/
def text (n : Int) : String :=
  String.ofList (ofInt n)

/-- A number in at least `width` digits, padded with zeros. -/
def padded (width n : Nat) : List Char :=
  let ds := ofNat n
  List.replicate (width - ds.length) '0' ++ ds

end Steward.Decimal
