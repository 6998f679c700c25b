import Steward.Reading.Basic
import Steward.Moment
import Steward.Text.Blank

/-!
# Reading single values

Readers are lenient: a number may be written as text, a truth value in several words, a moment as seconds or
milliseconds. A text is never made from anything else.

## Contents

* `text`, `enumeration`, `truth` — words;
* `integer`, `number` — numbers, with the forms of text that are read as numbers;
* `atLeast`, `atMost`, `aboveZero` — bounds on what was read.
-/

namespace Steward

/-! ## Words -/

/-- Reads text. Bytes count as the text that they encode. -/
def text : Reader String
  | .text s => .accepted s
  | .bytes bs =>
    match String.fromUTF8? bs with
    | some s => .accepted s
    | none => .complain .notText
  | _ => .complain .notText

/-- Reads one of the words of an enumeration, spelt exactly. -/
def enumeration (members : List (String × α)) : Reader α
  | .text s =>
    match members.lookup s with
    | some a => .accepted a
    | none => .complain .notInEnumeration
  | _ => .complain .notInEnumeration

/-- Words that mean yes, and words that mean no. -/
def truthWords : List (String × Bool) :=
  [("1", true), ("t", true), ("y", true), ("true", true), ("yes", true), ("on", true),
   ("0", false), ("f", false), ("n", false), ("false", false), ("no", false), ("off", false)]

/-- The truth value that a number stands for. -/
def truthOfNumber (n : Number) : Reading Bool :=
  if Number.equal n 1 then .accepted true
  else if Number.equal n 0 then .accepted false
  else .complain .unreadableTruth

/-- Reads a truth value: itself, one and zero, or a word in any case. -/
def truth : Reader Bool
  | .bool b => .accepted b
  | .int n => truthOfNumber (.whole n)
  | .real x => truthOfNumber (.real x)
  | .text s =>
    match truthWords.lookup (String.ofList (s.toList.map Char.toLower)) with
    | some b => .accepted b
    | none => .complain .unreadableTruth
  | _ => .complain .notTruth

/-! ## Integers -/

/-- Digits with single underscores between them, without the underscores. -/
def groupedDigits : (afterDigit : Bool) → List Char → Option (List Char)
  | afterDigit, [] => if afterDigit then some [] else none
  | afterDigit, c :: rest =>
    if Decimal.isDigit c then (groupedDigits true rest).map (c :: ·)
    else if c = '_' ∧ afterDigit then groupedDigits false rest
    else none

/-- A sign and what follows it. -/
def signed : List Char → Bool × List Char
  | '-' :: rest => (true, rest)
  | '+' :: rest => (false, rest)
  | cs => (false, cs)

/-- Whether what follows the digits of an integer is nothing, or a point and zeros. -/
def isWholeTail : Option (List Char) → Bool
  | none => true
  | some zeros => !zeros.isEmpty && zeros.all (· = '0')

/-- The integer that a text is read as. -/
def integerOfText (s : String) : Reading Int :=
  let cs := Text.trim s.toList
  let (negative, rest) := signed cs
  let (whole, fraction) := Text.cut '.' rest
  match isWholeTail fraction, groupedDigits false whole with
  | true, some ds =>
    if Value.longestInteger < cs.length then .complain .oversizedInteger
    else .accepted (if negative then -(Decimal.value ds : Int) else Decimal.value ds)
  | _, _ => .complain .unreadableInteger

/-- Reads an integer: itself, a truth value as one or zero, a double without a fraction, or text. -/
def integer : Reader Int
  | .int n => .accepted n
  | .bool b => .accepted (if b then 1 else 0)
  | .real x =>
    match x with
    | .undefined | .infinite _ => .complain .notFinite
    | .finite .. =>
      match x.whole? with
      | some n => .accepted n
      | none => .complain .fractionalInteger
  | .text s => integerOfText s
  | .bytes bs =>
    match String.fromUTF8? bs with
    | some s => integerOfText s
    | none => .complain .notInteger
  | _ => .complain .notInteger

/-! ## Doubles -/

/-- An exponent: nothing, or a mark, a sign and digits. -/
def exponentOf : List Char → Option Int
  | [] => some 0
  | e :: rest =>
    if e = 'e' ∨ e = 'E' then
      let (negative, ds) := signed rest
      if ds.isEmpty || !ds.all Decimal.isDigit then none
      else some (if negative then -(Decimal.value ds : Int) else Decimal.value ds)
    else none

/-- A number in decimal notation without a sign: digits, a point and digits, with digits on at least one
side of the point, and an exponent. -/
def decimalOf (negative : Bool) (cs : List Char) : Option Binary64 :=
  let whole := cs.takeWhile Decimal.isDigit
  let afterWhole := cs.dropWhile Decimal.isDigit
  let (fraction, afterFraction) := match afterWhole with
    | '.' :: rest => (rest.takeWhile Decimal.isDigit, rest.dropWhile Decimal.isDigit)
    | rest => ([], rest)
  if whole.isEmpty && fraction.isEmpty then none
  else (exponentOf afterFraction).map fun e =>
    Binary64.ofDecimal negative (Decimal.value (whole ++ fraction)) (e - fraction.length)

/-- A number with its sign: in decimal notation, or one of the words for what is not finite. -/
def signedDecimal (cs : List Char) : Option Binary64 :=
  let (negative, rest) := signed cs
  match String.ofList (rest.map Char.toLower) with
  | "nan" => some .undefined
  | "inf" | "infinity" => some (.infinite negative)
  | _ => decimalOf negative rest

/-- A text without its underscores, none of which stands at an end or beside another. -/
def withoutUnderscores (cs : List Char) : Option (List Char) :=
  let pieces := Text.splitOn '_' cs
  if pieces.any List.isEmpty then none else some pieces.flatten

/-- The double that a text is read as. -/
def numberOfText (s : String) : Reading Binary64 :=
  match signedDecimal (Text.trim s.toList) with
  | some x => .accepted x
  | none =>
    match (withoutUnderscores s.toList).bind signedDecimal with
    | some x => .accepted x
    | none => .complain .unreadableNumber

/-- Reads a double: itself, an integer that is not beyond all doubles, a truth value, or text. -/
def number : Reader Binary64
  | .real x => .accepted x
  | .int n =>
    match Binary64.ofInt n with
    | .infinite _ => .complain .notNumber
    | x => .accepted x
  | .bool b => .accepted (Binary64.ofInt (if b then 1 else 0))
  | .text s => numberOfText s
  | .bytes bs =>
    match String.fromUTF8? bs with
    | some s => numberOfText s
    | none => .complain .notNumber
  | _ => .complain .notNumber

/-! ## Bounds -/

/-- Refuses integers below a bound. -/
def atLeast (bound : Int) (r : Reader Int) : Reader Int :=
  fun v => (r v).check fun n => if n < bound then .complain .belowLeast else .accepted n

/-- Refuses integers above a bound. -/
def atMost (bound : Int) (r : Reader Int) : Reader Int :=
  fun v => (r v).check fun n => if bound < n then .complain .aboveMost else .accepted n

/-- Refuses numbers that are not above zero, the undefined number among them. -/
def aboveZero (r : Reader Binary64) : Reader Binary64 :=
  fun v => (r v).check fun x =>
    if Binary64.less (Binary64.zero false) x then .accepted x else .complain .notAbove

/-- A rule on a text that was read, which may put the text into its proper form. -/
def ruled (r : Reader String) (rule : String → Except String String) : Reader String :=
  fun v => (r v).check fun s =>
    match rule s with
    | .ok t => .accepted t
    | .error why => .complain (.rule why)

end Steward
