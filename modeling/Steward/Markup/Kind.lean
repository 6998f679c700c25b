import Steward.Decimal.Digits
import Steward.Text.Blank

/-!
# Kinds of nodes

Every node has a kind. It is written as a tag, or it follows from the form of what is written: a plain scalar
that looks like a number is a number.

## Contents

* `Kind` — the kinds, `Kind.ofTag` — by tag;
* `looksLikeInteger`, `looksLikeReal`, `looksLikeMoment` — the forms of numbers and dates;
* `Kind.ofPlain` — the kind of a plain scalar.
-/

namespace Steward.Markup

/-- The kind of a node. -/
inductive Kind where
  | null
  | truth
  | integer
  | real
  | binary
  | moment
  | orderedMap
  | pairs
  | set
  | text
  | sequence
  | mapping
  /-- The key under which other mappings are merged in. -/
  | merge
  /-- The key of a default value. -/
  | default
  | unknown (tag : String)
  deriving DecidableEq, Inhabited

/-- What the tags of the known kinds start with. -/
def tagPrefix : String := "tag:yaml.org,2002:"

/-- The known kinds by tag. -/
def Kind.known : List (String × Kind) :=
  [("null", .null), ("bool", .truth), ("int", .integer), ("float", .real), ("binary", .binary),
   ("timestamp", .moment), ("omap", .orderedMap), ("pairs", .pairs), ("set", .set), ("str", .text),
   ("seq", .sequence), ("map", .mapping)]

/-- The kind that a tag names. -/
def Kind.ofTag (tag : String) : Kind :=
  match Kind.known.find? fun k => tagPrefix ++ k.1 = tag with
  | some (_, kind) => kind
  | none =>
    if tag = tagPrefix ++ "merge" then .merge
    else if tag = tagPrefix ++ "value" then .default
    else .unknown tag

/-! ## Forms -/

/-- What follows a sign, if there is one. -/
def unsigned : List Char → List Char
  | '+' :: rest | '-' :: rest => rest
  | cs => cs

/-- A digit and further digits, which may be grouped by underscores. -/
def isGrouped : List Char → Bool
  | c :: rest => Decimal.isDigit c && rest.all fun c => Decimal.isDigit c || c = '_'
  | [] => false

/-- A part of a number to the base sixty: up to 59. -/
def isSixtieth : List Char → Bool
  | [c] => Decimal.isDigit c
  | [c, d] => '0' ≤ c && c ≤ '5' && Decimal.isDigit d
  | _ => false

/-- An exponent, with its sign, or none. -/
def isExponent : List Char → Bool
  | [] => true
  | e :: sign :: digits =>
    (e = 'e' || e = 'E') && (sign = '+' || sign = '-') && !digits.isEmpty && digits.all Decimal.isDigit
  | _ => false

/-- An integer to the base two, eight, ten, sixteen or sixty. -/
def looksLikeInteger (cs : List Char) : Bool :=
  match unsigned cs with
  | [] => false
  | ['0'] => true
  | '0' :: 'b' :: ds => !ds.isEmpty && ds.all fun c => c = '0' || c = '1' || c = '_'
  | '0' :: 'x' :: ds =>
    !ds.isEmpty && ds.all fun c =>
      Decimal.isDigit c || ('a' ≤ c && c ≤ 'f') || ('A' ≤ c && c ≤ 'F') || c = '_'
  | '0' :: ds => ds.all fun c => ('0' ≤ c && c ≤ '7') || c = '_'
  | ds =>
    match Text.splitOn ':' ds with
    | first :: sixtieths => isGrouped first && sixtieths.all isSixtieth
    | [] => false

/-- What follows the point of a number: digits, and an exponent where one may stand. -/
def isFraction (withExponent : Bool) (cs : List Char) : Bool :=
  let rest := cs.dropWhile fun c => Decimal.isDigit c || c = '_'
  if withExponent then isExponent rest else rest.isEmpty

/-- A number with a point, to the base ten or sixty, or a word for what is not finite. -/
def looksLikeReal (cs : List Char) : Bool :=
  [".nan", ".NaN", ".NAN"].contains (String.ofList cs)
    || [".inf", ".Inf", ".INF"].contains (String.ofList (unsigned cs))
    || match Text.cut '.' (unsigned cs) with
      | (_, none) => false
      | ([], some fraction) =>
        unsigned cs = cs && fraction.head?.any Decimal.isDigit && isFraction true fraction
      | (whole, some fraction) =>
        match Text.splitOn ':' whole with
        | [digits] => isGrouped digits && isFraction true fraction
        | first :: sixtieths => isGrouped first && sixtieths.all isSixtieth && isFraction false fraction
        | [] => false

/-! ## Dates -/

/-- The parts of a date as they are written. -/
structure DateParts where
  year : Nat
  month : Nat
  day : Nat
  /-- Hour, minute and second. -/
  time : Option (Nat × Nat × Nat)
  /-- Minutes to the east of universal time, where an offset with a sign is given. -/
  offset : Option Int
  deriving DecidableEq, Inhabited

/-- The value of at least so many and at most so many digits at the start, and the rest. -/
def someDigits (least most : Nat) (cs : List Char) : Option (Nat × List Char) :=
  let ds := (cs.take most).takeWhile Decimal.isDigit
  if ds.length < least then none else some (Decimal.value ds, cs.drop ds.length)

/-- What follows a character at the start. -/
def after (c : Char) : List Char → Option (List Char)
  | d :: rest => if c = d then some rest else none
  | [] => none

/-- An offset at the end of a date: none, universal time, or hours and minutes. -/
def dateOffset (cs : List Char) : Option (Option Int) :=
  match cs.dropWhile fun c => c = ' ' || c = '\t' with
  | [] => if cs.isEmpty then some none else none
  | ['Z'] => some none
  | sign :: rest =>
    if sign = '+' || sign = '-' then do
      let (hours, rest) ← someDigits 1 2 rest
      let minutes ← match rest with
        | [] => some 0
        | rest => do
          let (minutes, rest) ← someDigits 2 2 (← after ':' rest)
          if rest.isEmpty then some minutes else none
      let total : Int := hours * 60 + minutes
      some (some (if sign = '-' then -total else total))
    else none

/-- The time of day in a date, from what separates it on. -/
def dateTime (cs : List Char) : Option ((Nat × Nat × Nat) × Option Int) := do
  let cs ← match cs with
    | 'T' :: rest | 't' :: rest => some rest
    | ' ' :: rest | '\t' :: rest => some (rest.dropWhile fun c => c = ' ' || c = '\t')
    | _ => none
  let (hour, cs) ← someDigits 1 2 cs
  let (minute, cs) ← someDigits 2 2 (← after ':' cs)
  let (second, cs) ← someDigits 2 2 (← after ':' cs)
  let cs := match cs with
    | '.' :: rest => rest.dropWhile Decimal.isDigit
    | cs => cs
  let offset ← dateOffset cs
  some ((hour, minute, second), offset)

/-- The parts of a date: with a time of day, month and day may have one digit. -/
def datePartsOf (cs : List Char) : Option DateParts := do
  let (year, cs) ← someDigits 4 4 cs
  let (month, afterMonth) ← someDigits 1 2 (← after '-' cs)
  let (day, afterDay) ← someDigits 1 2 (← after '-' afterMonth)
  match afterDay with
  | [] => some ⟨year, month, day, none, none⟩
  | rest =>
    let (time, offset) ← dateTime rest
    some ⟨year, month, day, some time, offset⟩

/-- A date, or a date with a time of day. A date alone has two digits for month and day. -/
def looksLikeMoment (cs : List Char) : Bool :=
  match datePartsOf cs with
  | some parts => parts.time.isSome || cs.length = 10
  | none => false

/-! ## Plain scalars -/

/-- Words for truth values. -/
def truthWords : List String :=
  ["yes", "Yes", "YES", "no", "No", "NO", "true", "True", "TRUE", "false", "False", "FALSE", "on", "On", "ON",
   "off", "Off", "OFF"]

/-- Words for null. -/
def nullWords : List String :=
  ["", "~", "null", "Null", "NULL"]

/-- The kind of a plain scalar. -/
def Kind.ofPlain (s : String) : Kind :=
  let cs := s.toList
  if truthWords.contains s then .truth
  else if looksLikeReal cs then .real
  else if looksLikeInteger cs then .integer
  else if s = "<<" then .merge
  else if nullWords.contains s then .null
  else if looksLikeMoment cs then .moment
  else if s = "=" then .default
  else if s = "!" || s = "&" || s = "*" then .unknown (tagPrefix ++ "yaml")
  else .text

end Steward.Markup
