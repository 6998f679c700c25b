import Steward.Markup.Node
import Steward.Reading.Scalar
import Steward.Moment

/-!
# Data

What a document means: its nodes turned into data by their kinds.

## Contents

* `Datum` — data; the keys of a map may be any data that has an order of its own;
* `integerDatum`, `realDatum`, `truthDatum`, `momentDatum`, `binaryDatum` — scalars by kind;
* `flattened` — the entries of a mapping with those of others merged in;
* `Node.toDatum` — a node as data;
* `load` — the data of a text.
-/

namespace Steward.Markup

/-- The data of a document. -/
inductive Datum where
  | null
  | truth (b : Bool)
  | integer (n : Int)
  | real (x : Binary64)
  | text (s : String)
  | binary (bs : ByteArray)
  | moment (written : String)
  | list (items : List Datum)
  | map (entries : List (Datum × Datum))
  | set (items : List Datum)
  deriving Inhabited

namespace Datum

/-- Whether data can be a key: containers cannot. -/
def isKey : Datum → Bool
  | list _ | map _ | set _ => false
  | _ => true

end Datum

/-! ## Scalars -/

/-- A scalar does not fit its tag. -/
def misfit (kind : Category) (why : String) : Except Fault α :=
  .error (.unreadableScalar kind why)

/-- The number that digits to a base name. -/
def numberInBase (base : Nat) (cs : List Char) : Except Fault Nat :=
  match cs.foldl (fun n c => do
      let d ← hexValue? c
      if d < base then return base * (← n) + d else none) (some 0) with
  | some n =>
    if cs.isEmpty then misfit .value ("invalid literal for int() with base " ++ Decimal.text base ++ ": ''")
    else if base = 10 ∧ Value.longestInteger < cs.length then .error (.numeralTooLong cs.length)
    else .ok n
  | none =>
    misfit .value ("invalid literal for int() with base " ++ Decimal.text base ++ ": "
      ++ Text.quoted (String.ofList cs))

/-- The number that parts to the base sixty name. -/
def sixtieths (parts : List Nat) : Nat :=
  parts.foldl (fun n part => 60 * n + part) 0

/-- An integer, to the base that its first characters tell. -/
def integerDatum (s : String) : Except Fault Datum := do
  let cs := s.toList.filter (· ≠ '_')
  let sign : Int := if cs.head? = some '-' then -1 else 1
  match unsigned cs with
  | [] => misfit .position "string index out of range"
  | ['0'] => return .integer 0
  | '0' :: 'b' :: ds => return .integer (sign * (← numberInBase 2 ds))
  | '0' :: 'x' :: ds => return .integer (sign * (← numberInBase 16 ds))
  | '0' :: ds => return .integer (sign * (← numberInBase 8 ('0' :: ds)))
  | ds =>
    if ds.contains ':' then
      return .integer (sign * sixtieths (← (Text.splitOn ':' ds).mapM (numberInBase 10)))
    else return .integer (sign * (← numberInBase 10 ds))

/-- The double that a text names. -/
def realOf (cs : List Char) : Except Fault Binary64 :=
  match signedDecimal (Text.trim cs) with
  | some x => .ok x
  | none => misfit .value ("could not convert string to float: " ++ Text.quoted (String.ofList cs))

/-- The number that parts to the base sixty name, the lowest first, added up in doubles. -/
def sixtiethsOfReals (parts : List Binary64) : Binary64 :=
  (parts.foldl (fun (sum, base) part =>
      (Binary64.add sum (Binary64.mul part (Binary64.ofInt base)), base * 60))
    (Binary64.zero false, (1 : Int))).1

/-- A double, with its sign. -/
def realDatum (s : String) : Except Fault Datum := do
  let cs := (s.toList.filter (· ≠ '_')).map Char.toLower
  let signedAs (x : Binary64) : Datum := .real (if cs.head? = some '-' then Binary64.neg x else x)
  match unsigned cs with
  | [] => if cs.isEmpty then misfit .position "string index out of range" else return signedAs (← realOf [])
  | ['.', 'i', 'n', 'f'] => return signedAs (.infinite false)
  | ['.', 'n', 'a', 'n'] => return .real .undefined
  | ds =>
    if ds.contains ':' then
      return signedAs (sixtiethsOfReals (← (Text.splitOn ':' ds).mapM realOf).reverse)
    else return signedAs (← realOf ds)

/-- What the words for truth values mean, in lower case. -/
def truthMeanings : List (String × Bool) :=
  [("yes", true), ("no", false), ("true", true), ("false", false), ("on", true), ("off", false)]

/-- A truth value. -/
def truthDatum (s : String) : Except Fault Datum :=
  let word := String.ofList (s.toList.map Char.toLower)
  match truthMeanings.lookup word with
  | some b => .ok (.truth b)
  | none => misfit .lookup (Text.quoted word)

/-- An offset as it stands in a message: days, and the seconds of the last day. -/
def offsetText (minutes : Int) : String :=
  let seconds := minutes * 60
  let days := seconds.fdiv 86400
  let left := seconds.fmod 86400
  "datetime.timedelta(days=" ++ Decimal.text days
    ++ (if left = 0 then "" else ", seconds=" ++ Decimal.text left) ++ ")"

/-- A date that is in the calendar. -/
def momentDatum (s : String) : Except Fault Datum :=
  match datePartsOf s.toList with
  | none => misfit .unknownName "'NoneType' object has no attribute 'groupdict'"
  | some parts =>
    if parts.offset.any fun minutes => minutes ≤ -1440 ∨ 1440 ≤ minutes then
      misfit .value ("offset must be a timedelta strictly between -timedelta(hours=24) and "
        ++ "timedelta(hours=24), not " ++ offsetText (parts.offset.getD 0) ++ ".")
    else if parts.year = 0 then misfit .value "year 0 is out of range"
    else if parts.month < 1 ∨ 12 < parts.month then misfit .value "month must be in 1..12"
    else if parts.day < 1 ∨ Calendar.daysInMonth parts.year parts.month < parts.day then
      misfit .value "day is out of range for month"
    else
      let (hour, minute, second) := parts.time.getD (0, 0, 0)
      if 23 < hour then misfit .value "hour must be in 0..23"
      else if 59 < minute then misfit .value "minute must be in 0..59"
      else if 59 < second then misfit .value "second must be in 0..59"
      else .ok (.moment s)

/-- The digits of the base sixty-four. -/
def base64Digits : List Char :=
  "ABCDEFGHIJKLMNOPQRSTUVWXYZabcdefghijklmnopqrstuvwxyz0123456789+/".toList

/-- Bytes from digits to the base sixty-four, four digits for three bytes. -/
def bytesOfDigits : List Nat → Option (List UInt8)
  | [] => some []
  | [_] => none
  | [a, b] => some [(a * 4 + b / 16).toUInt8]
  | [a, b, c] => some [(a * 4 + b / 16).toUInt8, (b * 16 + c / 4).toUInt8]
  | a :: b :: c :: d :: rest =>
    (bytesOfDigits rest).map fun bs =>
      (a * 4 + b / 16).toUInt8 :: (b * 16 + c / 4).toUInt8 :: (c * 64 + d).toUInt8 :: bs

/-- The digits before the padding that ends them; other characters are passed over. None if the padding
does not fill up a group of four. -/
def digitsToPadding : (read pads : Nat) → List Char → Option (List Nat)
  | read, _, [] => if read % 4 = 0 then some [] else none
  | read, pads, c :: rest =>
    if c = '=' then
      if 2 ≤ read % 4 ∧ 4 ≤ read % 4 + pads + 1 then some [] else digitsToPadding read (pads + 1) rest
    else
      match base64Digits.idxOf? c with
      | some d => (digitsToPadding (read + 1) 0 rest).map (d :: ·)
      | none => digitsToPadding read pads rest

/-- Bytes, written to the base sixty-four. -/
def binaryDatum (s : String) : Except Fault Datum :=
  if s.toList.any fun c => 128 ≤ c.toNat then malformed
  else
    match (digitsToPadding 0 0 s.toList).bind bytesOfDigits with
    | some bs => .ok (.binary ⟨bs.toArray⟩)
    | none => malformed

/-- A scalar by its kind. -/
def scalarDatum (kind : Kind) (s : String) : Except Fault Datum :=
  match kind with
  | .null => .ok .null
  | .truth => truthDatum s
  | .integer => integerDatum s
  | .real => realDatum s
  | .binary => binaryDatum s
  | .moment => momentDatum s
  | .text => .ok (.text s)
  | .orderedMap | .pairs | .set | .sequence | .mapping | .merge | .default | .unknown _ => malformed

/-! ## Mappings -/

/-- The kind of a node. -/
def Node.kind : Node → Kind
  | .scalar kind _ | .sequence kind _ | .mapping kind _ => kind
  | .enclosing => .mapping

/-- The default value of a mapping that stands where a scalar is expected. -/
def defaultText (kind : Kind) (entries : List (Node × Node)) : Except Fault Datum :=
  match entries.find? fun e => e.1.kind = .default with
  | some (_, .scalar _ s) => scalarDatum kind s
  | _ => malformed

/-- The entries of a mapping with those of others merged in before its own. Of several mappings to be merged
the first counts most, so it comes last. -/
def flattened : (fuel : Nat) → List (Node × Node) → Except Fault (List (Node × Node))
  | 0, _ => malformed
  | fuel + 1, entries => do
    let merged ← (entries.filter fun e => e.1.kind = .merge).mapM fun e =>
      match e.2 with
      | .mapping _ es => flattened fuel es
      | .sequence _ items => do
        let all ← items.mapM fun item =>
          match item with
          | .mapping _ es => flattened fuel es
          | _ => malformed
        return all.reverse.flatten
      | _ => malformed
    return merged.flatten ++ entries.filter fun e => e.1.kind ≠ .merge

/-- A key. The key of a default value is a text like any other. -/
def keyNode : Node → Node
  | .scalar .default s => .scalar .text s
  | n => n

/-! ## Nodes -/

/-- The single entry of a mapping. -/
def singleEntry : Node → Except Fault (Node × Node)
  | .mapping _ [e] => .ok e
  | _ => malformed

/-- A node as data. -/
def Node.toDatum : (fuel : Nat) → Node → Except Fault Datum
  | 0, _ => malformed
  | _, .enclosing => .ok (.list [])
  | _, .scalar kind s => scalarDatum kind s
  | fuel + 1, .sequence kind items =>
    match kind with
    | .sequence => do return .list (← items.mapM (toDatum fuel))
    | .orderedMap | .pairs => do
      let entries ← items.mapM singleEntry
      let pairs ← entries.mapM fun e => do
        return Datum.list [← toDatum fuel e.1, ← toDatum fuel e.2]
      return .list pairs
    | _ => malformed
  | fuel + 1, .mapping kind entries =>
    match kind with
    | .mapping | .set => do
      let entries ← flattened (fuel + 1) entries
      let pairs ← entries.mapM fun e => do
        let k ← toDatum fuel (keyNode e.1)
        if !k.isKey then malformed
        else
          let v ← toDatum fuel e.2
          return (k, v)
      return if kind = .set then .set (pairs.map (·.1)) else .map pairs
    | .sequence | .orderedMap | .pairs | .merge | .default | .unknown _ => malformed
    | kind => defaultText kind entries

/-! ## Texts -/

/-- Whether a character may stand in a text. -/
def isAllowed (c : Char) : Bool :=
  let n := c.toNat
  n = 9 || n = 10 || n = 13 || (0x20 ≤ n && n ≤ 0x7e) || n = 0x85 || (0xa0 ≤ n && n ≤ 0xfffd) || 0x10000 ≤ n

/-- The data of a text; none if the text holds no document. -/
def load (s : String) : Except Fault (Option Datum) := do
  let cs := s.toList
  if !cs.all isAllowed then malformed
  else
    let ts ← tokens cs
    match ← document? ts with
    | none => return none
    | some n => return some (← n.toDatum (ts.length + 2))

end Steward.Markup
