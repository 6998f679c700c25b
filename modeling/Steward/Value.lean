import Steward.Keyed
import Steward.Number
import Steward.Text.Quoted

/-!
# Document values

What a configuration file, an environment or a payload of the platform holds before anything is known about
its shape.

## Contents

* `Value` — the values; the entries of a map keep their order;
* `Value.lookup`, `Value.put` — one entry of a map's entries, read and written;
* `Value.inner`, `Value.display` — a value as text, inside a container and on its own.
-/

namespace Steward

/-- A document value. A `moment` is a date that a document writes without quotes. -/
inductive Value where
  | null
  | bool (b : Bool)
  | int (n : Int)
  | real (x : Binary64)
  | text (s : String)
  | bytes (bs : ByteArray)
  | moment (written : String)
  | list (items : List Value)
  | map (entries : List (String × Value))
  deriving Inhabited

namespace Value

/-- The value under a key. -/
def lookup (entries : List (String × Value)) (key : String) : Option Value :=
  List.lookup key entries

/-- Entries with a value put under a key: in place of the old value, or at the end. -/
def put (entries : List (String × Value)) (key : String) (v : Value) : List (String × Value) :=
  Keyed.put entries key v

/-! ## Values as text -/

/-- The most digits of an integer that is written out. -/
def longestInteger : Nat := 4300

/-- An integer in digits, unless there are too many of them. -/
def integerText (n : Int) : Option String :=
  if longestInteger < (Decimal.ofNat n.natAbs).length then none else some (Decimal.text n)

/-- A byte of a quoted byte string. -/
def quotedByte (quote : Char) (b : UInt8) : List Char :=
  let c := Char.ofNat b.toNat
  if b.toNat < 128 then Text.escaped quote c else '\\' :: 'x' :: Text.hexDigits 2 b.toNat

/-- Bytes in quoted form. -/
def quotedBytes (bs : ByteArray) : String :=
  let quote := Text.quoteOf (bs.toList.map fun b => Char.ofNat b.toNat)
  String.ofList ('b' :: quote :: (bs.toList.flatMap (quotedByte quote) ++ [quote]))

mutual

/-- A value as it stands inside a container; none if it holds an integer with too many digits. -/
def inner : Value → Option String
  | .null => some "None"
  | .bool b => some (if b then "True" else "False")
  | .int n => integerText n
  | .real x => some (Binary64.write Number.plain x)
  | .text s => some (Text.quoted s)
  | .bytes bs => some (quotedBytes bs)
  | .moment written => some written
  | .list items => (innerItems items).map fun ts => "[" ++ ", ".intercalate ts ++ "]"
  | .map entries => (innerEntries entries).map fun ts => "\x7b" ++ ", ".intercalate ts ++ "\x7d"

/-- The items of a list, each as it stands inside a container. -/
def innerItems : List Value → Option (List String)
  | [] => some []
  | v :: rest => do
    let t ← inner v
    let ts ← innerItems rest
    return t :: ts

/-- The entries of a map, each as it stands inside a container. -/
def innerEntries : List (String × Value) → Option (List String)
  | [] => some []
  | (key, v) :: rest => do
    let t ← inner v
    let ts ← innerEntries rest
    return (Text.quoted key ++ ": " ++ t) :: ts

end

/-- A value on its own as text: a text stands for itself, anything else as inside a container. -/
def display : Value → Option String
  | .text s => some s
  | v => inner v

end Value

end Steward
