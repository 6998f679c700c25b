import Steward.Keyed
import Steward.Text.Blank

/-!
# Files of variables

A file of variables has one `NAME=value` in a line. Values may be quoted; a value may refer to variables that
stand before it and to those of the surroundings. Lines that cannot be read are passed over.

## Contents

* `Binding` — one line;
* `insideQuotes`, `plainValue` — values;
* `binding?`, `bindings` — the lines of a file;
* `resolved` — a value with its references replaced;
* `Variables.ofFile` — the variables of a file.
-/

namespace Steward.Variables

/-- A line: a name, and a value if there is an equals sign. -/
structure Binding where
  name : String
  value : Option String
  deriving DecidableEq, Inhabited

/-- Whether a character separates words inside a line. -/
def isLineSpace (c : Char) : Bool :=
  Text.isSpace c && c ≠ '\n' && c ≠ '\r'

/-- Whether a character ends a line. -/
def isLineEnd (c : Char) : Bool :=
  c = '\n' || c = '\r'

/-! ## Values -/

/-- What stands before the first quote that no backslash precedes, and what stands after it. -/
def upToBareQuote (quote : Char) : (escaped : Bool) → List Char → Option (List Char × List Char)
  | _, [] => none
  | escaped, c :: rest =>
    if c = quote ∧ !escaped then some ([], rest)
    else (upToBareQuote quote (c = '\\') rest).map fun (before, after) => (c :: before, after)

/-- What stands before the last quote, and what stands after it. -/
def upToLastQuote (quote : Char) (cs : List Char) : Option (List Char × List Char) :=
  match cs.reverse.span (· ≠ quote) with
  | (_, []) => none
  | (after, _ :: before) => some (before.reverse, after.reverse)

/-- The inside of quotes: up to the first quote without a backslash before it, or, if there is none, up to the
last one. -/
def insideQuotes (quote : Char) (cs : List Char) : Option (List Char × List Char) :=
  (upToBareQuote quote false cs).or (upToLastQuote quote cs)

/-- What a backslash and a character stand for between double quotes. -/
def doubleEscapes : List (Char × Nat) :=
  [('\\', 92), (Char.ofNat 39, 39), ('"', 34), ('a', 7), ('b', 8), ('f', 12), ('n', 10), ('r', 13), ('t', 9),
   ('v', 11)]

/-- What a backslash and a character stand for between single quotes. -/
def singleEscapes : List (Char × Nat) :=
  [('\\', 92), (Char.ofNat 39, 39)]

/-- A value with its escapes replaced. Other backslashes stand for themselves. -/
def unescaped (escapes : List (Char × Nat)) : List Char → List Char
  | '\\' :: c :: rest =>
    match escapes.lookup c with
    | some n => Char.ofNat n :: unescaped escapes rest
    | none => '\\' :: unescaped escapes (c :: rest)
  | c :: rest => c :: unescaped escapes rest
  | [] => []

/-- A value without the comment that a space and a number sign start. -/
def withoutComment : List Char → List Char
  | [] => []
  | c :: rest =>
    if Text.isSpace c && (rest.dropWhile Text.isSpace).head? = some '#' then [] else c :: withoutComment rest

/-- A value without quotes: the rest of the line without a comment and without spaces at its end. -/
def plainValue (cs : List Char) : List Char × List Char :=
  let line := cs.takeWhile fun c => !isLineEnd c
  let kept := ((withoutComment line).reverse.dropWhile Text.isSpace).reverse
  (kept, cs.drop line.length)

/-- A value at the start of a text, and what follows it; nothing, and where reading stopped, if its quote is
not closed. -/
def valueAt (cs : List Char) : Except (List Char) (List Char × List Char) :=
  match cs with
  | [] => .ok ([], [])
  | c :: rest =>
    if c.toNat = 39 then
      match insideQuotes c rest with
      | some (inside, after) => .ok (unescaped singleEscapes inside, after)
      | none => .error cs
    else if c = '"' then
      match insideQuotes c rest with
      | some (inside, after) => .ok (unescaped doubleEscapes inside, after)
      | none => .error cs
    else if isLineEnd c then .ok ([], cs)
    else .ok (plainValue cs)

/-! ## Lines -/

/-- A name at the start of a text, and what follows it. A comment has no name. -/
def nameAt (cs : List Char) : Except (List Char) (Option (List Char) × List Char) :=
  match cs with
  | '#' :: _ => .ok (none, cs)
  | c :: rest =>
    if c.toNat = 39 then
      let name := rest.takeWhile (· ≠ c)
      match rest.drop name.length with
      | _ :: after => if name.isEmpty then .error cs else .ok (some name, after)
      | [] => .error cs
    else
      let name := cs.takeWhile fun c => c ≠ '=' && c ≠ '#' && !Text.isSpace c
      if name.isEmpty then .error cs else .ok (some name, cs.drop name.length)
  | [] => .error cs

/-- The word that may stand before a name, left out. -/
def withoutExport (cs : List Char) : List Char :=
  if "export".toList.isPrefixOf cs && ((cs.drop 6).head?.any isLineSpace) then
    (cs.drop 6).dropWhile isLineSpace
  else cs

/-- What follows the end of a line; nothing, and where reading stopped, if the line does not end here. -/
def afterLine (cs : List Char) : Except (List Char) (List Char) :=
  let rest := cs.dropWhile isLineSpace
  let rest := if rest.head? = some '#' then rest.dropWhile fun c => !isLineEnd c else cs
  match rest.dropWhile isLineSpace with
  | [] => .ok []
  | c :: after => if isLineEnd c then .ok after else .error rest

/-- One line at the start of a text, and what follows it; where reading stopped, if it cannot be read. -/
def binding? (cs : List Char) : Except (List Char) (Option Binding × List Char) := do
  let (name, cs) ← nameAt (withoutExport cs)
  let cs := cs.dropWhile isLineSpace
  match cs with
  | '=' :: rest =>
    let (value, cs) ← valueAt (rest.dropWhile isLineSpace)
    let cs ← afterLine cs
    return (name.map fun n => ⟨String.ofList n, some (String.ofList value)⟩, cs)
  | cs =>
    let cs ← afterLine cs
    return (name.map fun n => ⟨String.ofList n, none⟩, cs)

/-- What follows the line that is here. -/
def nextLine (cs : List Char) : List Char :=
  (cs.dropWhile fun c => !isLineEnd c).drop 1

/-- The lines of a text. -/
def bindings : (fuel : Nat) → List Char → List Binding
  | 0, _ => []
  | fuel + 1, cs =>
    match cs.dropWhile Text.isSpace with
    | [] => []
    | cs =>
      match binding? cs with
      | .ok (some b, rest) => b :: bindings fuel rest
      | .ok (none, rest) => bindings fuel rest
      | .error stopped => bindings fuel (nextLine stopped)

/-! ## References -/

/-- A reference at the start of a text, after the dollar sign: its name, what stands for a variable that is
not there, and what follows it. -/
def referenceAt (cs : List Char) : Option ((List Char × List Char) × List Char) :=
  match cs with
  | c :: rest =>
    if c.toNat ≠ 0x7b then none
    else
      let name := rest.takeWhile fun c => c.toNat ≠ 0x7d && c ≠ ':'
      match rest.drop name.length with
      | ':' :: '-' :: rest =>
        let substitute := rest.takeWhile fun c => c.toNat ≠ 0x7d
        match rest.drop substitute.length with
        | _ :: after => some ((name, substitute), after)
        | [] => none
      | ':' :: _ => none
      | _ :: after => some ((name, []), after)
      | [] => none
  | [] => none

/-- A value with its references replaced. -/
def resolved (known : String → Option String) : (fuel : Nat) → List Char → List Char
  | 0, _ => []
  | _, [] => []
  | fuel + 1, c :: rest =>
    match if c = '$' then referenceAt rest else none with
    | some ((name, substitute), after) =>
      match known (String.ofList name) with
      | some s => s.toList ++ resolved known fuel after
      | none => substitute ++ resolved known fuel after
    | none => c :: resolved known fuel rest

/-- The value of a variable among those read so far, or else among those of the surroundings. A name without
value hides that of the surroundings, and has no text. -/
def known (surroundings : List (String × String)) (read : List (String × Option String)) (name : String) :
    Option String :=
  match read.lookup name with
  | some value => some (value.getD "")
  | none => surroundings.lookup name

/-- The variables of some lines, after those read so far. -/
def assigned (surroundings : List (String × String)) :
    (read : List (String × Option String)) → List Binding → List (String × Option String)
  | read, [] => read
  | read, b :: rest =>
    let value := b.value.map fun v =>
      String.ofList (resolved (known surroundings read) (v.length + 1) v.toList)
    assigned surroundings (Keyed.put read b.name value) rest

/-- The variables of a file, in the order in which their names come. A name that comes again has its last
value. -/
def ofFile (surroundings : List (String × String)) (content : String) : List (String × Option String) :=
  let cs := Text.normalLines content.toList
  assigned surroundings [] (bindings (cs.length + 1) cs)

end Steward.Variables
