import Steward.Text.CaseTable

/-!
# Upper and lower case

The case of a text follows the full mappings of the character set, so one character may become several
(the sharp s becomes two letters) and a text may change its length. ASCII characters are answered without
the tables.

## Contents

* `upper` — every character replaced by its upper-case counterpart;
* `lower` — every character replaced by its lower-case counterpart, where a capital sigma that ends a word
  becomes the final form of the letter.
-/

namespace Steward.Text

/-- The counterpart of a code point in a pair of tables, or the code point itself. -/
def mapped (runs : List CaseRun) (wide : List (Nat × List Nat)) (c : Nat) : List Char :=
  match wide.lookup c with
  | some cs => cs.map Char.ofNat
  | none =>
    match runs.find? (·.holds c) with
    | some r => [Char.ofNat ((c : Int) + r.shift).toNat]
    | none => [Char.ofNat c]

/-- The upper-case counterpart of a character. -/
def upperChar (c : Char) : List Char :=
  if c.toNat < 128 then [c.toUpper] else mapped upperRuns upperWide c.toNat

/-- A text in upper case. -/
def upper (s : String) : String :=
  String.ofList (s.toList.flatMap upperChar)

/-- Whether the character is passed over when case is looked for around a sigma. -/
def isCaseIgnorable (c : Char) : Bool :=
  inRanges caseIgnorableRanges c.toNat

/-- Whether the first character that counts has case. -/
def startsCased (cs : List Char) : Bool :=
  match cs.dropWhile isCaseIgnorable with
  | [] => false
  | c :: _ => inRanges casedRanges c.toNat

/-- The capital letter sigma. -/
def capitalSigma : Char := Char.ofNat 0x3a3

/-- The lower-case counterpart of a character, given what stands before it (nearest first) and after it:
a capital sigma takes its final form after a cased letter when no cased letter follows. -/
def lowerChar (before : List Char) (c : Char) (after : List Char) : List Char :=
  if c.toNat < 128 then [c.toLower]
  else if c = capitalSigma then
    [Char.ofNat (if startsCased before && !startsCased after then 0x3c2 else 0x3c3)]
  else mapped lowerRuns lowerWide c.toNat

/-- Lower case of the rest of a text, given what was read of it (nearest first). -/
def lowerAfter (before : List Char) : List Char → List Char
  | [] => []
  | c :: rest => lowerChar before c rest ++ lowerAfter (c :: before) rest

/-- A text in lower case. -/
def lower (s : String) : String :=
  String.ofList (lowerAfter [] s.toList)

end Steward.Text
