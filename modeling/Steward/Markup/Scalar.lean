import Steward.Decimal.Digits
import Steward.Markup.Cursor

/-!
# Scalars as they are written

A scalar is written plain, between quotes, or as a block of lines. Lines are joined by rules that differ
between the three forms.

## Contents

* `quotedScalar` — between quotes, with escapes in double quotes;
* `blockScalar` — lines after a header that tells how they end and how far they are indented;
* `plainScalar` — without any mark.
-/

namespace Steward.Markup

/-! ## Hexadecimal numbers -/

/-- The value of a hexadecimal digit. -/
def hexValue? (c : Char) : Option Nat :=
  if '0' ≤ c && c ≤ '9' then some (c.toNat - 48)
  else if 'a' ≤ c && c ≤ 'f' then some (c.toNat - 87)
  else if 'A' ≤ c && c ≤ 'F' then some (c.toNat - 55)
  else none

/-- The number that hexadecimal digits name. -/
def hexNumber? (cs : List Char) : Option Nat :=
  cs.foldl (fun n c => do return 16 * (← n) + (← hexValue? c)) (some 0)

/-! ## Quoted scalars -/

/-- Characters that an escape of one letter stands for. -/
def escapes : List (Char × Nat) :=
  [('0', 0), ('a', 7), ('b', 8), ('t', 9), ('\t', 9), ('n', 10), ('v', 11), ('f', 12), ('r', 13), ('e', 27),
   (' ', 32), ('"', 34), ('\\', 92), ('/', 47), ('N', 0x85), ('_', 0xa0), ('L', 0x2028), ('P', 0x2029)]

/-- How many hexadecimal digits follow the letter of an escape. -/
def escapeLengths : List (Char × Nat) :=
  [('x', 2), ('u', 4), ('U', 8)]

/-- The character of a code point; a code point without character has a substitute. -/
def charOf (n : Nat) : Except Fault Char :=
  if 0x10ffff < n then .error (.unreadableScalar .value "chr() arg not in range(0x110000)")
  else .ok (if 0xd800 ≤ n && n < 0xe000 then Char.ofNat 0xfffd else Char.ofNat n)

/-- The line ends after a line end inside quotes; spaces around them do not count. -/
def quotedBreaks : (fuel : Nat) → Cursor → Except Fault (List Char × Cursor)
  | 0, _ => malformed
  | fuel + 1, c =>
    if c.atSeparator then malformed
    else
      let c := c.skip isBlank
      match c.lineBreak with
      | ([], c) => .ok ([], c)
      | (b, c) => do
        let (bs, c) ← quotedBreaks fuel c
        return (b ++ bs, c)

/-- Line ends inside quotes: a single one becomes a space, of several the first is dropped. -/
def folded (first later : List Char) : List Char :=
  (if first ≠ ['\n'] then first else if later.isEmpty then [' '] else []) ++ later

/-- The character of an escape, or the line ends that follow an escaped one. -/
def escaped (fuel : Nat) (c : Cursor) : Except Fault (List Char × Cursor) :=
  match c.peek with
  | none => malformed
  | some letter =>
    match escapes.lookup letter, escapeLengths.lookup letter with
    | some n, _ => .ok ([Char.ofNat n], c.step)
    | none, some length =>
      let digits := c.step.rest.take length
      match hexNumber? digits with
      | some n =>
        if digits.length < length then malformed
        else (charOf n).map fun ch => ([ch], c.step.advance length)
      | none => malformed
    | none, none => if isBreak letter then quotedBreaks fuel c.lineBreak.2 else malformed

/-- The text up to the closing quote. -/
def quotedText (double : Bool) : (fuel : Nat) → Cursor → Except Fault (List Char × Cursor)
  | 0, _ => malformed
  | fuel + 1, c => do
    let quote := if double then '"' else Char.ofNat 39
    match c.peek with
    | none => malformed
    | some ch =>
      if ch = quote then
        if !double && c.at? 1 = some quote then
          let (cs, c) ← quotedText double fuel (c.advance 2)
          return (quote :: cs, c)
        else return ([], c.step)
      else if double && ch = '\\' then
        let (es, c) ← escaped fuel c.step
        let (cs, c) ← quotedText double fuel c
        return (es ++ cs, c)
      else if isBlank ch || isBreak ch then
        let (blanks, c) := c.span isBlank
        match c.lineBreak with
        | ([], c) =>
          let (cs, c) ← quotedText double fuel c
          return (blanks ++ cs, c)
        | (b, c) =>
          let (bs, c) ← quotedBreaks fuel c
          let (cs, c) ← quotedText double fuel c
          return (folded b bs ++ cs, c)
      else
        let (cs, c) ← quotedText double fuel c.step
        return (ch :: cs, c)

/-- A scalar between quotes, from its opening quote on. -/
def quotedScalar (double : Bool) (c : Cursor) : Except Fault (List Char × Cursor) :=
  quotedText double (c.rest.length + 1) c.step

/-! ## Block scalars -/

/-- What becomes of the line ends at the end of a block. -/
inductive Chomping where
  | strip
  | clip
  | keep
  deriving DecidableEq

/-- Chomping as it is written. -/
def chompingOf (c : Option Char) : Option Chomping :=
  if c = some '+' then some .keep else if c = some '-' then some .strip else none

/-- An indentation as it is written: one digit, not zero. -/
def indentationOf (c : Option Char) : Option Nat :=
  (c.filter Decimal.isDigit).map Decimal.digitValue

/-- The header of a block: chomping and indentation, in either order. -/
def blockHeader (c : Cursor) : Except Fault ((Chomping × Option Nat) × Cursor) :=
  let (chomping, indentation, after) :=
    match chompingOf c.peek, indentationOf c.peek with
    | some chomping, _ =>
      match indentationOf c.step.peek with
      | some n => (chomping, some n, c.advance 2)
      | none => (chomping, none, c.step)
    | none, some n =>
      match chompingOf c.step.peek with
      | some chomping => (chomping, some n, c.advance 2)
      | none => (.clip, some n, c.step)
    | none, none => (.clip, none, c)
  if indentation = some 0 || !endsWord after.peek then malformed else .ok ((chomping, indentation), after)

/-- The rest of a line that may hold a comment and nothing else. -/
def ignoredLine (c : Cursor) : Except Fault Cursor :=
  let c := (c.skip (· = ' ')).skipComment
  if endsLine c.peek then .ok c.lineBreak.2 else malformed

/-- The blank lines at the start of a block, and the widest indentation among them. -/
def leadingLines : (fuel widest : Nat) → Cursor → (List Char × Nat) × Cursor
  | 0, widest, c => (([], widest), c)
  | fuel + 1, widest, c =>
    if c.peek = some ' ' then
      let c := c.step
      leadingLines fuel (max widest c.column) c
    else
      match c.lineBreak with
      | ([], c) => (([], widest), c)
      | (b, c) =>
        let ((bs, widest), c) := leadingLines fuel widest c
        ((b ++ bs, widest), c)

/-- Moves over spaces up to a column. -/
def indentTo (column : Nat) (c : Cursor) : Cursor :=
  c.advance (min (column - c.column) (c.rest.takeWhile (· = ' ')).length)

/-- The blank lines up to the next line of a block. -/
def blankLines (column : Nat) : (fuel : Nat) → Cursor → List Char × Cursor
  | 0, c => ([], c)
  | fuel + 1, c =>
    let c := indentTo column c
    match c.lineBreak with
    | ([], c) => ([], c)
    | (b, c) =>
      let (bs, c) := blankLines column fuel c
      (b ++ bs, c)

/-- The lines of a block: their text, the last line end, and the blank lines after it. -/
def blockLines (folding : Bool) (column : Nat) :
    (fuel : Nat) → (blanks : List Char) → Cursor → (List Char × List Char × List Char) × Cursor
  | 0, blanks, c => (([], [], blanks), c)
  | fuel + 1, blanks, c =>
    if c.column ≠ column || c.rest.isEmpty then (([], [], blanks), c)
    else
      let indented := c.peek.any isBlank
      let (text, c) := c.span fun ch => !isBreak ch
      let (lineEnd, c) := c.lineBreak
      let (later, c) := blankLines column fuel c
      if c.column = column && !c.rest.isEmpty then
        let join :=
          if folding && lineEnd = ['\n'] && !indented && !c.peek.any isBlank then
            if later.isEmpty then [' '] else []
          else lineEnd
        let ((more, lastEnd, left), c) := blockLines folding column fuel later c
        ((blanks ++ text ++ join ++ more, lastEnd, left), c)
      else ((blanks ++ text, lineEnd, later), c)

/-- A block scalar, from its mark on, inside a block at an indentation. -/
def blockScalar (folding : Bool) (indent : Int) (c : Cursor) : Except Fault (List Char × Cursor) := do
  let fuel := c.rest.length + 1
  let ((chomping, given), c) ← blockHeader c.step
  let c ← ignoredLine c
  let least := (max 1 (indent + 1)).toNat
  let ((blanks, column), c) :=
    match given with
    | none =>
      let ((blanks, widest), c) := leadingLines fuel 0 c
      ((blanks, max least widest), c)
    | some n =>
      let column := least + n - 1
      let (blanks, c) := blankLines column fuel c
      ((blanks, column), c)
  let ((text, lastEnd, left), c) := blockLines folding column fuel blanks c
  let tail := match chomping with
    | .strip => []
    | .clip => lastEnd
    | .keep => lastEnd ++ left
  return (text ++ tail, c)

/-! ## Plain scalars -/

/-- Characters that end a plain scalar inside brackets. -/
def flowMarks : List Char := [',', '?', '[', ']', Char.ofNat 0x7b, Char.ofNat 0x7d]

/-- Whether a colon before a character ends a plain scalar. -/
def colonEnds (inFlow : Bool) (next : Option Char) : Bool :=
  isGap next || (inFlow && next.any fun c =>
    c = ',' || c = '[' || c = ']' || c.toNat = 0x7b || c.toNat = 0x7d)

/-- The length of a run of a plain scalar. -/
def plainRun (inFlow : Bool) : List Char → Nat
  | [] => 0
  | c :: rest =>
    if isGap (some c) || (c = ':' && colonEnds inFlow rest.head?) || (inFlow && flowMarks.contains c) then 0
    else plainRun inFlow rest + 1

/-- The line ends after a line end in a plain scalar; none if a mark between documents comes. -/
def plainBreaks : (fuel : Nat) → Cursor → Option (List Char) × Cursor
  | 0, c => (some [], c)
  | fuel + 1, c =>
    let c := c.skip (· = ' ')
    match c.lineBreak with
    | ([], c) => (some [], c)
    | (b, c) =>
      if c.atSeparator then (none, c)
      else
        let (bs, c) := plainBreaks fuel c
        (bs.map (b ++ ·), c)

/-- What stands between two runs of a plain scalar: the blanks, whether a line ended, and the place after. -/
def plainGap (fuel : Nat) (c : Cursor) : (List Char × Bool) × Cursor :=
  let (blanks, c) := c.span (· = ' ')
  match c.lineBreak with
  | ([], c) => ((blanks, false), c)
  | (b, c) =>
    if c.atSeparator then (([], true), c)
    else
      match plainBreaks fuel c with
      | (none, c) => (([], true), c)
      | (some bs, c) => ((folded b bs, true), c)

/-- A plain scalar and whether a line ended last in or after it. -/
def plainText (inFlow : Bool) (indent : Int) :
    (fuel : Nat) → (lineEnded : Bool) → (gap : List Char) → Cursor → (List Char × Bool) × Cursor
  | 0, lineEnded, _, c => (([], lineEnded), c)
  | fuel + 1, lineEnded, gap, c =>
    let length := if c.peek = some '#' then 0 else plainRun inFlow c.rest
    if length = 0 then (([], lineEnded), c)
    else
      let run := gap ++ c.rest.take length
      let ((next, ended), after) := plainGap fuel (c.advance length)
      if next.isEmpty || after.peek = some '#' || (!inFlow && (after.column : Int) < indent) then
        ((run, ended), after)
      else
        let ((more, ended), c) := plainText inFlow indent fuel ended next after
        ((run ++ more, ended), c)

/-- A plain scalar inside a block at an indentation. -/
def plainScalar (inFlow : Bool) (indent : Int) (c : Cursor) : (List Char × Bool) × Cursor :=
  plainText inFlow (indent + 1) (c.rest.length + 1) false [] c

end Steward.Markup
