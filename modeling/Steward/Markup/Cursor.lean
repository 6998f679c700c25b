import Steward.Fault

/-!
# Places in a document

A cursor is what is left of a text and where in the text that is. Columns count characters since the last
line end; the mark that may open a text has no width.

## Contents

* `isBreak`, `isGap` — line ends, and what separates words;
* `Cursor` — a place; `peek`, `at?`, `advance`, `span` — looking and moving;
* `Cursor.lineBreak` — moving past a line end;
* `Cursor.atSeparator` — the marks between documents.
-/

namespace Steward.Markup

/-- Whether a character ends a line. -/
def isBreak (c : Char) : Bool :=
  c = '\n' || c = '\r' || c.toNat = 0x85 || c.toNat = 0x2028 || c.toNat = 0x2029

/-- Whether a character is a space or a tab. -/
def isBlank (c : Char) : Bool :=
  c = ' ' || c = '\t'

/-- Whether there is a line end, or nothing more. -/
def endsLine (c : Option Char) : Bool :=
  c.all isBreak

/-- Whether there is a space, a line end, or nothing more. -/
def endsWord (c : Option Char) : Bool :=
  c.all fun c => c = ' ' || isBreak c

/-- Whether there is a space, a tab, a line end, or nothing more. -/
def isGap (c : Option Char) : Bool :=
  c.all fun c => isBlank c || isBreak c

/-- The mark that may open a text. -/
def byteOrderMark : Char := Char.ofNat 0xfeff

/-- A place in a text. -/
structure Cursor where
  rest : List Char
  index : Nat
  line : Nat
  column : Nat
  deriving Inhabited

namespace Cursor

/-- The start of a text. -/
def start (cs : List Char) : Cursor := ⟨cs, 0, 0, 0⟩

/-- The next character. -/
def peek (c : Cursor) : Option Char :=
  c.rest.head?

/-- The character so many places on. -/
def at? (c : Cursor) (k : Nat) : Option Char :=
  c.rest[k]?

/-- The place after the next character. A line end of two characters ends the line with its second. -/
def step (c : Cursor) : Cursor :=
  match c.rest with
  | [] => c
  | ch :: rest =>
    if isBreak ch && !(ch = '\r' && rest.head? = some '\n') then ⟨rest, c.index + 1, c.line + 1, 0⟩
    else ⟨rest, c.index + 1, c.line, if ch = byteOrderMark then c.column else c.column + 1⟩

/-- The place so many characters on. -/
def advance (c : Cursor) : Nat → Cursor
  | 0 => c
  | n + 1 => c.step.advance n

/-- The characters from here on that have a property, and the place after them. -/
def span (c : Cursor) (p : Char → Bool) : List Char × Cursor :=
  let taken := c.rest.takeWhile p
  (taken, c.advance taken.length)

/-- The place after the characters that have a property. -/
def skip (c : Cursor) (p : Char → Bool) : Cursor :=
  (c.span p).2

/-- What a line end stands for, and the place after it; nothing if there is none here. -/
def lineBreak (c : Cursor) : List Char × Cursor :=
  match c.rest with
  | '\r' :: '\n' :: _ => (['\n'], c.advance 2)
  | ch :: _ =>
    if ch.toNat = 0x2028 || ch.toNat = 0x2029 then ([ch], c.step)
    else if isBreak ch then (['\n'], c.step)
    else ([], c)
  | [] => ([], c)

/-- Whether a mark between documents stands here: three dashes or three points, and nothing right after. -/
def atSeparator (c : Cursor) : Bool :=
  match c.rest with
  | '-' :: '-' :: '-' :: rest | '.' :: '.' :: '.' :: rest => isGap rest.head?
  | _ => false

/-- The place after a comment, if one stands here. -/
def skipComment (c : Cursor) : Cursor :=
  if c.peek = some '#' then c.skip fun ch => !isBreak ch else c

end Cursor

/-- The text is no document. -/
def malformed : Except Fault α := .error .notADocument

end Steward.Markup
