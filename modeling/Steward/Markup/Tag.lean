import Steward.Markup.Scalar

/-!
# Names in a document

## Contents

* `anchorName` — the name of an anchor or an alias;
* `TagName`, `tagName` — a tag: a handle and a suffix;
* `Directive`, `directive` — lines that set up a document.
-/

namespace Steward.Markup

/-- Characters of names. -/
def isNameChar (c : Char) : Bool :=
  ('0' ≤ c && c ≤ '9') || ('A' ≤ c && c ≤ 'Z') || ('a' ≤ c && c ≤ 'z') || c = '-' || c = '_'

/-- What may follow the name of an anchor. -/
def endsAnchor (c : Option Char) : Bool :=
  isGap c || c.any fun c => c = '?' || c = ':' || c = ',' || c = ']' || c.toNat = 0x7d || c = '%' || c = '@'
    || c.toNat = 0x60

/-- The name of an anchor or an alias, from its mark on. -/
def anchorName (c : Cursor) : Except Fault (String × Cursor) :=
  let (name, c) := c.step.span isNameChar
  if name.isEmpty || !endsAnchor c.peek then malformed else .ok (String.ofList name, c)

/-! ## Tags -/

/-- Characters of tags apart from letters and digits. -/
def addressMarks : List Char := "-;/?:@&=+$,_.!~*()[]%".toList ++ [Char.ofNat 39]

/-- Whether a character may stand in a tag. -/
def isAddressChar (c : Char) : Bool :=
  isNameChar c || addressMarks.contains c

/-- The bytes of a run of escapes in a tag. -/
def addressEscapes : (fuel : Nat) → Cursor → Except Fault (List UInt8 × Cursor)
  | 0, c => .ok ([], c)
  | fuel + 1, c =>
    if c.peek = some '%' then do
      let digits := c.step.rest.take 2
      match hexNumber? digits with
      | some n =>
        if digits.length < 2 then malformed
        else
          let (bs, c) ← addressEscapes fuel (c.advance 3)
          return (n.toUInt8 :: bs, c)
      | none => malformed
    else .ok ([], c)

/-- The text of a tag, its escapes read as the encoding of text. -/
def addressText : (fuel : Nat) → Cursor → Except Fault (List Char × Cursor)
  | 0, c => .ok ([], c)
  | fuel + 1, c => do
    let (plain, c) := c.span fun ch => isAddressChar ch && ch ≠ '%'
    if c.peek = some '%' then
      let (bytes, c) ← addressEscapes fuel c
      match String.fromUTF8? ⟨bytes.toArray⟩ with
      | none => malformed
      | some s =>
        let (more, c) ← addressText fuel c
        return (plain ++ s.toList ++ more, c)
    else return (plain, c)

/-- The text of a tag, which must not be empty. -/
def address (c : Cursor) : Except Fault (String × Cursor) := do
  let (cs, after) ← addressText (c.rest.length + 1) c
  if after.index = c.index then malformed else return (String.ofList cs, after)

/-- The handle of a tag: an exclamation mark alone, or a name between two. -/
def tagHandle (c : Cursor) : Except Fault (String × Cursor) :=
  if c.peek ≠ some '!' then malformed
  else if c.at? 1 = some ' ' then .ok ("!", c.step)
  else
    let (name, after) := c.step.span isNameChar
    if after.peek = some '!' then .ok (String.ofList ('!' :: name ++ ['!']), after.step) else malformed

/-- A tag as it is written: a handle, unless the tag is written out, and a suffix. -/
structure TagName where
  handle : Option String
  suffix : String
  deriving DecidableEq, Inhabited

/-- Whether a tag has a handle that is a name. -/
def hasHandle (cs : List Char) : Bool :=
  (cs.takeWhile fun c => !endsWord (some c)).contains '!'

/-- A tag, from its mark on. -/
def tagName (c : Cursor) : Except Fault (TagName × Cursor) := do
  let next := c.at? 1
  let (name, c) ←
    if next = some '<' then do
      let (suffix, c) ← address (c.advance 2)
      if c.peek = some '>' then pure (TagName.mk none suffix, c.step) else malformed
    else if isGap next then pure (TagName.mk none "!", c.step)
    else do
      let (handle, c) ← if hasHandle c.step.rest then tagHandle c else pure ("!", c.step)
      let (suffix, c) ← address c
      pure (TagName.mk (some handle) suffix, c)
  if endsWord c.peek then return (name, c) else malformed

/-! ## Directives -/

/-- A line that sets up a document. -/
inductive Directive where
  | version (major : Nat)
  | tags (handle replacement : String)
  | unknown
  deriving DecidableEq, Inhabited

/-- A number in a directive. -/
def directiveNumber (c : Cursor) : Except Fault (Nat × Cursor) :=
  let (ds, c) := c.span Decimal.isDigit
  if ds.isEmpty then malformed else .ok (Decimal.value ds, c)

/-- The version that a directive gives. -/
def versionDirective (c : Cursor) : Except Fault (Directive × Cursor) := do
  let (major, c) ← directiveNumber (c.skip (· = ' '))
  if c.peek ≠ some '.' then malformed
  else
    let (_, c) ← directiveNumber c.step
    if endsWord c.peek then return (.version major, c) else malformed

/-- The replacement for a handle that a directive gives. -/
def tagDirective (c : Cursor) : Except Fault (Directive × Cursor) := do
  let (handle, c) ← tagHandle (c.skip (· = ' '))
  if c.peek ≠ some ' ' then malformed
  else
    let (replacement, c) ← address (c.skip (· = ' '))
    if endsWord c.peek then return (.tags handle replacement, c) else malformed

/-- A directive, from its mark on. -/
def directive (c : Cursor) : Except Fault (Directive × Cursor) := do
  let (name, c) := c.step.span isNameChar
  if name.isEmpty || !endsWord c.peek then malformed
  else
    let (d, c) ←
      match String.ofList name with
      | "YAML" => versionDirective c
      | "TAG" => tagDirective c
      | _ => pure (Directive.unknown, c.skip fun ch => !isBreak ch)
    let c ← ignoredLine c
    return (d, c)

end Steward.Markup
