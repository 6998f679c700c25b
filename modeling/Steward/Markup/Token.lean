import Steward.Markup.Tag

/-!
# Tokens

A document is cut into tokens. Its structure shows in indentation, so the tokens of a block are opened and
closed by where lines start; and what is written before a colon turns out to be a key only when the colon
comes, so the token for a key is put in afterwards.

## Contents

* `Token` — the tokens;
* `Candidate` — what may turn out to be a key;
* `Lexer` — the state of cutting;
* the steps: `unwind`, `saveCandidate`, `next`;
* `tokens` — the tokens of a text.
-/

namespace Steward.Markup

/-- A token. -/
inductive Token where
  | directive (d : Directive)
  | documentStart
  | documentEnd
  | sequenceStart
  | mappingStart
  | blockEnd
  | openSequence
  | closeSequence
  | openMapping
  | closeMapping
  | entry
  | comma
  | key
  | value
  | alias (name : String)
  | anchor (name : String)
  | tag (name : TagName)
  | scalar (text : String) (plain : Bool)
  deriving DecidableEq, Inhabited

/-- Something that is a key if a colon follows: the number of its token and its place. It is `required` where
nothing but a key can stand. -/
structure Candidate where
  token : Nat
  required : Bool
  index : Nat
  line : Nat
  column : Nat
  deriving Inhabited

/-- The state of cutting a text into tokens. -/
structure Lexer where
  cursor : Cursor
  tokens : Array Token
  /-- The number of open brackets. -/
  depth : Nat
  indent : Int
  indents : List Int
  keyAllowed : Bool
  /-- At most one candidate for each number of open brackets. -/
  candidates : List (Nat × Candidate)
  deriving Inhabited

namespace Lexer

/-- The start of a text. -/
def start (cs : List Char) : Lexer :=
  { cursor := .start cs, tokens := #[], depth := 0, indent := -1, indents := [], keyAllowed := true,
    candidates := [] }

/-- Whether no bracket is open. -/
def inBlock (l : Lexer) : Bool := l.depth = 0

/-- Adds a token. -/
def push (l : Lexer) (t : Token) : Lexer :=
  { l with tokens := l.tokens.push t }

/-- Puts a token before the one of a number. -/
def insertAt (l : Lexer) (i : Nat) (t : Token) : Lexer :=
  { l with tokens := (l.tokens.toList.take i ++ t :: l.tokens.toList.drop i).toArray }

/-- Adds a token that takes so many characters. -/
def pushOver (l : Lexer) (t : Token) (n : Nat) : Lexer :=
  { l.push t with cursor := l.cursor.advance n }

/-! ## Indentation -/

/-- Closes the blocks that are indented further than a column. -/
def unwindTo (column : Int) : List Int → Lexer → Lexer
  | [], l => l
  | outer :: indents, l =>
    if column < l.indent then unwindTo column indents { l.push .blockEnd with indent := outer, indents }
    else l

/-- Closes the blocks that are indented further than a column. Inside brackets indentation does not count. -/
def unwind (l : Lexer) (column : Int) : Lexer :=
  if l.inBlock then unwindTo column l.indents l else l

/-- Opens a block at a column that is further in, with a token before the one of a number. -/
def openBlock (l : Lexer) (column i : Nat) (t : Token) : Lexer :=
  if l.indent < column then
    { l.insertAt i t with indents := l.indent :: l.indents, indent := column }
  else l

/-! ## Candidates for keys -/

/-- Drops a candidate, which must not be a required one. -/
def dropCandidate (l : Lexer) : Except Fault Lexer :=
  match l.candidates.lookup l.depth with
  | none => .ok l
  | some k => if k.required then malformed else .ok { l with candidates := Keyed.erase l.candidates l.depth }

/-- The longest a key may be. -/
def longestKey : Nat := 1024

/-- Whether a candidate cannot become a key any more: keys stand on one line and are not too long. -/
def isStale (l : Lexer) (k : Candidate) : Bool :=
  k.line ≠ l.cursor.line || longestKey < l.cursor.index - k.index

/-- Drops the candidates that cannot become keys any more. -/
def dropStale (l : Lexer) : Except Fault Lexer :=
  if l.candidates.any fun k => k.2.required && l.isStale k.2 then malformed
  else .ok { l with candidates := l.candidates.filter fun k => !l.isStale k.2 }

/-- Notes that what comes next may be a key. -/
def saveCandidate (l : Lexer) : Except Fault Lexer :=
  if l.keyAllowed then do
    let required := l.inBlock && l.indent = l.cursor.column
    let l ← l.dropCandidate
    let k : Candidate :=
      ⟨l.tokens.size, required, l.cursor.index, l.cursor.line, l.cursor.column⟩
    return { l with candidates := (l.depth, k) :: l.candidates }
  else .ok l

/-! ## Single tokens -/

/-- Moves to the next token: over blanks, comments and line ends. After a line end a key may stand again. -/
def toToken : (fuel : Nat) → Lexer → Lexer
  | 0, l => l
  | fuel + 1, l =>
    let c := (l.cursor.skip (· = ' ')).skipComment
    match c.lineBreak with
    | ([], c) => { l with cursor := c }
    | (_, c) => toToken fuel { l with cursor := c, keyAllowed := l.keyAllowed || l.inBlock }

/-- Moves over the mark that may open a text. -/
def skipMark (l : Lexer) : Lexer :=
  if l.cursor.index = 0 && l.cursor.peek = some byteOrderMark then { l with cursor := l.cursor.step } else l

/-- Closes everything before a mark between documents. -/
def endDocument (l : Lexer) : Except Fault Lexer := do
  let l ← (l.unwind (-1)).dropCandidate
  return { l with keyAllowed := false }

/-- Opens a bracket. -/
def openBracket (l : Lexer) (t : Token) : Except Fault Lexer := do
  let l ← l.saveCandidate
  return { l.pushOver t 1 with depth := l.depth + 1, keyAllowed := true }

/-- Closes a bracket. -/
def closeBracket (l : Lexer) (t : Token) : Except Fault Lexer := do
  let l ← l.dropCandidate
  return { l.pushOver t 1 with depth := l.depth - 1, keyAllowed := false }

/-- A comma. -/
def comma (l : Lexer) : Except Fault Lexer := do
  let l ← l.dropCandidate
  return { l.pushOver .comma 1 with keyAllowed := true }

/-- The dash before an entry of a sequence. -/
def entry (l : Lexer) : Except Fault Lexer := do
  if l.inBlock && !l.keyAllowed then malformed
  else
    let l := if l.inBlock then l.openBlock l.cursor.column l.tokens.size .sequenceStart else l
    let l ← l.dropCandidate
    return { l.pushOver .entry 1 with keyAllowed := true }

/-- The question mark before a key. -/
def explicitKey (l : Lexer) : Except Fault Lexer := do
  if l.inBlock && !l.keyAllowed then malformed
  else
    let l := if l.inBlock then l.openBlock l.cursor.column l.tokens.size .mappingStart else l
    let l ← l.dropCandidate
    return { l.pushOver .key 1 with keyAllowed := l.inBlock }

/-- The colon after a key. The candidate before it is a key now. -/
def value (l : Lexer) : Except Fault Lexer := do
  match l.candidates.lookup l.depth with
  | some k =>
    let l := { l with candidates := Keyed.erase l.candidates l.depth }.insertAt k.token .key
    let l := if l.inBlock then l.openBlock k.column k.token .mappingStart else l
    return { l.pushOver .value 1 with keyAllowed := false }
  | none =>
    if l.inBlock && !l.keyAllowed then malformed
    else
      let l := if l.inBlock then l.openBlock l.cursor.column l.tokens.size .mappingStart else l
      let l ← l.dropCandidate
      return { l.pushOver .value 1 with keyAllowed := l.inBlock }

/-- A token with a text, which may be a key. -/
def named (l : Lexer) (read : Cursor → Except Fault (Token × Cursor)) : Except Fault Lexer := do
  let l ← l.saveCandidate
  let (t, cursor) ← read l.cursor
  return { l.push t with cursor, keyAllowed := false }

/-- A scalar between quotes. -/
def quoted (l : Lexer) (double : Bool) : Except Fault Lexer :=
  l.named fun c => do
    let (cs, c) ← quotedScalar double c
    return (.scalar (String.ofList cs) false, c)

/-- A block scalar. After it a key may stand again. -/
def block (l : Lexer) (folding : Bool) : Except Fault Lexer := do
  let l ← l.dropCandidate
  let (cs, cursor) ← blockScalar folding l.indent l.cursor
  return { l.push (.scalar (String.ofList cs) false) with cursor, keyAllowed := true }

/-- A plain scalar. A key may stand after it if a line ended. -/
def plain (l : Lexer) : Except Fault Lexer := do
  let l ← l.saveCandidate
  let ((cs, lineEnded), cursor) := plainScalar (!l.inBlock) l.indent l.cursor
  return { l.push (.scalar (String.ofList cs) true) with cursor, keyAllowed := lineEnded }

/-- Characters that cannot start a plain scalar, except that some may before another character. -/
def plainBarred : List Char :=
  "-?:,[]#&*!|>\"%@".toList ++ [Char.ofNat 39, Char.ofNat 0x60, Char.ofNat 0x7b, Char.ofNat 0x7d]

/-- Whether a plain scalar starts here. -/
def startsPlain (l : Lexer) (ch : Char) : Bool :=
  if isGap (some ch) then false
  else if !plainBarred.contains ch then true
  else !isGap (l.cursor.at? 1) && (ch = '-' || (l.inBlock && (ch = '?' || ch = ':')))

/-- The next token, which starts with a character. -/
def token (l : Lexer) (ch : Char) : Except Fault Lexer :=
  let next := l.cursor.at? 1
  let atLineStart := l.cursor.column = 0
  if atLineStart && ch = '%' then do
    let l ← l.endDocument
    let (d, cursor) ← directive l.cursor
    return { l.push (.directive d) with cursor }
  else if atLineStart && l.cursor.atSeparator then do
    let l ← l.endDocument
    return l.pushOver (if ch = '-' then .documentStart else .documentEnd) 3
  else if ch = '[' then l.openBracket .openSequence
  else if ch.toNat = 0x7b then l.openBracket .openMapping
  else if ch = ']' then l.closeBracket .closeSequence
  else if ch.toNat = 0x7d then l.closeBracket .closeMapping
  else if ch = ',' then l.comma
  else if ch = '-' && isGap next then l.entry
  else if ch = '?' && (!l.inBlock || isGap next) then l.explicitKey
  else if ch = ':' && (!l.inBlock || isGap next) then l.value
  else if ch = '*' then l.named fun c => (anchorName c).map fun (n, c) => (.alias n, c)
  else if ch = '&' then l.named fun c => (anchorName c).map fun (n, c) => (.anchor n, c)
  else if ch = '!' then l.named fun c => (tagName c).map fun (n, c) => (.tag n, c)
  else if ch = '|' && l.inBlock then l.block false
  else if ch = '>' && l.inBlock then l.block true
  else if ch.toNat = 39 then l.quoted false
  else if ch = '"' then l.quoted true
  else if l.startsPlain ch then l.plain
  else malformed

/-- Cuts the rest of a text. -/
def run : (fuel : Nat) → Lexer → Except Fault (List Token)
  | 0, _ => malformed
  | fuel + 1, l => do
    let l ← (toToken (l.cursor.rest.length + 1) l.skipMark).dropStale
    let l := l.unwind l.cursor.column
    match l.cursor.peek with
    | none => return (← l.endDocument).tokens.toList
    | some ch => run fuel (← l.token ch)

end Lexer

/-- The tokens of a text. Every token takes at least one character. -/
def tokens (cs : List Char) : Except Fault (List Token) :=
  (Lexer.start cs).run (cs.length + 1)

end Steward.Markup
