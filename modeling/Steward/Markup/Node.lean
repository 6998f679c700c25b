import Steward.Keyed
import Steward.Markup.Kind
import Steward.Markup.Token

/-!
# Nodes

The tokens of a document make a tree of nodes. A node can be named by an anchor and used again by an alias.

## Contents

* `Node` — the tree;
* `Composing`, `Composer` — the tokens left and the anchors so far;
* `node`, `blockEntries`, `blockPairs`, `flowItems`, `flowPairs` — nodes and their parts;
* `document?` — the one document of a text, if there is any.
-/

namespace Steward.Markup

/-- A node of a document. -/
inductive Node where
  | scalar (kind : Kind) (text : String)
  | sequence (kind : Kind) (items : List Node)
  | mapping (kind : Kind) (entries : List (Node × Node))
  /-- A node that this one is a part of. -/
  | enclosing
  deriving Inhabited

/-- What composing works on. -/
structure Composing where
  tokens : List Token
  anchors : List (String × Node)
  handles : List (String × String)
  deriving Inhabited

/-- Takes tokens and gives something, or finds the document malformed. -/
abbrev Composer := StateT Composing (Except Fault)

namespace Composer

/-- The document is malformed. -/
def fail : Composer α := throw .notADocument

/-- The next token. -/
def peek : Composer (Option Token) := do
  return (← get).tokens.head?

/-- Leaves the next token behind. -/
def skip : Composer Unit :=
  modify fun s => { s with tokens := s.tokens.tail }

/-- Leaves a token behind if it comes next. -/
def skipIf (t : Token) : Composer Bool := do
  if (← peek) = some t then
    skip
    return true
  else return false

/-- Whether one of some tokens comes next. -/
def nextIn (ts : List Token) : Composer Bool := do
  match ← peek with
  | some t => return ts.contains t
  | none => return false

end Composer

open Composer

/-! ## Properties -/

/-- The anchor and the tag before a node. -/
structure Properties where
  anchor : Option String
  tag : Option String
  deriving Inhabited

/-- A tag written out. -/
def fullTag (name : TagName) : Composer String := do
  match name.handle with
  | none => return name.suffix
  | some handle =>
    match (← get).handles.lookup handle with
    | some replacement => return replacement ++ name.suffix
    | none => fail

/-- The anchor and the tag before a node, in either order. -/
def properties : Composer Properties := do
  match ← peek with
  | some (.anchor a) =>
    skip
    match ← peek with
    | some (.tag t) =>
      skip
      return ⟨some a, some (← fullTag t)⟩
    | _ => return ⟨some a, none⟩
  | some (.tag t) =>
    skip
    match ← peek with
    | some (.anchor a) =>
      skip
      return ⟨some a, some (← fullTag t)⟩
    | _ => return ⟨none, some (← fullTag t)⟩
  | _ => return ⟨none, none⟩

/-- The tag that leaves the kind of a node to its form. -/
def openTag : String := "!"

/-- The kind of a node with a tag, or one that follows from its form. -/
def kindOf (p : Properties) (byForm : Kind) : Kind :=
  match p.tag with
  | none => byForm
  | some tag => if tag = openTag then byForm else .ofTag tag

/-- The kind of a scalar. Quotes make a text of it, unless its tag leaves the kind open. -/
def scalarKind (p : Properties) (text : String) (plain : Bool) : Kind :=
  kindOf p (if plain || p.tag = some openTag then .ofPlain text else .text)

/-- Notes what an anchor stands for. -/
def anchored (p : Properties) (n : Node) : Composer Unit :=
  match p.anchor with
  | none => return ()
  | some a => modify fun s => { s with anchors := Keyed.put s.anchors a n }

/-- A node that is not written. -/
def absent : Node := .scalar .null ""

/-! ## Nodes -/

mutual

/-- A node. In block context it may be a block; a sequence that is the value of a key may stand without
indentation. -/
def node (inBlock unindented : Bool) : (fuel : Nat) → Composer Node
  | 0 => fail
  | fuel + 1 => do
    match ← peek with
    | some (.alias a) =>
      skip
      match (← get).anchors.lookup a with
      | some n => return n
      | none => fail
    | _ =>
      let p ← properties
      let taken := (← get).anchors
      if p.anchor.any fun a => Keyed.holds taken a then fail
      else
        anchored p .enclosing
        let n ← content inBlock unindented p fuel
        anchored p n
        return n

/-- What follows the properties of a node. -/
def content (inBlock unindented : Bool) (p : Properties) : (fuel : Nat) → Composer Node
  | 0 => fail
  | fuel + 1 => do
    match ← peek with
    | some (.scalar text plain) =>
      skip
      return .scalar (scalarKind p text plain) text
    | some .openSequence =>
      skip
      return .sequence (kindOf p .sequence) (← flowItems true fuel)
    | some .openMapping =>
      skip
      return .mapping (kindOf p .mapping) (← flowPairs true fuel)
    | t =>
      if unindented && t = some .entry then
        return .sequence (kindOf p .sequence) (← unindentedEntries fuel)
      else if inBlock && t = some .sequenceStart then
        skip
        return .sequence (kindOf p .sequence) (← blockEntries fuel)
      else if inBlock && t = some .mappingStart then
        skip
        return .mapping (kindOf p .mapping) (← blockPairs fuel)
      else if p.anchor.isSome || p.tag.isSome then return .scalar (kindOf p .null) ""
      else fail

/-- A node, unless one of some tokens says that there is none. -/
def nodeUnless (stops : List Token) (inBlock unindented : Bool) : (fuel : Nat) → Composer Node
  | 0 => fail
  | fuel + 1 => do
    if ← nextIn stops then return absent else node inBlock unindented fuel

/-- The value of a key, if one is written. -/
def valueUnless (stops : List Token) (inBlock unindented : Bool) : (fuel : Nat) → Composer Node
  | 0 => fail
  | fuel + 1 => do
    if ← skipIf .value then nodeUnless stops inBlock unindented fuel else return absent

/-- The entries of a block sequence, up to its end. -/
def blockEntries : (fuel : Nat) → Composer (List Node)
  | 0 => fail
  | fuel + 1 => do
    if ← skipIf .entry then
      let n ← nodeUnless [.entry, .blockEnd] true false fuel
      return n :: (← blockEntries fuel)
    else if ← skipIf .blockEnd then return []
    else fail

/-- The entries of a sequence without indentation, up to something else. -/
def unindentedEntries : (fuel : Nat) → Composer (List Node)
  | 0 => fail
  | fuel + 1 => do
    if ← skipIf .entry then
      let n ← nodeUnless [.entry, .key, .value, .blockEnd] true false fuel
      return n :: (← unindentedEntries fuel)
    else return []

/-- The entries of a block mapping, up to its end. -/
def blockPairs : (fuel : Nat) → Composer (List (Node × Node))
  | 0 => fail
  | fuel + 1 => do
    if ← skipIf .key then
      let k ← nodeUnless [.key, .value, .blockEnd] true true fuel
      let v ← valueUnless [.key, .value, .blockEnd] true true fuel
      return (k, v) :: (← blockPairs fuel)
    else if ← skipIf .blockEnd then return []
    else fail

/-- The items between brackets, up to the closing one. An item may be a pair. -/
def flowItems (first : Bool) : (fuel : Nat) → Composer (List Node)
  | 0 => fail
  | fuel + 1 => do
    if ← skipIf .closeSequence then return []
    let separated ← if first then pure true else skipIf .comma
    if !separated then fail
    else if ← skipIf .key then
      let k ← nodeUnless [.value, .comma, .closeSequence] false false fuel
      let v ← valueUnless [.comma, .closeSequence] false false fuel
      return .mapping .mapping [(k, v)] :: (← flowItems false fuel)
    else if ← skipIf .closeSequence then return []
    else
      let n ← node false false fuel
      return n :: (← flowItems false fuel)

/-- The entries between braces, up to the closing one. An entry may be a key alone. -/
def flowPairs (first : Bool) : (fuel : Nat) → Composer (List (Node × Node))
  | 0 => fail
  | fuel + 1 => do
    if ← skipIf .closeMapping then return []
    let separated ← if first then pure true else skipIf .comma
    if !separated then fail
    else if ← skipIf .key then
      let k ← nodeUnless [.value, .comma, .closeMapping] false false fuel
      let v ← valueUnless [.comma, .closeMapping] false false fuel
      return (k, v) :: (← flowPairs false fuel)
    else if ← skipIf .closeMapping then return []
    else
      let k ← node false false fuel
      return (k, absent) :: (← flowPairs false fuel)

end

/-! ## Documents -/

/-- The handles that every document has. -/
def defaultHandles : List (String × String) :=
  [("!", "!"), ("!!", tagPrefix)]

/-- The directives before a document: at most one version, and each handle once. -/
def directives (versioned : Bool) (handles : List (String × String)) :
    List Token → Option (List (String × String) × List Token)
  | .directive (.version major) :: rest =>
    if versioned || major ≠ 1 then none else directives true handles rest
  | .directive (.tags handle replacement) :: rest =>
    if (handles.lookup handle).isSome then none
    else directives versioned ((handle, replacement) :: handles) rest
  | .directive .unknown :: rest => directives versioned handles rest
  | rest => some (handles ++ defaultHandles, rest)

/-- The root of a document whose directives are read. -/
def root (fuel : Nat) : Composer Node := do
  match ← peek with
  | none | some (.directive _) | some .documentStart | some .documentEnd => return absent
  | some _ => node true false fuel

/-- Where the content of a document starts. -/
def opened (tokens : List Token) : Option (Composing × Bool) :=
  match tokens with
  | .directive _ :: _ | .documentStart :: _ =>
    match directives false [] tokens with
    | some (handles, .documentStart :: rest) => some (⟨rest, [], handles⟩, true)
    | _ => none
  | _ => some (⟨tokens, [], defaultHandles⟩, false)

/-- The one document of a text, if there is any. -/
def document? (tokens : List Token) : Except Fault (Option Node) := do
  if tokens.isEmpty then return none
  else
    match opened tokens with
    | none => malformed
    | some (s, marked) =>
      let fuel := 8 * (tokens.length + 1)
      let (n, s) ← (if marked then root fuel else node true false fuel).run s
      if (s.tokens.dropWhile (· = .documentEnd)).isEmpty then return some n else malformed

end Steward.Markup
