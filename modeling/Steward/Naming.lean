import Steward.Reading.Schema
import Steward.Reading.Scalar

/-!
# Names of workloads

The name of a workload says where it belongs: `app[-stack[-detail]][-vNNN]`. What stands before the sequence
token is the cluster. A name that does not follow the convention has no parts.

## Contents

* `Names` — the parts of a name;
* `Names.cutSequence` — a name cut at its sequence token;
* `Names.ofCluster` — the parts of a cluster name;
* `Names.parse` — the parts of a name;
* `Resolver` — any rule for naming.
-/

namespace Steward

/-- The parts of a name. -/
structure Names where
  app : Option String
  cluster : Option String
  stack : Option String
  detail : Option String
  sequence : Option Int
  deriving DecidableEq, Inhabited

namespace Names

/-- Parts of names. -/
def schema : Schema Names where
  title := "Names"
  read := record fun es =>
    Names.mk <$> perhaps es "app" text <*> perhaps es "cluster" text <*> perhaps es "stack" text
      <*> perhaps es "detail" text <*> perhaps es "sequence" integer
  write n := .map [("app", .ofText? n.app), ("cluster", .ofText? n.cluster), ("stack", .ofText? n.stack),
    ("detail", .ofText? n.detail), ("sequence", .ofInteger? n.sequence)]

/-- The parts of a name outside the convention. -/
def unnamed : Names := ⟨none, none, none, none, none⟩

/-! ## Cutting a name -/

/-- The characters of names. -/
def isNameChar (c : Char) : Bool :=
  ('a' ≤ c && c ≤ 'z') || ('A' ≤ c && c ≤ 'Z') || Decimal.isDigit c || c = '.' || c = '_' || c = '~'
    || c = '^' || c = '-'

/-- A text and a line end that closes it. -/
def lineOf (cs : List Char) : List Char × List Char :=
  if cs.getLast? = some '\n' then (cs.dropLast, ['\n']) else (cs, [])

/-- The fewest digits of a sequence token. -/
def leastDigits : Nat := 3

/-- A name cut into what stands before its sequence token and the digits of the token. -/
def cutSequence (cs : List Char) : Option (List Char × List Char) :=
  let digits := cs.reverse.takeWhile Decimal.isDigit
  match cs.reverse.dropWhile Decimal.isDigit with
  | 'v' :: '-' :: before =>
    if leastDigits ≤ digits.length then some (before.reverse, digits.reverse) else none
  | _ => none

/-- A part of a name, unless it is empty. -/
def part (cs : List Char) : Option String :=
  if cs.isEmpty then none else some (String.ofList cs)

/-- The parts of a cluster name: the first two dashes cut it, later ones belong to the detail. -/
def ofCluster (cs : List Char) (sequence : Option Int) : Names :=
  let (app, rest) := Text.cut '-' cs
  let (stack, detail) := match rest with
    | some rest => Text.cut '-' rest
    | none => ([], none)
  { app := some (String.ofList app)
    cluster := some (String.ofList cs)
    stack := part stack
    detail := detail.bind part
    sequence }

/-- The parts of a name. A line end after the name is let through; a name without sequence token keeps it
in its cluster. -/
def parse (name : String) : Except Fault Names :=
  let (body, lineEnd) := lineOf name.toList
  if body.isEmpty || !body.all isNameChar then .ok unnamed
  else
    match cutSequence body with
    | none => .ok (ofCluster (body ++ lineEnd) none)
    | some (cluster, digits) =>
      if Value.longestInteger < digits.length then .error (.numeralTooLong digits.length)
      else if cluster.isEmpty then .ok unnamed
      else .ok (ofCluster cluster (some (Decimal.value digits)))

/-- The parts of a name that may be missing. -/
def parse? : Option String → Except Fault Names
  | some name => parse name
  | none => .ok unnamed

end Names

/-- A rule for naming. -/
abbrev Resolver := String → Except Fault Names

end Steward
