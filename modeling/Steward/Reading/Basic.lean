import Steward.Value

/-!
# Reading documents

A reader turns a document value into a typed one or says everything that is wrong with it. Problems are
collected, not only the first: a record reports those of all its fields in the order in which the fields
are declared, a list those of all its items.

## Contents

* `Segment`, `Complaint`, `Problem` — where something is wrong, and what;
* `Reading` — the outcome of reading, an applicative functor that collects problems;
* `Reader`, `record`, `required`, `optional`, `nullable`, `listOf`, `mapOf` — readers for containers.
-/

namespace Steward

/-! ## Problems -/

/-- One step on the way to a part of a document. -/
inductive Segment where
  | key (name : String)
  | index (i : Nat)
  deriving DecidableEq, Inhabited

/-- What is wrong with a part of a document. -/
inductive Complaint where
  | missing
  | notRecord
  | notMap
  | notList
  | notTuple
  | notText
  | notInteger
  | unreadableInteger
  | oversizedInteger
  | fractionalInteger
  | notFinite
  | notNumber
  | unreadableNumber
  | notTruth
  | unreadableTruth
  | notInEnumeration
  | notMoment
  | momentOutOfRange
  | unreadableMoment
  | notAbove
  | belowLeast
  | aboveMost
  | rule (text : String)
  | frozen
  deriving DecidableEq, Inhabited

/-- A complaint and the part of the document that it is about. -/
structure Problem where
  path : List Segment
  complaint : Complaint
  deriving DecidableEq, Inhabited

/-- The problem seen from one level further out. -/
def Problem.under (s : Segment) (p : Problem) : Problem :=
  { p with path := s :: p.path }

/-! ## Outcomes -/

/-- The outcome of reading: a result, or the problems that stand against it. -/
inductive Reading (α : Type) where
  | accepted (a : α)
  | refused (problems : List Problem)

namespace Reading

variable {α β : Type}

/-- Refusal for one reason, here. -/
def complain (c : Complaint) : Reading α :=
  .refused [⟨[], c⟩]

/-- The outcome with its result changed. -/
def map (f : α → β) : Reading α → Reading β
  | .accepted a => .accepted (f a)
  | .refused ps => .refused ps

/-- Both outcomes: the problems of both, in order, or both results. -/
def both (f : Reading (α → β)) (x : Unit → Reading α) : Reading β :=
  match f, x () with
  | .accepted f, .accepted a => .accepted (f a)
  | .accepted _, .refused ps => .refused ps
  | .refused ps, .accepted _ => .refused ps
  | .refused ps, .refused qs => .refused (ps ++ qs)

instance : Functor Reading := ⟨map, fun a => map fun _ => a⟩
instance : Applicative Reading := { pure := .accepted, seq := both }

/-- A further condition on the result. -/
def check (x : Reading α) (f : α → Reading β) : Reading β :=
  match x with
  | .accepted a => f a
  | .refused ps => .refused ps

/-- The outcome with its problems moved under a segment. -/
def under (s : Segment) : Reading α → Reading α
  | .accepted a => .accepted a
  | .refused ps => .refused (ps.map (Problem.under s))

/-- The result, or the problems. -/
def toExcept : Reading α → Except (List Problem) α
  | .accepted a => .ok a
  | .refused ps => .error ps

end Reading

/-! ## Readers -/

/-- Reads a document value. -/
abbrev Reader (α : Type) := Value → Reading α

variable {α β : Type}

/-- Reads anything. -/
def anything : Reader Value := .accepted

/-- Reads null as nothing. -/
def nullable (r : Reader α) : Reader (Option α)
  | .null => .accepted none
  | v => (r v).map some

/-- Reads each item of a list; problems are found under the item's index. -/
def items (r : Reader α) : (index : Nat) → List Value → Reading (List α)
  | _, [] => .accepted []
  | i, v :: rest => List.cons <$> (r v).under (.index i) <*> items r (i + 1) rest

/-- Reads a list. -/
def listOf (r : Reader α) : Reader (List α)
  | .list vs => items r 0 vs
  | _ => .complain .notList

/-- Reads a list whose length is final. -/
def tupleOf (r : Reader α) : Reader (List α)
  | .list vs => items r 0 vs
  | _ => .complain .notTuple

/-- Reads the value of each entry; problems are found under the entry's key. -/
def entries (r : Reader α) : List (String × Value) → Reading (List (String × α))
  | [] => .accepted []
  | (key, v) :: rest => (fun a as => (key, a) :: as) <$> (r v).under (.key key) <*> entries r rest

/-- Reads a map, in the order of its entries. -/
def mapOf (r : Reader α) : Reader (List (String × α))
  | .map es => entries r es
  | _ => .complain .notMap

/-- Reads a record from the entries of a map. Entries that are no field of it are passed over. -/
def record (f : List (String × Value) → Reading α) : Reader α
  | .map es => f es
  | _ => .complain .notRecord

/-- A field that has to be there. -/
def required (es : List (String × Value)) (name : String) (r : Reader α) : Reading α :=
  match Value.lookup es name with
  | some v => (r v).under (.key name)
  | none => .refused [⟨[.key name], .missing⟩]

/-- A field that has a value of its own when it is not there. -/
def optional (es : List (String × Value)) (name : String) (r : Reader α) (default : α) : Reading α :=
  match Value.lookup es name with
  | some v => (r v).under (.key name)
  | none => .accepted default

/-- A field that is nothing when it is null or not there. -/
def perhaps (es : List (String × Value)) (name : String) (r : Reader α) : Reading (Option α) :=
  optional es name (nullable r) none

end Steward
