import Steward.Fault

/-!
# Schemas

A schema is what the library knows about a kind of document: its title, how it is read and how it is
written again.

## Contents

* `Schema` — titles, readers and writers; `Schema.accept` — reading that ends in a fault;
* `Value.ofText?`, `Value.ofInteger?`, `Value.ofRecord?`, `Value.ofList` — parts of written records.
-/

namespace Steward

/-! ## Written parts -/

namespace Value

/-- A text, or null. -/
def ofText? : Option String → Value
  | some s => .text s
  | none => .null

/-- An integer, or null. -/
def ofInteger? : Option Int → Value
  | some n => .int n
  | none => .null

/-- Something written in its own way, or null. -/
def ofRecord? (write : α → Value) : Option α → Value
  | some a => write a
  | none => .null

/-- A list, each item written in its own way. -/
def ofList (write : α → Value) (items : List α) : Value :=
  .list (items.map write)

/-- A map, the value of each entry written in its own way. -/
def ofEntries (write : α → Value) (entries : List (String × α)) : Value :=
  .map (entries.map fun e => (e.1, write e.2))

end Value

/-! ## Schemas -/

/-- A kind of document. -/
structure Schema (α : Type) where
  title : String
  read : Reader α
  write : α → Value

/-- Reads a document, or says under its title what is wrong with it. -/
def Schema.accept (s : Schema α) (v : Value) : Except Fault α :=
  match s.read v with
  | .accepted a => .ok a
  | .refused problems => .error (.invalid s.title problems)

end Steward
