import Steward.Event.Basic

/-!
# Correlation

Fields that are bound around a piece of work and stand in every event of it. Binding remembers what a field
was before, so that the binding can be undone.

## Contents

* `Context` — the bound fields and what they were before;
* `correlation` — the fields that name an account and an application;
* `Context.bind`, `Context.reset` — binding and undoing;
* `Event.within` — an event with the bound fields under its own.
-/

namespace Steward

/-- Bound fields, and for each field bound since the last reset the value before its latest binding. -/
structure Context where
  bound : List (String × Value)
  earlier : List (String × Option Value)
  deriving Inhabited

/-- Nothing is bound. -/
def Context.empty : Context := ⟨[], []⟩

/-- A field that is left out when there is nothing to say. -/
def fieldOf (name : String) : Option String → List (String × Value)
  | none | some "" => []
  | some s => [(name, .text s)]

/-- The fields that name an account and an application. -/
def correlation (account app : Option String) : List (String × Value) :=
  fieldOf "account" account ++ fieldOf "appId" app

namespace Context

/-- Binds one field. -/
def bindField (c : Context) (field : String × Value) : Context :=
  { bound := Value.put c.bound field.1 field.2
    earlier := (field.1, Value.lookup c.bound field.1) :: Keyed.erase c.earlier field.1 }

/-- Binds fields. -/
def bind (c : Context) (fields : List (String × Value)) : Context :=
  fields.foldl bindField c

/-- Gives a field its earlier value back, or takes it away. -/
def restore (bound : List (String × Value)) (field : String × Option Value) : List (String × Value) :=
  match field.2 with
  | some v => Value.put bound field.1 v
  | none => Keyed.erase bound field.1

/-- Undoes the bindings since the last reset. -/
def reset (c : Context) : Context :=
  { bound := c.earlier.foldl restore c.bound, earlier := [] }

end Context

/-- An event with bound fields under its own. -/
def Event.within (bound : List (String × Value)) (e : Event) : Event :=
  { e with fields := e.fields.foldl (fun fields f => Value.put fields f.1 f.2) bound }

end Steward
