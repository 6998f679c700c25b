import Steward.Value

/-!
# Log events

What the library reports while it works: a severity, a fixed text and named fields.

## Contents

* `Level` — severities, `Level.weight` — their order;
* `Event` — events, `Event.document` — an event as a document.
-/

namespace Steward

/-- The severity of an event. -/
inductive Level where
  | debug
  | info
  | warning
  | error
  | critical
  deriving DecidableEq, Inhabited

/-- The name of a severity. -/
def Level.name : Level → String
  | debug => "debug"
  | info => "info"
  | warning => "warning"
  | error => "error"
  | critical => "critical"

/-- How severe a severity is. -/
def Level.weight : Level → Nat
  | debug => 10
  | info => 20
  | warning => 30
  | error => 40
  | critical => 50

/-- An event. -/
structure Event where
  level : Level
  text : String
  fields : List (String × Value)
  deriving Inhabited

/-- An event as a document: its severity stands over a field of that name. -/
def Event.document (e : Event) : List (String × Value) :=
  Value.put (Value.put e.fields "event" (.text e.text)) "level" (.text e.level.name)

end Steward
