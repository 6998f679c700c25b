import Steward.Event.Context
import Steward.Fault
import Steward.Text.Case

/-!
# Where events go

A sink lets events through from a threshold on and writes each as one document, or as text for a console.
Fields that may hold secrets are blanked out before anything is written.

## Contents

* `sensitiveNames`, `redact` — which fields are blanked out;
* `thresholds`, `Sink.setup` — sinks by the name of a severity and of a format;
* `Sink.emit` — what becomes of an event.
-/

namespace Steward

/-- Names of fields that hold secrets. -/
def sensitiveNames : List String :=
  ["password", "secret", "token", "access_token", "refresh_token", "client_secret", "authorization", "auth",
   "api_key", "apikey"]

/-- What is written instead of a secret. -/
def redacted : Value := .text "[REDACTED]"

/-- Whether a field holds a secret. Case makes no difference. -/
def isSensitive (name : String) : Bool :=
  sensitiveNames.contains (Text.lower name)

/-- Blanks out secrets. Only fields of the event itself are looked at, not what is inside them. -/
def redact (fields : List (String × Value)) : List (String × Value) :=
  fields.map fun f => if isSensitive f.1 then (f.1, redacted) else f

/-- The weight from which on events are let through, by name. -/
def thresholds : List (String × Nat) :=
  [("CRITICAL", 50), ("FATAL", 50), ("ERROR", 40), ("WARNING", 30), ("WARN", 30), ("INFO", 20), ("DEBUG", 10),
   ("NOTSET", 0)]

/-- Lets events through from a threshold on. -/
structure Sink where
  threshold : Nat
  documents : Bool
  deriving DecidableEq, Inhabited

/-- What a sink made of an event. -/
inductive Emission where
  | documents (ds : List (List (String × Value)))
  | lines (count : Nat)

namespace Sink

/-- The sink for a severity, in any case, and a format; any format but `json` is for a console. -/
def setup (severity format : String) : Except Fault Sink :=
  match thresholds.lookup (Text.upper severity) with
  | some threshold => .ok ⟨threshold, format = "json"⟩
  | none => .error (.unknownSeverity severity)

/-- The fields of a written event: those bound around it, its own, its severity and the time. The request
to record the call stack is no field. -/
def written (bound : List (String × Value)) (time : Value) (e : Event) : List (String × Value) :=
  redact (Value.put (Keyed.erase (e.within bound).document "stack_info") "timestamp" time)

/-- The line ends in a text; other values are written without any. -/
def lineEnds : Value → Nat
  | .text s => s.toList.count '\n'
  | _ => 0

/-- Writes an event. On a console an event takes one line, and one more for each line end in its texts. -/
def emit (s : Sink) (bound : List (String × Value)) (time : Value) (e : Event) : Emission :=
  if e.level.weight < s.threshold then if s.documents then .documents [] else .lines 0
  else if s.documents then .documents [written bound time e]
  else .lines ((written bound time e).foldl (fun lines f => lines + lineEnds f.2) 1)

end Sink

end Steward
