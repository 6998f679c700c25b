import Steward.Program
import Steward.Platform.Call
import Steward.Event.Basic

/-!
# Inquiries

Programs that ask the platform, report what they do and read the wall clock, and do nothing else.

## Contents

* `Inquiry` — the interface;
* `Inquiry.call`, `Inquiry.report`, `Inquiry.now` — its requests as programs.
-/

namespace Steward

/-- What an inquiry may request. -/
inductive Inquiry.Request where
  | call (c : Call)
  | report (e : Event)
  | clock

/-- What is replied to an inquiry: a call may fail, a clock gives seconds since 1970. -/
abbrev Inquiry.Reply : Inquiry.Request → Type
  | .call c => Except Fault c.Answer
  | .report _ => Unit
  | .clock => Number

/-- The interface of inquiries. -/
abbrev Inquiry : Interface := ⟨Inquiry.Request, Inquiry.Reply⟩

namespace Inquiry

/-- Asks the platform. -/
def call (c : Call) : Attempt Inquiry c.Answer :=
  .mk (Program.request (I := Inquiry) (Inquiry.Request.call c))

/-- Reports an event. -/
def report (level : Level) (text : String) (fields : List (String × Value)) : Attempt Inquiry Unit :=
  .ofProgram (Program.request (I := Inquiry) (Inquiry.Request.report ⟨level, text, fields⟩))

/-- Reads the wall clock. -/
def now : Attempt Inquiry Number :=
  .ofProgram (Program.request (I := Inquiry) Inquiry.Request.clock)

end Inquiry

end Steward
