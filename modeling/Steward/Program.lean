import Steward.Fault

/-!
# Programs

What the library does to the outside is a value: a program is a result, or a request and what to do with
each reply to it. Nothing happens until a handler answers the requests, so one program can be run against a
real platform, a scripted one, or any assumption about what platforms answer.

## Contents

* `Interface` — requests and the types of their replies;
* `Program` — programs over an interface, a monad;
* `Handler`, `Program.run` — a program run under a handler that keeps a state;
* `Program.lift` — a program over one interface as a program over a wider one;
* `Attempt` — programs that may end with a fault.
-/

namespace Steward

/-- Requests, and what is replied to each. -/
structure Interface where
  Request : Type
  Reply : Request → Type

/-- A result, or a request and what follows its reply. -/
inductive Program (I : Interface) (α : Type) where
  | done (a : α)
  | ask (request : I.Request) (next : I.Reply request → Program I α)

namespace Program

variable {I J : Interface} {α β σ : Type}

/-- One program after another. -/
def bind (p : Program I α) (f : α → Program I β) : Program I β :=
  match p with
  | done a => f a
  | ask r next => ask r fun reply => bind (next reply) f

instance : Monad (Program I) where
  pure := done
  bind := bind

/-- A single request. -/
def request (r : I.Request) : Program I (I.Reply r) :=
  ask r done

/-- A program whose requests are each carried out by a program over another interface. -/
def lift (f : (r : I.Request) → Program J (I.Reply r)) : Program I α → Program J α
  | done a => done a
  | ask r next => bind (f r) fun reply => lift f (next reply)

end Program

/-- Answers every request, and keeps a state. -/
def Handler (I : Interface) (σ : Type) :=
  (r : I.Request) → σ → I.Reply r × σ

namespace Program

variable {I J : Interface} {α β σ : Type}

/-- The result of a program under a handler, and the state that it leaves. -/
def run (h : Handler I σ) : Program I α → σ → α × σ
  | done a, s => (a, s)
  | ask r next, s =>
    let (reply, s) := h r s
    run h (next reply) s

end Program

/-- Programs that may end with a fault. -/
abbrev Attempt (I : Interface) := ExceptT Fault (Program I)

namespace Attempt

variable {I J : Interface} {α σ : Type}

/-- The outcome of a program that may fail, as its result. -/
def outcome (p : Attempt I α) : Program I (Except Fault α) :=
  p

/-- A program that cannot fail. -/
def ofProgram (p : Program I α) : Attempt I α :=
  ExceptT.lift p

/-- The outcome of a program that may fail, as a value to go on with. -/
def settle (p : Attempt I α) : Attempt I (Except Fault α) :=
  ofProgram p.outcome

/-- An outcome that is known already. -/
def ofExcept : Except Fault α → Attempt I α
  | .ok a => pure a
  | .error f => throw f

/-- A program that may fail, over a wider interface. -/
def lift (f : (r : I.Request) → Program J (I.Reply r)) (p : Attempt I α) : Attempt J α :=
  Program.lift f (p.outcome)

/-- The outcome of a program that may fail, under a handler. -/
def run (h : Handler I σ) (p : Attempt I α) (s : σ) : Except Fault α × σ :=
  Program.run h p s

end Attempt

end Steward
