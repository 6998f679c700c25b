import Steward.Proofs.Program.Runs

/-!
# What programs request

When each request has one reply, a program makes its requests in one order. `Program.requests` lists them, beside
`Program.eval`, which is what the program comes to. `Attempt.Performs` says both at once: what the program comes to,
that each of its requests is allowed, and what all of them cost together.

## Contents

* `Program.requests`, `Attempt.requests` — the requests; `requests_bind`, `requests_lift` — of programs made of others;
* `Attempt.requests_bind_of_ok`, `Attempt.requests_bind_of_error` — the requests of two attempts in a row;
* `Attempt.Performs` — result, permission and cost, with a rule for each way to make an attempt.
-/

namespace Steward

namespace Program

variable {I J : Interface} {α β : Type} (reply : Replies I)

/-- What a program requests when each request has one reply, in order. -/
def requests (reply : Replies I) : Program I α → List I.Request
  | .done _ => []
  | .ask r next => r :: requests reply (next (reply r))

@[simp] theorem requests_done (a : α) : (Program.done a : Program I α).requests reply = [] :=
  rfl

@[simp] theorem requests_ask (r : I.Request) (next : I.Reply r → Program I α) :
    (Program.ask r next).requests reply = r :: (next (reply r)).requests reply :=
  rfl

@[simp] theorem requests_request (r : I.Request) : (Program.request r).requests reply = [r] :=
  rfl

@[simp] theorem requests_bind (p : Program I α) (f : α → Program I β) :
    (p.bind f).requests reply = p.requests reply ++ (f (p.eval reply)).requests reply := by
  induction p with
  | done a => rfl
  | ask r next ih => exact congrArg (r :: ·) (ih (reply r))

/-- The same for the bind of the monad. -/
@[simp] theorem requests_monad_bind (p : Program I α) (f : α → Program I β) :
    (p >>= f).requests reply = p.requests reply ++ (f (p.eval reply)).requests reply :=
  requests_bind reply p f

/-- Over a wider interface each request is one by one carried out as a program. -/
theorem requests_lift (wider : Replies J) (f : (r : I.Request) → Program J (I.Reply r))
    (hf : ∀ r, (f r).eval wider = reply r) (p : Program I α) :
    (p.lift f).requests wider = (p.requests reply).flatMap fun r => (f r).requests wider := by
  induction p with
  | done a => rfl
  | ask r next ih =>
    show ((f r).bind _).requests wider = _
    rw [requests_bind, hf r, requests_ask, List.flatMap_cons]
    exact congrArg ((f r).requests wider ++ ·) (ih (reply r))

end Program

namespace Attempt

variable {I J : Interface} {α β γ : Type} {reply : Replies I}

/-- What a program that may fail requests when each request has one reply, in order. -/
def requests (reply : Replies I) (p : Attempt I α) : List I.Request :=
  p.outcome.requests reply

@[simp] theorem requests_pure (a : α) : (pure a : Attempt I α).requests reply = [] :=
  rfl

@[simp] theorem requests_throw (f : Fault) : (throw f : Attempt I α).requests reply = [] :=
  rfl

/-- After an attempt that ends well come the requests of the next one. -/
theorem requests_bind_of_ok {p : Attempt I α} {a : α} (h : p.eval reply = .ok a) (f : α → Attempt I β) :
    (p >>= f).requests reply = p.requests reply ++ (f a).requests reply := by
  have hbind : (p >>= f).requests reply = p.requests reply
      ++ Program.requests reply (ExceptT.bindCont f (p.eval reply) : Program I (Except Fault β)) :=
    Program.requests_bind reply p.outcome _
  rw [hbind, h]
  rfl

/-- After an attempt that fails nothing is requested. -/
theorem requests_bind_of_error {p : Attempt I α} {e : Fault} (h : p.eval reply = .error e) (f : α → Attempt I β) :
    (p >>= f).requests reply = p.requests reply := by
  have hbind : (p >>= f).requests reply = p.requests reply
      ++ Program.requests reply (ExceptT.bindCont f (p.eval reply) : Program I (Except Fault β)) :=
    Program.requests_bind reply p.outcome _
  rw [hbind, h]
  exact List.append_nil _

@[simp] theorem requests_ofExcept (e : Except Fault α) : (ofExcept e : Attempt I α).requests reply = [] := by
  cases e with
  | ok a => rfl
  | error f => rfl

@[simp] theorem requests_ofProgram (p : Program I α) : (ofProgram p).requests reply = p.requests reply :=
  (Program.requests_bind reply p _).trans (List.append_nil _)

@[simp] theorem requests_settle (p : Attempt I α) : p.settle.requests reply = p.requests reply :=
  requests_ofProgram p.outcome

@[simp] theorem requests_map (f : α → β) (p : Attempt I α) : (f <$> p).requests reply = p.requests reply := by
  refine (Program.requests_bind reply p.outcome _).trans ?_
  cases p.outcome.eval reply with
  | ok a => exact List.append_nil _
  | error e => exact List.append_nil _

/-! ## Result, permission and cost -/

/-- **What a program does** when each request has one reply: it comes to this result, each of its requests is allowed,
and together they cost this. -/
structure Performs (reply : Replies I) (allowed : I.Request → Prop) (cost : I.Request → List γ) (p : Attempt I α)
    (a : α) (total : List γ) : Prop where
  result : p.eval reply = .ok a
  allowed : ∀ r ∈ p.requests reply, allowed r
  total : (p.requests reply).flatMap cost = total

variable {allowed : I.Request → Prop} {cost : I.Request → List γ} {a : α} {b : β} {spent rest : List γ}

theorem performs_pure (a : α) : (pure a : Attempt I α).Performs reply allowed cost a [] :=
  ⟨rfl, List.forall_mem_nil _, rfl⟩

theorem performs_ofExcept (a : α) : (ofExcept (.ok a) : Attempt I α).Performs reply allowed cost a [] :=
  performs_pure a

theorem performs_request {r : I.Request} (h : allowed r) :
    (ofProgram (Program.request r)).Performs reply allowed cost (reply r) (cost r) where
  result := rfl
  allowed := by
    intro q hq
    obtain rfl : q = r := by simpa using hq
    exact h
  total := by simp

/-- Two attempts in a row cost what either costs. -/
theorem Performs.bind {p : Attempt I α} {f : α → Attempt I β} (hp : p.Performs reply allowed cost a spent)
    (hf : (f a).Performs reply allowed cost b rest) : (p >>= f).Performs reply allowed cost b (spent ++ rest) where
  result := by
    rw [eval_bind_of_ok hp.result]
    exact hf.result
  allowed := by
    intro r hr
    rw [requests_bind_of_ok hp.result] at hr
    rcases List.mem_append.1 hr with hfirst | hnext
    · exact hp.allowed r hfirst
    · exact hf.allowed r hnext
  total := by rw [requests_bind_of_ok hp.result, List.flatMap_append, hp.total, hf.total]

/-- The first of two attempts may cost nothing. -/
theorem Performs.next {p : Attempt I α} {f : α → Attempt I β} (hp : p.Performs reply allowed cost a [])
    (hf : (f a).Performs reply allowed cost b rest) : (p >>= f).Performs reply allowed cost b rest :=
  hp.bind hf

/-- So may the second. -/
theorem Performs.bind_free {p : Attempt I α} {f : α → Attempt I β} (hp : p.Performs reply allowed cost a spent)
    (hf : (f a).Performs reply allowed cost b []) : (p >>= f).Performs reply allowed cost b spent := by
  rw [← List.append_nil spent]
  exact hp.bind hf

theorem Performs.settle {p : Attempt I α} (h : p.Performs reply allowed cost a spent) :
    p.settle.Performs reply allowed cost (.ok a) spent where
  result := by rw [eval_settle, h.result]
  allowed := by simpa using h.allowed
  total := by simpa using h.total

/-- A program does the same over another interface if each request is carried out as replied, at the same cost. -/
theorem Performs.lift {wider : Replies J} {allowed' : J.Request → Prop} {cost' : J.Request → List γ}
    {f : (r : I.Request) → Program J (I.Reply r)} {p : Attempt I α} (h : p.Performs reply allowed cost a spent)
    (hf : ∀ r, (f r).eval wider = reply r) (hallowed : ∀ r, allowed r → ∀ q ∈ (f r).requests wider, allowed' q)
    (hcost : ∀ r, ((f r).requests wider).flatMap cost' = cost r) :
    (p.lift f).Performs wider allowed' cost' a spent := by
  have hrequests : (p.lift f).requests wider = (p.requests reply).flatMap fun r => (f r).requests wider :=
    Program.requests_lift reply wider f hf p.outcome
  refine ⟨(eval_lift reply wider f hf p).trans h.result, ?_, ?_⟩
  · intro q hq
    rw [hrequests] at hq
    obtain ⟨r, hr, hq⟩ := List.mem_flatMap.1 hq
    exact hallowed r (h.allowed r hr) q hq
  · rw [hrequests, List.flatMap_assoc]
    simp only [hcost]
    exact h.total

end Attempt

end Steward
