import Steward.Program

/-!
# Runs of programs

A handler answers each request in one way. Here a request may be answered in many ways: an `Answering` is
the relation between a request in a state and what may be replied, with the state after it. `Program.Runs`
is the run of a program under it, with all that was exchanged on the way. Worlds that nobody controls, and
pools that run work in any order, are answerings; a handler is the one that leaves no choice.

## Contents

* `Exchange`, `Answering`, `Replies` — what is exchanged, who may answer what, and answers without a choice;
* `Program.Runs`, `Attempt.Runs` — runs, with `Program.runs_bind` and `Attempt.runs_bind` to take them apart;
* `Program.exchanged`, `Program.Runs.of_run` — a run under a handler is a run;
* `Program.Runs.simulate` — runs under another answering;
* `Program.eval` — a program whose requests have one reply each, whatever the state.
-/

namespace Steward

/-- Two steps that may fail end well if both do. -/
theorem except_bind_eq_ok {ε α β : Type} {x : Except ε α} {f : α → Except ε β} {b : β} :
    x >>= f = .ok b ↔ ∃ a, x = .ok a ∧ f a = .ok b := by
  cases x with
  | error e =>
    constructor
    · intro h
      cases h
    · rintro ⟨a, h, -⟩
      cases h
  | ok a =>
    constructor
    · intro h
      exact ⟨a, rfl, h⟩
    · rintro ⟨a', h, h'⟩
      cases h
      exact h'

/-- A request with the reply that it got. -/
structure Exchange (I : Interface) where
  request : I.Request
  reply : I.Reply request

/-- Which replies a request may get in a state, and in which state that leaves. -/
def Answering (I : Interface) (σ : Type) :=
  (r : I.Request) → σ → I.Reply r → σ → Prop

/-- One reply to each request. -/
abbrev Replies (I : Interface) : Type :=
  (r : I.Request) → I.Reply r

/-- Every reply is possible, and nothing is remembered. -/
def Answering.any (I : Interface) : Answering I Unit :=
  fun _ _ _ _ => True

/-- The answering of a handler. -/
def Handler.answering {I : Interface} {σ : Type} (h : Handler I σ) : Answering I σ :=
  fun r s reply s' => h r s = (reply, s')

namespace Program

variable {I J : Interface} {α β σ : Type}

/-- **Runs.** The program goes from one state to another, exchanges these requests and replies in this order, and
comes to this result. -/
inductive Runs (A : Answering I σ) : Program I α → σ → List (Exchange I) → α → σ → Prop where
  | done (a : α) (s : σ) : Runs A (.done a) s [] a s
  | ask {r : I.Request} {next : I.Reply r → Program I α} {s m s' : σ} {reply : I.Reply r}
      {t : List (Exchange I)} {a : α} (answer : A r s reply m) (rest : Runs A (next reply) m t a s') :
      Runs A (.ask r next) s (⟨r, reply⟩ :: t) a s'

/-! ## Taking runs apart -/

theorem runs_done {A : Answering I σ} {a b : α} {s s' : σ} {t : List (Exchange I)} :
    Runs A (.done a) s t b s' ↔ t = [] ∧ b = a ∧ s' = s := by
  constructor
  · intro h
    cases h
    exact ⟨rfl, rfl, rfl⟩
  · rintro ⟨rfl, rfl, rfl⟩
    exact Runs.done _ _

theorem runs_ask {A : Answering I σ} {r : I.Request} {next : I.Reply r → Program I α} {a : α} {s s' : σ}
    {t : List (Exchange I)} :
    Runs A (.ask r next) s t a s' ↔
      ∃ reply m rest, t = ⟨r, reply⟩ :: rest ∧ A r s reply m ∧ Runs A (next reply) m rest a s' := by
  constructor
  · intro h
    cases h with
    | ask answer rest => exact ⟨_, _, _, rfl, answer, rest⟩
  · rintro ⟨reply, m, rest, rfl, answer, hrest⟩
    exact Runs.ask answer hrest

theorem runs_request {A : Answering I σ} {r : I.Request} {reply : I.Reply r} {s s' : σ}
    {t : List (Exchange I)} :
    Runs A (Program.request r) s t reply s' ↔ t = [⟨r, reply⟩] ∧ A r s reply s' := by
  unfold Program.request
  rw [runs_ask]
  constructor
  · rintro ⟨reply', m, rest, rfl, answer, hrest⟩
    obtain ⟨rfl, rfl, rfl⟩ := runs_done.1 hrest
    exact ⟨rfl, answer⟩
  · rintro ⟨rfl, answer⟩
    exact ⟨reply, s', [], rfl, answer, Runs.done _ _⟩

/-- **A run of two programs in a row** is a run of the first, then one of the second. -/
theorem runs_bind {A : Answering I σ} {p : Program I α} {f : α → Program I β} {b : β} {s s' : σ}
    {t : List (Exchange I)} :
    Runs A (p.bind f) s t b s' ↔
      ∃ t₁ a m t₂, t = t₁ ++ t₂ ∧ Runs A p s t₁ a m ∧ Runs A (f a) m t₂ b s' := by
  constructor
  · intro h
    induction p generalizing s t with
    | done a => exact ⟨[], a, s, t, rfl, Runs.done _ _, h⟩
    | ask r next ih =>
      obtain ⟨reply, m, rest, rfl, answer, hrest⟩ := runs_ask.1 h
      obtain ⟨t₁, a, m', t₂, rfl, h₁, h₂⟩ := ih reply hrest
      exact ⟨_, a, m', t₂, rfl, Runs.ask answer h₁, h₂⟩
  · rintro ⟨t₁, a, m, t₂, rfl, h₁, h₂⟩
    induction h₁ with
    | done a s => exact h₂
    | ask answer _ ih => exact Runs.ask answer (ih h₂)

theorem run_ask (h : Handler I σ) (r : I.Request) (next : I.Reply r → Program I α) (s : σ) :
    (Program.ask r next).run h s = (next (h r s).1).run h (h r s).2 :=
  rfl

theorem run_bind (h : Handler I σ) (p : Program I α) (f : α → Program I β) (s : σ) :
    (p.bind f).run h s = (f (p.run h s).1).run h (p.run h s).2 := by
  induction p generalizing s with
  | done a => rfl
  | ask r next ih => exact ih (h r s).1 (h r s).2

/-- What a handler takes no notice of may change before a run or after it. -/
theorem run_comm {h : Handler I σ} {g : σ → σ} (hg : ∀ r s, h r (g s) = ((h r s).1, g (h r s).2)) (p : Program I α)
    (s : σ) : p.run h (g s) = ((p.run h s).1, g (p.run h s).2) := by
  induction p generalizing s with
  | done a => rfl
  | ask r next ih =>
    rw [run_ask, run_ask, hg]
    exact ih _ _

/-- What a program exchanges under a handler. -/
def exchanged (h : Handler I σ) : Program I α → σ → List (Exchange I)
  | .done _, _ => []
  | .ask r next, s => ⟨r, (h r s).1⟩ :: exchanged h (next (h r s).1) (h r s).2

/-- **A run under a handler is a run.** -/
theorem Runs.of_run (h : Handler I σ) (p : Program I α) (s : σ) :
    Runs h.answering p s (p.exchanged h s) (p.run h s).1 (p.run h s).2 := by
  induction p generalizing s with
  | done a => exact Runs.done a s
  | ask r next ih =>
    have answer : h.answering r s (h r s).1 (h r s).2 := rfl
    exact Runs.ask answer (ih (h r s).1 (h r s).2)

/-- **Simulation.** If every answer on one side is an answer on the other, and related states stay related, then
every run on the one side is a run on the other with the same exchanges. -/
theorem Runs.simulate {τ : Type} {A : Answering I σ} {B : Answering I τ} (R : σ → τ → Prop)
    (hAB : ∀ r s reply s' w, R s w → A r s reply s' → ∃ w', B r w reply w' ∧ R s' w') {p : Program I α}
    {s s' : σ} {t : List (Exchange I)} {a : α} {w : τ} (hR : R s w) (h : Runs A p s t a s') :
    ∃ w', Runs B p w t a w' ∧ R s' w' := by
  induction h generalizing w with
  | done a s => exact ⟨w, Runs.done _ _, hR⟩
  | ask answer _ ih =>
    obtain ⟨m, hm, hRm⟩ := hAB _ _ _ _ w hR answer
    obtain ⟨w', hw', hR'⟩ := ih hRm
    exact ⟨w', Runs.ask hm hw', hR'⟩

/-- A run is one under the answers that were exchanged in it. -/
theorem Runs.among {A : Answering I σ} {p : Program I α} {s s' : σ} {t all : List (Exchange I)} {a : α}
    (h : Runs A p s t a s') (hall : ∀ e ∈ t, e ∈ all) :
    Runs (fun r s reply s' => A r s reply s' ∧ ⟨r, reply⟩ ∈ all) p s t a s' := by
  induction h with
  | done a s => exact Runs.done a s
  | ask answer _ ih =>
    obtain ⟨hfirst, hrest⟩ := List.forall_mem_cons.1 hall
    exact Runs.ask ⟨answer, hfirst⟩ (ih hrest)

/-! ## Fixed replies -/

/-- What a program comes to when each request has one reply. -/
def eval (reply : Replies I) : Program I α → α
  | .done a => a
  | .ask r next => eval reply (next (reply r))

@[simp] theorem eval_done (reply : Replies I) (a : α) : (Program.done a).eval reply = a :=
  rfl

@[simp] theorem eval_ask (reply : Replies I) (r : I.Request)
    (next : I.Reply r → Program I α) : (Program.ask r next).eval reply = (next (reply r)).eval reply :=
  rfl

@[simp] theorem eval_request (reply : Replies I) (r : I.Request) :
    (Program.request r).eval reply = reply r :=
  rfl

@[simp] theorem eval_bind (reply : Replies I) (p : Program I α) (f : α → Program I β) :
    (p.bind f).eval reply = (f (p.eval reply)).eval reply := by
  induction p with
  | done a => rfl
  | ask r next ih => exact ih (reply r)

/-- The same for the bind of the monad. -/
@[simp] theorem eval_monad_bind (reply : Replies I) (p : Program I α)
    (f : α → Program I β) : (p >>= f).eval reply = (f (p.eval reply)).eval reply :=
  eval_bind reply p f

/-- A program over a wider interface comes to the same if its requests are carried out as replied. -/
theorem eval_lift (reply : Replies I) (wider : Replies J)
    (f : (r : I.Request) → Program J (I.Reply r)) (hf : ∀ r, (f r).eval wider = reply r) (p : Program I α) :
    (p.lift f).eval wider = p.eval reply := by
  induction p with
  | done a => rfl
  | ask r next ih =>
    show ((f r).bind _).eval wider = _
    rw [eval_bind, hf r]
    exact ih (reply r)

end Program

/-! ## Programs that may fail -/

namespace Attempt

variable {I J : Interface} {α β σ : Type}

/-- A run of a program that may fail. -/
def Runs (A : Answering I σ) (p : Attempt I α) (s : σ) (t : List (Exchange I)) (o : Except Fault α)
    (s' : σ) : Prop :=
  Program.Runs A p.outcome s t o s'

variable {A : Answering I σ} {s s' : σ} {t : List (Exchange I)}

theorem runs_pure {a : α} {o : Except Fault α} :
    Runs A (pure a : Attempt I α) s t o s' ↔ t = [] ∧ o = .ok a ∧ s' = s :=
  Program.runs_done

theorem runs_throw {f : Fault} {o : Except Fault α} :
    Runs A (throw f : Attempt I α) s t o s' ↔ t = [] ∧ o = .error f ∧ s' = s :=
  Program.runs_done

/-- **A run of two attempts in a row** ends with the fault of the first, or goes on from its result. -/
theorem runs_bind {p : Attempt I α} {f : α → Attempt I β} {o : Except Fault β} :
    Runs A (p >>= f) s t o s' ↔
      (∃ e, o = .error e ∧ Runs A p s t (.error e) s') ∨
        ∃ t₁ a m t₂, t = t₁ ++ t₂ ∧ Runs A p s t₁ (.ok a) m ∧ Runs A (f a) m t₂ o s' := by
  have hbind : Runs A (p >>= f) s t o s' ↔
      ∃ t₁ r m t₂, t = t₁ ++ t₂ ∧ Runs A p s t₁ r m ∧
        Program.Runs A (ExceptT.bindCont f r : Program I (Except Fault β)) m t₂ o s' :=
    Program.runs_bind
  rw [hbind]
  constructor
  · rintro ⟨t₁, r, m, t₂, rfl, h₁, h₂⟩
    cases r with
    | ok a => exact Or.inr ⟨t₁, a, m, t₂, rfl, h₁, h₂⟩
    | error e =>
      obtain ⟨rfl, rfl, rfl⟩ := Program.runs_done.1 h₂
      refine Or.inl ⟨e, rfl, ?_⟩
      rw [List.append_nil]
      exact h₁
  · rintro (⟨e, rfl, h⟩ | ⟨t₁, a, m, t₂, rfl, h₁, h₂⟩)
    · exact ⟨t, .error e, s', [], (List.append_nil t).symm, h, Program.Runs.done _ _⟩
    · exact ⟨t₁, .ok a, m, t₂, rfl, h₁, h₂⟩

theorem runs_ofProgram {p : Program I α} {o : Except Fault α} :
    Runs A (ofProgram p) s t o s' ↔ ∃ a, o = .ok a ∧ Program.Runs A p s t a s' := by
  have hlift : Runs A (ofProgram p) s t o s' ↔
      ∃ t₁ a m t₂, t = t₁ ++ t₂ ∧ Program.Runs A p s t₁ a m ∧
        Program.Runs A (Program.done (Except.ok a)) m t₂ o s' :=
    Program.runs_bind
  rw [hlift]
  constructor
  · rintro ⟨t₁, a, m, t₂, rfl, h₁, h₂⟩
    obtain ⟨rfl, rfl, rfl⟩ := Program.runs_done.1 h₂
    rw [List.append_nil]
    exact ⟨a, rfl, h₁⟩
  · rintro ⟨a, rfl, h⟩
    exact ⟨t, a, s', [], (List.append_nil t).symm, h, Program.Runs.done _ _⟩

/-- A request that cannot fail is answered, and the program goes on with the reply. -/
theorem runs_request_bind {r : I.Request} {f : I.Reply r → Attempt I β} {o : Except Fault β} :
    Runs A (ofProgram (Program.request r) >>= f) s t o s' ↔
      ∃ reply m rest, t = ⟨r, reply⟩ :: rest ∧ A r s reply m ∧ Runs A (f reply) m rest o s' := by
  rw [runs_bind]
  constructor
  · rintro (⟨e, rfl, h⟩ | ⟨t₁, a, m, t₂, rfl, h₁, h₂⟩)
    · obtain ⟨a, ha, -⟩ := runs_ofProgram.1 h
      cases ha
    · obtain ⟨a', ha, h₁⟩ := runs_ofProgram.1 h₁
      cases ha
      obtain ⟨rfl, answer⟩ := Program.runs_request.1 h₁
      exact ⟨a, m, t₂, rfl, answer, h₂⟩
  · rintro ⟨reply, m, rest, rfl, answer, h⟩
    exact Or.inr ⟨_, reply, m, rest, rfl,
      runs_ofProgram.2 ⟨reply, rfl, Program.runs_request.2 ⟨rfl, answer⟩⟩, h⟩

/-- A settled attempt does not fail: its outcome is its result. -/
theorem runs_settle {p : Attempt I α} {o : Except Fault (Except Fault α)} :
    Runs A p.settle s t o s' ↔ ∃ r, o = .ok r ∧ Runs A p s t r s' :=
  runs_ofProgram

theorem runs_settle_bind {p : Attempt I α} {f : Except Fault α → Attempt I β} {o : Except Fault β} :
    Runs A (p.settle >>= f) s t o s' ↔
      ∃ t₁ r m t₂, t = t₁ ++ t₂ ∧ Runs A p s t₁ r m ∧ Runs A (f r) m t₂ o s' := by
  rw [runs_bind]
  constructor
  · rintro (⟨e, rfl, h⟩ | ⟨t₁, a, m, t₂, rfl, h₁, h₂⟩)
    · obtain ⟨r, hr, -⟩ := runs_settle.1 h
      cases hr
    · obtain ⟨r, hr, h₁⟩ := runs_settle.1 h₁
      cases hr
      exact ⟨t₁, a, m, t₂, rfl, h₁, h₂⟩
  · rintro ⟨t₁, r, m, t₂, rfl, h₁, h₂⟩
    exact Or.inr ⟨t₁, r, m, t₂, rfl, runs_settle.2 ⟨r, rfl, h₁⟩, h₂⟩

theorem runs_ofExcept {e o : Except Fault α} :
    Runs A (ofExcept e : Attempt I α) s t o s' ↔ t = [] ∧ o = e ∧ s' = s := by
  cases e with
  | ok a => exact runs_pure
  | error f => exact runs_throw

theorem ofExcept_ok_bind (a : α) (f : α → Attempt I β) : (ofExcept (.ok a) >>= f) = f a :=
  rfl

theorem ofExcept_error_bind (e : Fault) (f : α → Attempt I β) : (ofExcept (.error e) >>= f) = throw e :=
  rfl

/-- After an attempt that never fails, the next one goes on from its result. -/
theorem runs_bind_of_ok {p : Attempt I α} {f : α → Attempt I β} {o : Except Fault β}
    (hp : ∀ {t r m}, Runs A p s t r m → ∃ a, r = .ok a) (h : Runs A (p >>= f) s t o s') :
    ∃ t₁ a m t₂, t = t₁ ++ t₂ ∧ Runs A p s t₁ (.ok a) m ∧ Runs A (f a) m t₂ o s' := by
  rcases runs_bind.1 h with ⟨e, -, he⟩ | hok
  · obtain ⟨a, ha⟩ := hp he
    cases ha
  · exact hok

/-! ## Fixed replies -/

/-- What a program that may fail comes to when each request has one reply. -/
def eval (reply : Replies I) (p : Attempt I α) : Except Fault α :=
  p.outcome.eval reply

variable (reply : Replies I)

@[simp] theorem eval_pure (a : α) : (pure a : Attempt I α).eval reply = .ok a :=
  rfl

@[simp] theorem eval_throw (f : Fault) : (throw f : Attempt I α).eval reply = .error f :=
  rfl

@[simp] theorem eval_bind (p : Attempt I α) (f : α → Attempt I β) :
    (p >>= f).eval reply = p.eval reply >>= fun a => (f a).eval reply := by
  have hbind : (p >>= f).eval reply
      = Program.eval reply (ExceptT.bindCont f (p.eval reply) : Program I (Except Fault β)) :=
    Program.eval_bind reply p.outcome _
  rw [hbind]
  cases p.eval reply with
  | ok a => rfl
  | error e => rfl

theorem eval_bind_of_ok {reply : Replies I} {p : Attempt I α} {a : α} (h : p.eval reply = .ok a)
    (f : α → Attempt I β) : (p >>= f).eval reply = (f a).eval reply := by
  rw [eval_bind, h]
  rfl

@[simp] theorem eval_map (f : α → β) (p : Attempt I α) : (f <$> p).eval reply = (p.eval reply).map f := by
  refine (Program.eval_bind reply p.outcome _).trans ?_
  unfold Attempt.eval
  cases p.outcome.eval reply with
  | ok a => rfl
  | error e => rfl

@[simp] theorem eval_ofExcept (e : Except Fault α) : (ofExcept e : Attempt I α).eval reply = e := by
  cases e with
  | ok a => rfl
  | error f => rfl

@[simp] theorem eval_ofProgram (p : Program I α) : (ofProgram p).eval reply = .ok (p.eval reply) :=
  Program.eval_bind reply p _

/-- A program that may fail comes to the same over a wider interface if its requests are carried out as replied. -/
theorem eval_lift (wider : Replies J) (f : (r : I.Request) → Program J (I.Reply r))
    (hf : ∀ r, (f r).eval wider = reply r) (p : Attempt I α) : (p.lift f).eval wider = p.eval reply :=
  Program.eval_lift reply wider f hf p.outcome

@[simp] theorem eval_settle (p : Attempt I α) : p.settle.eval reply = .ok (p.eval reply) :=
  eval_ofProgram reply p.outcome

end Attempt

end Steward
