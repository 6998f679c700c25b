import Steward.Proofs.Program.Contract

/-!
# How programs end

`Attempt.Meets` says nothing of a program that fails. `Attempt.Ends` does: if the program fails, its fault is one of
these. A handler that catches faults, and one that passes them on, differ in nothing else, so what an operation may
fail with is told along the program, rule by rule.

What was exchanged leads from one state to another, whatever program it was exchanged by (`Answering.Leads`). So what a
run leaves can be read off its exchanges.

## Contents

* `Answering.Leads`, `Program.Runs.leads` — from state to state; `Leads.keeps` — what every exchange keeps;
  `Runs.confine` — runs that go through certain states only;
* `Program.Meets.of_trace` — a run in which the exchanged replies are by the contract; `Meets.keeps` — states by which
  the replies are; `Meets.weaken` — other contracts;
* `Attempt.Ended`, `Attempt.Ends` — results and faults;
* `ends_pure`, `ends_throw`, `ends_ofExcept`, `Ends.bind`, `Ends.settle_bind`, `Ends.lift` — along the program.
-/

namespace Steward

/-! ## From state to state -/

/-- These exchanges, one after the other, lead from one state to another. -/
inductive Answering.Leads {I : Interface} {σ : Type} (A : Answering I σ) : σ → List (Exchange I) → σ → Prop where
  | nil (s : σ) : Leads A s [] s
  | cons {r : I.Request} {reply : I.Reply r} {s m s' : σ} {t : List (Exchange I)} (answer : A r s reply m)
      (rest : Leads A m t s') : Leads A s (⟨r, reply⟩ :: t) s'

namespace Answering.Leads

variable {I : Interface} {σ : Type} {A : Answering I σ} {s s' : σ} {t t₁ t₂ : List (Exchange I)}

theorem append {m : σ} (h₁ : A.Leads s t₁ m) (h₂ : A.Leads m t₂ s') : A.Leads s (t₁ ++ t₂) s' := by
  induction h₁ with
  | nil => exact h₂
  | cons answer _ ih => exact cons answer (ih h₂)

theorem split (h : A.Leads s (t₁ ++ t₂) s') : ∃ m, A.Leads s t₁ m ∧ A.Leads m t₂ s' := by
  induction t₁ generalizing s with
  | nil => exact ⟨s, nil s, h⟩
  | cons e rest ih =>
    cases h with
    | cons answer h =>
      obtain ⟨m, hfirst, hsecond⟩ := ih h
      exact ⟨m, cons answer hfirst, hsecond⟩

/-- What every such exchange keeps is kept. -/
theorem keeps {P : σ → Prop} {Q : I.Request → Prop} (step : ∀ {r s reply s'}, Q r → P s → A r s reply s' → P s')
    (h : A.Leads s t s') (ht : ∀ e ∈ t, Q e.request) (hs : P s) : P s' := by
  induction h with
  | nil s => exact hs
  | cons answer _ ih =>
    obtain ⟨hfirst, hrest⟩ := List.forall_mem_cons.1 ht
    exact ih hrest (step hfirst hs answer)

end Answering.Leads

namespace Program

variable {I : Interface} {α σ : Type} {c d : Contract I} {post : α → Prop}

/-- What a run exchanges leads from where it starts to where it ends. -/
theorem Runs.leads {A : Answering I σ} {p : Program I α} {s s' : σ} {t : List (Exchange I)} {a : α}
    (h : Runs A p s t a s') : A.Leads s t s' := by
  induction h with
  | done a s => exact Answering.Leads.nil s
  | ask answer _ ih => exact Answering.Leads.cons answer ih

/-- If every step into certain states starts in such a state, a run into one of them goes through no others. -/
theorem Runs.confine {A : Answering I σ} {P : σ → Prop} (back : ∀ {r s reply s'}, A r s reply s' → P s' → P s)
    {p : Program I α} {s s' : σ} {t : List (Exchange I)} {a : α} (h : Runs A p s t a s') (hs' : P s') :
    Runs (fun r s reply s' => A r s reply s' ∧ P s') p s t a s' ∧ P s := by
  induction h with
  | done a s => exact ⟨Runs.done a s, hs'⟩
  | ask answer _ ih =>
    obtain ⟨hrest, hm⟩ := ih hs'
    exact ⟨Runs.ask ⟨answer, hm⟩ hrest, back answer hm⟩

/-! ## Runs and contracts -/

/-- What is known of the replies of one run is enough for that run: it comes to a result with the property, and
requests nothing but what the contract allows. -/
theorem Meets.of_trace {A : Answering I σ} {p : Program I α} {s s' : σ} {t : List (Exchange I)} {a : α}
    (h : Meets c post p) (hruns : Runs A p s t a s') (hreplies : ∀ e ∈ t, c.replies e.request e.reply) :
    post a ∧ ∀ e ∈ t, c.asks e.request := by
  induction hruns with
  | done a s =>
    cases h with
    | done h => exact ⟨h, List.forall_mem_nil _⟩
  | ask answer _ ih =>
    obtain ⟨hreply, hrest⟩ := List.forall_mem_cons.1 hreplies
    cases h with
    | ask hr goesOn =>
      obtain ⟨hpost, hasks⟩ := ih (goesOn _ hreply) hrest
      exact ⟨hpost, List.forall_mem_cons.2 ⟨hr, hasks⟩⟩

/-- In states in which replies are by the contract, and which stay such states, a program comes to a result with the
property and ends in such a state. -/
theorem Meets.keeps {A : Answering I σ} {P : σ → Prop}
    (step : ∀ {r s reply s'}, c.asks r → P s → A r s reply s' → c.replies r reply ∧ P s') {p : Program I α} {s s' : σ}
    {t : List (Exchange I)} {a : α} (h : Meets c post p) (hruns : Runs A p s t a s') (hs : P s) : post a ∧ P s' := by
  induction hruns with
  | done a s =>
    cases h with
    | done h => exact ⟨h, hs⟩
  | ask answer _ ih =>
    cases h with
    | ask hr goesOn =>
      obtain ⟨hreply, hm⟩ := step hr hs answer
      exact ih (goesOn _ hreply) hm

/-- A contract that allows more, and by which less is replied, is met too. -/
theorem Meets.weaken {p : Program I α} (h : Meets c post p) (hasks : ∀ r, c.asks r → d.asks r)
    (hreplies : ∀ r reply, d.replies r reply → c.replies r reply) : Meets d post p := by
  induction h with
  | done h => exact Meets.done h
  | ask hr _ ih => exact Meets.ask (hasks _ hr) fun reply hreply => ih reply (hreplies _ _ hreply)

end Program

namespace Attempt

variable {I J : Interface} {α β : Type} {c : Contract I} {mid : β → Prop} {post : α → Prop} {faults : Fault → Prop}

/-- An outcome is such a result or such a fault. -/
def Ended (post : α → Prop) (faults : Fault → Prop) : Except Fault α → Prop
  | .ok a => post a
  | .error f => faults f

/-- **The program ends** with such a result or such a fault, and meets the contract on the way. -/
structure Ends (c : Contract I) (post : α → Prop) (faults : Fault → Prop) (p : Attempt I α) : Prop where
  outcome : Program.Meets c (Ended post faults) p.outcome

theorem ends_pure {a : α} (h : post a) : Ends c post faults (pure a : Attempt I α) :=
  ⟨Program.Meets.done h⟩

theorem ends_throw {f : Fault} (h : faults f) : Ends c post faults (throw f : Attempt I α) :=
  ⟨Program.Meets.done h⟩

theorem ends_ofExcept {o : Except Fault α} (h : Ended post faults o) :
    Ends c post faults (ofExcept o : Attempt I α) := by
  cases o with
  | ok a => exact ends_pure h
  | error f => exact ends_throw h

theorem Ended.mono {weaker : α → Prop} {more : Fault → Prop} {o : Except Fault α} (h : Ended post faults o)
    (hpost : ∀ a, post a → weaker a) (hfaults : ∀ f, faults f → more f) : Ended weaker more o := by
  cases o with
  | ok a => exact hpost a h
  | error f => exact hfaults f h

theorem Ends.mono {weaker : α → Prop} {more : Fault → Prop} {p : Attempt I α} (h : Ends c post faults p)
    (hpost : ∀ a, post a → weaker a) (hfaults : ∀ f, faults f → more f) : Ends c weaker more p := by
  refine ⟨h.outcome.mono ?_⟩
  intro o ho
  exact ho.mono hpost hfaults

/-- Of a program that fails a contract does not speak. -/
theorem Ends.meets {p : Attempt I α} (h : Ends c post faults p) : Meets c post p := by
  refine ⟨h.outcome.mono ?_⟩
  rintro _ ho a rfl
  exact ho

/-- A program that meets a contract ends with any fault. -/
theorem Meets.ends {p : Attempt I α} (h : Meets c post p) : Ends c post (fun _ => True) p := by
  refine ⟨h.outcome.mono ?_⟩
  intro o ho
  cases o with
  | ok a => exact ho a rfl
  | error f => trivial

/-- **Two programs in a row** end as the first does if that fails, and else as the second does. -/
theorem Ends.bind {p : Attempt I β} {f : β → Attempt I α} (h : Ends c mid faults p)
    (hf : ∀ b, mid b → Ends c post faults (f b)) : Ends c post faults (p >>= f) := by
  refine ⟨h.outcome.bind ?_⟩
  intro o ho
  cases o with
  | ok b => exact (hf b ho).outcome
  | error e => exact Program.Meets.done ho

/-- What is known of its results whatever is replied is added. -/
theorem Ends.and_meets {more : α → Prop} {p : Attempt I α} (h : Ends c post faults p)
    (h' : Meets (Contract.any I) more p) : Ends c (fun a => post a ∧ more a) faults p := by
  refine ⟨(h.outcome.and h'.outcome fun _ _ _ => trivial).mono ?_⟩
  rintro o ⟨hended, hgood⟩
  cases o with
  | ok a => exact ⟨hended, hgood a rfl⟩
  | error f => exact hended

theorem ends_ofProgram {p : Program I α} (h : Program.Meets c post p) : Ends c post faults (ofProgram p) :=
  ⟨h.bind fun _ ha => Program.Meets.done ha⟩

/-- A fault that is caught is a value to go on with. -/
theorem Ends.settle_bind {caught : Fault → Prop} {p : Attempt I β} {f : Except Fault β → Attempt I α}
    (h : Ends c mid caught p) (hf : ∀ o, Ended mid caught o → Ends c post faults (f o)) :
    Ends c post faults (p.settle >>= f) :=
  (ends_ofProgram h.outcome).bind hf

theorem Ends.lift {d : Contract J} {f : (r : I.Request) → Program J (I.Reply r)} {p : Attempt I α}
    (h : Ends c post faults p) (hf : ∀ r, c.asks r → Program.Meets d (c.replies r) (f r)) :
    Ends d post faults (p.lift f) :=
  ⟨h.outcome.lift hf⟩

/-- Of a program that may request anything nothing else is known. -/
theorem ends_of_asks (h : ∀ r, c.asks r) (p : Attempt I α) : Ends c (fun _ => True) (fun _ => True) p := by
  refine ⟨(Program.meets_of_asks h p.outcome).mono ?_⟩
  rintro (f | a) -
  · trivial
  · trivial

/-- A program that does not fail ends with no fault. -/
theorem Delivers.ends {p : Attempt I α} (h : Delivers c post p) : Ends c post faults p := by
  refine ⟨h.outcome.mono ?_⟩
  rintro _ ⟨a, rfl, ha⟩
  exact ha

/-- A program with no fault to end with does not fail. -/
theorem Ends.delivers {p : Attempt I α} (h : Ends c post faults p) (hnone : ∀ f, ¬ faults f) : Delivers c post p := by
  refine ⟨h.outcome.mono ?_⟩
  intro o ho
  cases o with
  | ok a => exact ⟨a, rfl, ho⟩
  | error f => exact absurd ho (hnone f)

/-- A run in which the exchanged replies are by the contract ends so. -/
theorem Ends.of_trace {σ : Type} {A : Answering I σ} {p : Attempt I α} {s s' : σ} {t : List (Exchange I)}
    {o : Except Fault α} (h : Ends c post faults p) (hruns : Runs A p s t o s')
    (hreplies : ∀ e ∈ t, c.replies e.request e.reply) :
    Ended post faults o ∧ ∀ e ∈ t, c.asks e.request :=
  h.outcome.of_trace hruns hreplies

end Attempt

end Steward
