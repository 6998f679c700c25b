import Steward.Proofs.Program.Runs

/-!
# Contracts

A contract says what a program may request, and what may be replied to each request. A program that meets a contract
requests nothing else as long as it is replied to by the contract, and then comes to a result with some property. This
is proved along the program, without states, and used in every state in which the replies are by the contract.

## Contents

* `Contract` — what may be requested and replied; `Contract.any` — anything;
* `Program.Meets` — meeting a contract; `Meets.and`, `Meets.bind`, `Meets.lift`, `meets_of_asks` — along the program;
* `Program.Meets.of_runs` — a run in which the replies are by the contract;
* `Attempt.Meets` — the same for programs that may fail: of a failure nothing is said; `Attempt.Meets.of_runs`;
* `Attempt.Delivers` — programs that do not fail.
-/

namespace Steward

/-- What a program may request, and what may be replied to it. -/
structure Contract (I : Interface) where
  asks : I.Request → Prop
  replies : (r : I.Request) → I.Reply r → Prop

/-- Anything may be requested, and anything replied. -/
def Contract.any (I : Interface) : Contract I where
  asks _ := True
  replies _ _ := True

namespace Program

variable {I J : Interface} {α β : Type} {c : Contract I} {mid : β → Prop} {post : α → Prop}

/-- **The program meets the contract**: it keeps to it, and comes to such a result, while others keep to it. -/
inductive Meets (c : Contract I) (post : α → Prop) : Program I α → Prop where
  | done {a : α} (h : post a) : Meets c post (.done a)
  | ask {r : I.Request} {next : I.Reply r → Program I α} (hr : c.asks r)
      (rest : ∀ reply, c.replies r reply → Meets c post (next reply)) : Meets c post (.ask r next)

theorem Meets.mono {weaker : α → Prop} {p : Program I α} (h : Meets c post p) (hpost : ∀ a, post a → weaker a) :
    Meets c weaker p := by
  induction h with
  | done h => exact Meets.done (hpost _ h)
  | ask hr _ ih => exact Meets.ask hr ih

/-- What holds of the results by contracts that allow more is added. -/
theorem Meets.and {d : Contract I} {more : α → Prop} {p : Program I α} (h : Meets c post p) (h' : Meets d more p)
    (hreplies : ∀ r reply, c.replies r reply → d.replies r reply) : Meets c (fun a => post a ∧ more a) p := by
  induction h with
  | done h =>
    cases h' with
    | done h' => exact Meets.done ⟨h, h'⟩
  | ask hr _ ih =>
    cases h' with
    | ask _ goesOn => exact Meets.ask hr fun reply hreply => ih reply hreply (goesOn reply (hreplies _ _ hreply))

/-- **Two programs in a row** meet the contract if the second does after any result of the first. -/
theorem Meets.bind {p : Program I β} {f : β → Program I α} (h : Meets c mid p) (hf : ∀ b, mid b → Meets c post (f b)) :
    Meets c post (p.bind f) := by
  induction h with
  | done h => exact hf _ h
  | ask hr _ ih => exact Meets.ask hr ih

/-- A program meets the contract of a wider interface if whatever carries out its requests does, and replies by its
own. -/
theorem Meets.lift {d : Contract J} {f : (r : I.Request) → Program J (I.Reply r)} {p : Program I α}
    (h : Meets c post p) (hf : ∀ r, c.asks r → Meets d (c.replies r) (f r)) : Meets d post (p.lift f) := by
  induction h with
  | done h => exact Meets.done h
  | ask hr _ ih => exact (hf _ hr).bind ih

/-- Where everything may be requested, every program meets the contract. -/
theorem meets_of_asks (h : ∀ r, c.asks r) (p : Program I α) : Meets c (fun _ => True) p := by
  induction p with
  | done a => exact Meets.done trivial
  | ask r next ih => exact Meets.ask (h r) fun reply _ => ih reply

/-- If each request has one reply, by the contract, the program comes to a result with the property. -/
theorem Meets.eval {p : Program I α} (h : Meets c post p) {reply : Replies I} (hreply : ∀ r, c.replies r (reply r)) :
    post (p.eval reply) := by
  induction h with
  | done h => exact h
  | ask _ _ ih => exact ih _ (hreply _)

/-- A run in which the replies are by the contract comes to a result with the property. -/
theorem Meets.of_runs {σ : Type} {A : Answering I σ} {p : Program I α} {s s' : σ} {t : List (Exchange I)} {a : α}
    (h : Meets c post p) (hA : ∀ r s reply s', A r s reply s' → c.replies r reply) (hruns : Runs A p s t a s') :
    post a := by
  induction hruns with
  | done a s =>
    cases h with
    | done h => exact h
  | ask answer _ ih =>
    cases h with
    | ask _ goesOn => exact ih (goesOn _ (hA _ _ _ _ answer))

end Program

/-! ## Programs that may fail -/

namespace Attempt

variable {I J : Interface} {α β : Type} {c : Contract I} {mid : β → Prop} {post : α → Prop}

/-- An outcome has a property if its result does. -/
def Good (post : α → Prop) (o : Except Fault α) : Prop :=
  ∀ a, o = .ok a → post a

theorem good_ok {a : α} (h : post a) : Good post (.ok a) := by
  rintro _ ⟨⟩
  exact h

theorem good_error (f : Fault) : Good post (.error f) := by
  rintro _ ⟨⟩

/-- The program meets the contract, whether it fails or not. -/
structure Meets (c : Contract I) (post : α → Prop) (p : Attempt I α) : Prop where
  outcome : Program.Meets c (Good post) p.outcome

theorem meets_pure {a : α} (h : post a) : Meets c post (pure a : Attempt I α) :=
  ⟨Program.Meets.done (good_ok h)⟩

theorem meets_throw (f : Fault) : Meets c post (throw f : Attempt I α) :=
  ⟨Program.Meets.done (good_error f)⟩

theorem meets_ofExcept {o : Except Fault α} (h : Good post o) : Meets c post (ofExcept o : Attempt I α) := by
  cases o with
  | ok a => exact meets_pure (h a rfl)
  | error f => exact meets_throw f

theorem meets_ofExcept_any (o : Except Fault α) : Meets c (fun _ => True) (ofExcept o : Attempt I α) :=
  meets_ofExcept fun _ _ => trivial

theorem Meets.mono {weaker : α → Prop} {p : Attempt I α} (h : Meets c post p) (hpost : ∀ a, post a → weaker a) :
    Meets c weaker p := by
  refine ⟨h.outcome.mono ?_⟩
  intro o ho a ha
  exact hpost a (ho a ha)

theorem Meets.bind {p : Attempt I β} {f : β → Attempt I α} (h : Meets c mid p) (hf : ∀ b, mid b → Meets c post (f b)) :
    Meets c post (p >>= f) := by
  refine ⟨h.outcome.bind ?_⟩
  intro o ho
  cases o with
  | ok b => exact (hf b (ho b rfl)).outcome
  | error f => exact Program.Meets.done (good_error f)

theorem meets_ofProgram {p : Program I α} (h : Program.Meets c post p) : Meets c post (ofProgram p) :=
  ⟨h.bind fun _ ha => Program.Meets.done (good_ok ha)⟩

/-- A settled attempt goes on with its outcome. -/
theorem Meets.settle {p : Attempt I α} (h : Meets c post p) : Meets c (Good post) p.settle :=
  meets_ofProgram h.outcome

/-- What is said of outcomes goes over to outcomes whose results are changed. -/
theorem outcome_map {f : β → α} {p : Attempt I β} {post : Except Fault α → Prop}
    (h : Program.Meets c (fun o => post (o.map f)) p.outcome) :
    Program.Meets c post (f <$> p : Attempt I α).outcome := by
  refine h.bind ?_
  intro o ho
  cases o with
  | ok b => exact Program.Meets.done ho
  | error e => exact Program.Meets.done ho

theorem Meets.map {f : β → α} {p : Attempt I β} (h : Meets c (fun b => post (f b)) p) : Meets c post (f <$> p) := by
  refine ⟨outcome_map (h.outcome.mono ?_)⟩
  intro o ho
  cases o with
  | ok b => exact good_ok (ho b rfl)
  | error e => exact good_error e

theorem Meets.lift {d : Contract J} {f : (r : I.Request) → Program J (I.Reply r)} {p : Attempt I α} (h : Meets c post p)
    (hf : ∀ r, c.asks r → Program.Meets d (c.replies r) (f r)) : Meets d post (p.lift f) :=
  ⟨h.outcome.lift hf⟩

theorem meets_of_asks (h : ∀ r, c.asks r) (p : Attempt I α) : Meets c (fun _ => True) p :=
  ⟨(Program.meets_of_asks h p.outcome).mono fun _ _ _ _ => trivial⟩

/-- A program has the property of its results that it has whatever is replied. -/
theorem Meets.of_runs {σ : Type} {A : Answering I σ} {p : Attempt I α} {s s' : σ} {t : List (Exchange I)} {a : α}
    (h : Meets (Contract.any I) post p) (hruns : Runs A p s t (.ok a) s') : post a :=
  h.outcome.of_runs (fun _ _ _ _ _ => trivial) hruns a rfl

/-! ## Programs that do not fail -/

/-- The program meets the contract, and does not fail. -/
structure Delivers (c : Contract I) (post : α → Prop) (p : Attempt I α) : Prop where
  outcome : Program.Meets c (fun o => ∃ a, o = .ok a ∧ post a) p.outcome

theorem delivers_pure {a : α} (h : post a) : Delivers c post (pure a : Attempt I α) :=
  ⟨Program.Meets.done ⟨a, rfl, h⟩⟩

theorem delivers_ofExcept {a : α} (h : post a) : Delivers c post (ofExcept (.ok a) : Attempt I α) :=
  delivers_pure h

theorem Delivers.bind {p : Attempt I β} {f : β → Attempt I α} (h : Delivers c mid p)
    (hf : ∀ b, mid b → Delivers c post (f b)) : Delivers c post (p >>= f) := by
  refine ⟨h.outcome.bind ?_⟩
  rintro _ ⟨b, rfl, hb⟩
  exact (hf b hb).outcome

theorem delivers_ofProgram {p : Program I α} (h : Program.Meets c post p) : Delivers c post (ofProgram p) :=
  ⟨h.bind fun a ha => Program.Meets.done ⟨a, rfl, ha⟩⟩

/-- Whether an attempt fails or not, to settle it does not. -/
theorem delivers_settle (h : ∀ r, c.asks r) (p : Attempt I α) : Delivers c (fun _ => True) p.settle :=
  delivers_ofProgram (Program.meets_of_asks h p.outcome)

end Attempt

end Steward
