import Mathlib.Algebra.BigOperators.Group.List.Basic
import Steward.Deployment.Run
import Steward.Proofs.Deployment.Methods
import Steward.Proofs.Measure.Counters
import Steward.Proofs.Program.Endings

/-!
# Accounts of the pipeline

Every call of the pipeline is entered in the counters by its outcome, and nothing else is. So what is measured in a run
is the row of the outcomes of its calls, those of other faults apart. That holds of the single operation, and it is kept
when programs are put together; so it holds of every method, of every deployment, and of any row of both.

## Contents

* `Staging.measures`, `Answered.outcome` — what is measured in a run, and how its calls ended;
* `Balanced` — the two agree; `Accounted` — programs of which every run is balanced, rule by rule;
* `Method.accounted_program`, `Plan.accounted_deploy` — methods and deployments;
* `Staging.Metered` — whoever answers, and the counters; `Usage` — deployments and methods in a row;
* `Balanced.total_raised`, `Balanced.says` — what is entered under an outcome, and what the counters say after it.
-/

namespace Steward

variable {τ : Type}

/-! ## What is entered -/

namespace Staging

/-- What is measured in a run. -/
def measures (t : List (Exchange (Staging τ))) : List Measure :=
  t.filterMap fun e =>
    match e with
    | ⟨.measure m, _⟩ => some m
    | _ => none

@[simp] theorem measures_nil : measures ([] : List (Exchange (Staging τ))) = [] :=
  rfl

@[simp] theorem measures_append (t₁ t₂ : List (Exchange (Staging τ))) :
    measures (t₁ ++ t₂) = measures t₁ ++ measures t₂ :=
  List.filterMap_append

/-- A request that is neither a call nor a measure. -/
def Request.isSilent : Staging.Request τ → Bool
  | .call _ | .measure _ => false
  | _ => true

end Staging

/-- How a call ended, as it is entered: well, or with a failure of the platform. Other faults are not entered. -/
def Answered.outcome (a : Answered) : Option String :=
  match a.answer with
  | .ok _ => some "ok"
  | .error f => if f.isRemote then some "error" else none

/-- **What is measured is how the calls ended**, call by call. -/
def Balanced (t : List (Exchange (Staging τ))) : Prop :=
  ∃ steps : List (Operation × String),
    Staging.measures t = steps.map (fun s => .step s.1.name s.2) ∧
      steps.map (·.2) = (calls t).filterMap Answered.outcome

theorem balanced_nil : Balanced ([] : List (Exchange (Staging τ))) :=
  ⟨[], rfl, rfl⟩

theorem Balanced.append {t₁ t₂ : List (Exchange (Staging τ))} (h₁ : Balanced t₁) (h₂ : Balanced t₂) :
    Balanced (t₁ ++ t₂) := by
  obtain ⟨steps₁, hmeasures₁, hcalls₁⟩ := h₁
  obtain ⟨steps₂, hmeasures₂, hcalls₂⟩ := h₂
  refine ⟨steps₁ ++ steps₂, ?_, ?_⟩
  · rw [Staging.measures_append, hmeasures₁, hmeasures₂, List.map_append]
  · rw [calls_append, List.filterMap_append, List.map_append, hcalls₁, hcalls₂]

/-! ## Programs whose runs are balanced -/

/-- Every run of the program is balanced. -/
def Accounted {α : Type} (p : Attempt (Staging τ) α) : Prop :=
  ∀ t o, Stages p t o → Balanced t

section

variable {α β : Type}

theorem accounted_pure (a : α) : Accounted (pure a : Attempt (Staging τ) α) := by
  intro t o h
  obtain ⟨rfl, -⟩ := Attempt.runs_pure.1 h
  exact balanced_nil

theorem accounted_throw (f : Fault) : Accounted (throw f : Attempt (Staging τ) α) := by
  intro t o h
  obtain ⟨rfl, -⟩ := Attempt.runs_throw.1 h
  exact balanced_nil

theorem accounted_ofExcept (o : Except Fault α) : Accounted (.ofExcept o : Attempt (Staging τ) α) := by
  cases o with
  | ok a => exact accounted_pure a
  | error f => exact accounted_throw f

theorem Accounted.bind {p : Attempt (Staging τ) α} {f : α → Attempt (Staging τ) β} (h : Accounted p)
    (hf : ∀ a, Accounted (f a)) : Accounted (p >>= f) := by
  intro t o hruns
  rcases Staging.runs_bind.1 hruns with ⟨e, -, he⟩ | ⟨t₁, a, t₂, rfl, h₁, h₂⟩
  · exact h t _ he
  · exact (h t₁ _ h₁).append (hf a t₂ o h₂)

theorem Accounted.settle {p : Attempt (Staging τ) α} (h : Accounted p) : Accounted p.settle := by
  intro t o hruns
  obtain ⟨r, -, hr⟩ := Attempt.runs_settle.1 hruns
  exact h t r hr

theorem Accounted.ite {c : Prop} [Decidable c] {p q : Attempt (Staging τ) α} (hp : Accounted p) (hq : Accounted q) :
    Accounted (if c then p else q) := by
  split
  · exact hp
  · exact hq

theorem accounted_ask {r : Staging.Request τ} (hr : r.isSilent = true) : Accounted (Staging.ask r) := by
  intro t o h
  obtain ⟨reply, -, hrun⟩ := Attempt.runs_ofProgram.1 h
  obtain ⟨rfl, -⟩ := Program.runs_request.1 hrun
  cases r with
  | call c => cases hr
  | measure m => cases hr
  | _ => exact ⟨[], rfl, rfl⟩

theorem accounted_report (level : Level) (text : String) (fields : List (String × Value)) :
    Accounted (Staging.report (τ := τ) level text fields) :=
  accounted_ask rfl

end

/-! ## Operations -/

namespace Pipeline

/-- **An operation enters how its call ended.** -/
theorem accounted_operate (operation : Operation) (c : Call) : Accounted (operate (τ := τ) operation c) := by
  intro t o h
  unfold operate at h
  obtain ⟨t₁, answer, ⟨⟩, t₂, rfl, h₁, h₂⟩ := Attempt.runs_settle_bind.1 h
  obtain ⟨rfl, -⟩ := Program.runs_request.1 h₁
  cases answer with
  | ok a =>
    obtain ⟨-, ⟨⟩, rest, rfl, -, hrest⟩ := Attempt.runs_request_bind.1 h₂
    obtain ⟨rfl, -⟩ := Attempt.runs_pure.1 hrest
    exact ⟨[(operation, "ok")], rfl, rfl⟩
  | error f =>
    dsimp only at h₂
    cases hremote : f.isRemote with
    | true =>
      rw [hremote, if_pos rfl] at h₂
      obtain ⟨-, ⟨⟩, rest, rfl, -, hrest⟩ := Attempt.runs_request_bind.1 h₂
      obtain ⟨-, ⟨⟩, rest', rfl, -, hrest'⟩ := Attempt.runs_request_bind.1 hrest
      obtain ⟨rfl, -⟩ := Attempt.runs_throw.1 hrest'
      refine ⟨[(operation, "error")], rfl, ?_⟩
      simp [calls, Answered.outcome, hremote]
    | false =>
      rw [hremote, if_neg Bool.false_ne_true] at h₂
      obtain ⟨rfl, -⟩ := Attempt.runs_throw.1 h₂
      refine ⟨[], rfl, ?_⟩
      simp [calls, Answered.outcome, hremote]

theorem carriesOver_accounted : CarriesOver (τ := τ) Accounted where
  pure := accounted_pure
  throw := accounted_throw
  bind := Accounted.bind
  report := accounted_report
  operate := accounted_operate

end Pipeline

/-- **Every method is accounted for.** -/
theorem Method.accounted_program (m : Method) : Accounted (m.program (τ := τ)) :=
  Pipeline.carriesOver_accounted.program m

/-! ## Deployments -/

namespace Plan

theorem accounted_save (p : Progress) : Accounted (save (τ := τ) p) :=
  (accounted_ask rfl).bind fun _ => accounted_pure _

/-- What is done about a wait that failed. -/
theorem accounted_setback {f : Fault} {q : Progress} {level : Level} {text : String} {fields : List (String × Value)} :
    Accounted (if f.isTerminal then Staging.report level text fields >>= fun _ => save q >>= fun _ => throw f
      else throw f : Attempt (Staging τ) Progress) :=
  .ite ((accounted_report _ _ _).bind fun _ => (accounted_save q).bind fun _ => accounted_throw f) (accounted_throw f)

variable [Add τ] [LT τ] [DecidableLT τ] (plan : Plan τ)

theorem accounted_awaitReady {wait : Wait} {poll : Attempt (Staging τ) Readiness} (hpoll : Accounted poll)
    (deadline : τ) (patience : Nat) : Accounted (plan.awaitReady wait poll deadline patience) := by
  induction patience with
  | zero => exact accounted_throw _
  | succ patience ih =>
    refine hpoll.bind fun readiness => ?_
    cases readiness with
    | ready => exact accounted_pure _
    | pending =>
      refine (accounted_ask rfl).bind fun now => .ite (accounted_throw _) ?_
      exact (accounted_ask rfl).bind fun _ => ih

theorem accounted_packageReady (deadline : τ) (p : Progress) : Accounted (plan.packageReady deadline p) := by
  refine .ite ?_ (accounted_pure p)
  refine (plan.accounted_awaitReady (Method.accounted_program (.pollPackage _)) deadline _).settle.bind fun r => ?_
  cases r with
  | error f => exact accounted_setback
  | ok a =>
    exact (accounted_save _).bind fun p => (accounted_report _ _ _).bind fun _ => accounted_pure p

theorem accounted_buildReady (deadline : τ) (p : Progress) : Accounted (plan.buildReady deadline p) := by
  refine .ite ?_ (accounted_pure p)
  refine (plan.accounted_awaitReady (Method.accounted_program (.pollBuild _)) deadline _).settle.bind fun r => ?_
  cases r with
  | error f => exact accounted_setback
  | ok a =>
    refine (Method.accounted_program (.dropletOfBuild _)).bind fun named => ?_
    cases named with
    | none => exact accounted_throw _
    | some droplet =>
      exact (accounted_save _).bind fun p => (accounted_report _ _ _).bind fun _ => accounted_pure p

omit [Add τ] [LT τ] [DecidableLT τ] in
/-- A stage that makes something and saves it. -/
theorem accounted_stage {α : Type} {c : Prop} [Decidable c] {make : Attempt (Staging τ) α} (hmake : Accounted make)
    (keep : α → Progress) (p : Progress) : Accounted (if c then make >>= fun a => save (keep a) else pure p) :=
  .ite (hmake.bind fun _ => accounted_save _) (accounted_pure p)

omit [Add τ] [LT τ] [DecidableLT τ] in
theorem accounted_startApp (p : Progress) : Accounted (plan.startApp p) :=
  .ite (.ite ((Pipeline.accounted_operate _ _).bind fun _ => accounted_save _) (accounted_save _)) (accounted_pure p)

/-- **Every deployment is accounted for.** -/
theorem accounted_deploy (saved : Option Progress) : Accounted (plan.deploy saved) := by
  have hresume : ∀ p, Accounted (plan.resume p) := by
    intro p
    refine (accounted_ask rfl).bind fun began => ?_
    refine (accounted_stage (Method.accounted_program (.createPackage _)) _ p).bind fun p => ?_
    refine (accounted_stage (Method.accounted_program (.uploadBits _ _)) _ p).bind fun p => ?_
    refine (plan.accounted_packageReady _ p).bind fun p => ?_
    refine (accounted_stage (Method.accounted_program (.createBuild _)) _ p).bind fun p => ?_
    refine (plan.accounted_buildReady _ p).bind fun p => ?_
    refine (accounted_stage (Method.accounted_program (.setDroplet _ _)) _ p).bind fun p => ?_
    refine (plan.accounted_startApp p).bind fun p => ?_
    exact (accounted_report _ _ _).bind fun _ => accounted_pure p
  cases saved with
  | some p => exact hresume p
  | none => exact (accounted_ofExcept _).bind hresume

end Plan

/-! ## Deployments and methods in a row -/

/-- Whoever answers, and the counters: any reply is possible, and what is measured is entered. -/
def Staging.Metered (meter : Meter) : Answering (Staging τ) Tally :=
  fun r s _ s' =>
    match r with
    | .measure m => s' = (meter.record m s).2
    | _ => s' = s

/-- What is measured in a run is all that changes the counters. -/
theorem Staging.runs_metered {meter : Meter} {α : Type} {p : Attempt (Staging τ) α} {s s' : Tally}
    {t : List (Exchange (Staging τ))} {o : Except Fault α} (h : Attempt.Runs (Metered meter) p s t o s') :
    Stages p t o ∧ s' = meter.recordAll s (measures t) := by
  constructor
  · obtain ⟨⟨⟩, hruns, -⟩ := Program.Runs.simulate (B := Answering.any (Staging τ)) (fun _ _ => True)
      (fun _ _ _ _ _ _ _ => ⟨(), trivial, trivial⟩) (w := ()) trivial h
    exact hruns
  · have hleads := Program.Runs.leads h
    clear h
    induction hleads with
    | nil s => rfl
    | @cons r reply s m s' t answer _ ih =>
      rw [ih]
      cases r with
      | measure d =>
        obtain rfl : m = (meter.record d s).2 := answer
        exact (meter.recordAll_cons d (measures t)).symm
      | _ =>
        obtain rfl : m = s := answer
        rfl

/-- Any run is one with the counters beside it. -/
theorem Staging.metered_of_stages (meter : Meter) {α : Type} {p : Attempt (Staging τ) α} (s : Tally)
    {t : List (Exchange (Staging τ))} {o : Except Fault α} (h : Stages p t o) :
    Attempt.Runs (Metered meter) p s t o (meter.recordAll s (measures t)) := by
  have hstep : ∀ (r : Staging.Request τ) (_ : Unit) (reply : Staging.Reply τ r) (_ : Unit) (w : Tally), True →
      Answering.any (Staging τ) r () reply () → ∃ w', Metered meter r w reply w' ∧ True := by
    intro r _ reply _ w _ _
    cases r with
    | measure m => exact ⟨_, rfl, trivial⟩
    | _ => exact ⟨w, rfl, trivial⟩
  obtain ⟨s', hruns, -⟩ := Program.Runs.simulate (B := Metered meter) (fun _ _ => True) hstep (w := s) trivial h
  have hs' := (runs_metered hruns).2
  rw [← hs']
  exact hruns

/-- What the pipeline is used for. -/
inductive Use (τ : Type) where
  | deploy (plan : Plan τ) (saved : Option Progress)
  | method (m : Method)

section

variable [Add τ] [LT τ] [DecidableLT τ]

/-- A run of a use, however it ends. -/
def Use.Runs (meter : Meter) (s : Tally) (t : List (Exchange (Staging τ))) (s' : Tally) : Use τ → Prop
  | deploy plan saved => ∃ o, Attempt.Runs (Staging.Metered meter) (plan.deploy saved) s t o s'
  | method m => ∃ o, Attempt.Runs (Staging.Metered meter) m.program s t o s'

/-- Deployments and methods in a row, with the counters before and after. -/
inductive Usage (meter : Meter) : Tally → List (Use τ) → List (Exchange (Staging τ)) → Tally → Prop where
  | nil (s : Tally) : Usage meter s [] [] s
  | cons {u : Use τ} {us : List (Use τ)} {s m s' : Tally} {t t' : List (Exchange (Staging τ))}
      (run : u.Runs meter s t m) (rest : Usage meter m us t' s') : Usage meter s (u :: us) (t ++ t') s'

theorem Use.Runs.accounted {meter : Meter} {u : Use τ} {s s' : Tally} {t : List (Exchange (Staging τ))}
    (h : u.Runs meter s t s') : Balanced t ∧ s' = meter.recordAll s (Staging.measures t) := by
  cases u with
  | deploy plan saved =>
    obtain ⟨o, hruns⟩ := h
    obtain ⟨hstages, hs'⟩ := Staging.runs_metered hruns
    exact ⟨plan.accounted_deploy saved t o hstages, hs'⟩
  | method m =>
    obtain ⟨o, hruns⟩ := h
    obtain ⟨hstages, hs'⟩ := Staging.runs_metered hruns
    exact ⟨m.accounted_program t o hstages, hs'⟩

/-- **Any row of uses is balanced**, and what is measured in it is what is entered. -/
theorem Usage.accounted {meter : Meter} {us : List (Use τ)} {s s' : Tally} {t : List (Exchange (Staging τ))}
    (h : Usage meter s us t s') : Balanced t ∧ s' = meter.recordAll s (Staging.measures t) := by
  induction h with
  | nil s => exact ⟨balanced_nil, rfl⟩
  | cons run _ ih =>
    obtain ⟨hbalanced, hm⟩ := run.accounted
    refine ⟨hbalanced.append ih.1, ?_⟩
    rw [Staging.measures_append, Meter.recordAll_append, ← hm]
    exact ih.2

end

/-! ## What the counters say -/

/-- The operations. -/
def Operation.all : List Operation :=
  [.createPackage, .uploadBits, .packageReady, .findCurrentPackage, .downloadBits, .createBuild, .buildReady,
   .dropletFromBuild, .setDroplet, .start, .stop, .restage, .deleteInstance, .mapRoute, .unmapRoute]

/-- The counter of an operation and an outcome. -/
def Operation.counter (operation : Operation) (outcome : String) : Series :=
  ⟨"foundry_sync_pipeline_steps_total", [("outcome", outcome), ("step", operation.name)]⟩

/-- Some numbers of all operations, together. -/
def Operation.total (n : Operation → Nat) : Nat :=
  (all.map n).sum

namespace Operation

theorem name_injective {a b : Operation} (h : a.name = b.name) : a = b := by
  have hfind : ∀ c : Operation, all.find? (fun d => d.name = c.name) = some c := by
    intro c
    cases c <;> decide
  have hb := hfind b
  rw [← h, hfind a] at hb
  exact Option.some.inj hb

theorem counter_injective {a b : Operation} {o o' : String} (h : a.counter o = b.counter o') : a = b ∧ o = o' := by
  unfold counter at h
  simp only [Series.mk.injEq, List.cons.injEq, Prod.mk.injEq, true_and, and_true] at h
  exact ⟨name_injective h.2, h.1⟩

theorem total_single (a : Operation) : total (fun b => if a = b then 1 else 0) = 1 := by
  cases a <;> decide

theorem total_add (n n' : Operation → Nat) : total (fun a => n a + n' a) = total n + total n' :=
  List.sum_map_add

theorem le_total (n : Operation → Nat) (a : Operation) : n a ≤ total n := by
  have hmem : a ∈ all := by cases a <;> decide
  obtain ⟨before, after, hall⟩ := List.append_of_mem hmem
  unfold total
  rw [hall, List.map_append, List.map_cons, List.sum_append, List.sum_cons]
  omega

/-- Entries of one outcome are entries of some operation. -/
theorem total_raised (account outcome : String) (steps : List (Operation × String)) :
    total (fun a => Measure.raised account (a.counter outcome) (steps.map fun s => .step s.1.name s.2)) =
      (steps.map (·.2)).countP (· = outcome) := by
  induction steps with
  | nil => simp [total]
  | cons s steps ih =>
    have hstep : ∀ a : Operation, (if (Measure.step s.1.name s.2).series account = a.counter outcome then
        (Measure.step s.1.name s.2).count else 0) = if s.2 = outcome then (if s.1 = a then 1 else 0) else 0 := by
      intro a
      have hseries : (Measure.step s.1.name s.2).series account = s.1.counter s.2 := rfl
      rw [hseries]
      by_cases hboth : s.1 = a ∧ s.2 = outcome
      · rw [hboth.1, hboth.2, if_pos rfl, if_pos rfl, if_pos rfl]
        rfl
      · rw [if_neg fun h => hboth (counter_injective h)]
        split
        · next ho => rw [if_neg fun ha => hboth ⟨ha, ho⟩]
        · rfl
    simp only [List.map_cons, Measure.raised_cons, hstep]
    rw [total_add, ih, List.countP_cons, Nat.add_comm]
    by_cases ho : s.2 = outcome
    · simp [ho, total_single]
    · simp [ho, total]

end Operation

/-- The counters of an outcome say these numbers. -/
def Tally.Says (s : Tally) (outcome : String) (n : Operation → Nat) : Prop :=
  ∀ a : Operation, s.value (a.counter outcome) = .ofInt (n a)

/-- The calls of a run that ended so. -/
def callsEnded (outcome : String) (t : List (Exchange (Staging τ))) : Nat :=
  (calls t).countP fun a => a.outcome = some outcome

/-- **What is entered under an outcome is the calls that ended so.** -/
theorem Balanced.total_raised {t : List (Exchange (Staging τ))} (h : Balanced t) (account outcome : String) :
    Operation.total (fun a => Measure.raised account (a.counter outcome) (Staging.measures t))
      = callsEnded outcome t := by
  obtain ⟨steps, hmeasures, hcalls⟩ := h
  rw [hmeasures, Operation.total_raised, hcalls, List.countP_filterMap]
  unfold callsEnded
  congr 1
  funext a
  cases a.outcome <;> simp

theorem Balanced.isCount {t : List (Exchange (Staging τ))} (h : Balanced t) :
    ∀ m ∈ Staging.measures t, m.IsCount := by
  obtain ⟨steps, hmeasures, -⟩ := h
  rw [hmeasures]
  intro m hm
  obtain ⟨s, -, rfl⟩ := List.mem_map.1 hm
  trivial

/-- **The counters say how many calls ended so**, as long as that is a number of 53 bits. -/
theorem Balanced.says {t : List (Exchange (Staging τ))} (h : Balanced t) {meter : Meter}
    (enabled : meter.enabled = true) {s : Tally} {outcome : String} {n : Operation → Nat} (hs : s.Says outcome n)
    (hmax : Operation.total n + callsEnded outcome t ≤ Binary64.twoTo 53) :
    ∃ n', (meter.recordAll s (Staging.measures t)).Says outcome n' ∧ (∀ a, n a ≤ n' a) ∧
      Operation.total n' = Operation.total n + callsEnded outcome t := by
  have htotal := h.total_raised meter.account outcome
  refine ⟨fun a => n a + Measure.raised meter.account (a.counter outcome) (Staging.measures t), ?_, ?_, ?_⟩
  · intro a
    have hraised := Operation.le_total
      (fun a => Measure.raised meter.account (a.counter outcome) (Staging.measures t)) a
    have hn := Operation.le_total n a
    exact Meter.value_recordAll enabled h.isCount (hs a) (by omega)
  · exact fun a => Nat.le_add_right _ _
  · rw [Operation.total_add, htotal]

end Steward
