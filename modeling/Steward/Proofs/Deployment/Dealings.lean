import Steward.Proofs.Deployment.Accounts
import Steward.Proofs.Deployment.ExactlyOnce

/-!
# Dealing with the pipeline

What a caller of the pipeline can rely on, in one statement: what its methods do and fail with, what the counters say
about them, and what a deployment can fail with. A platform that fails with nothing but failures of its own makes a
deployment fail with nothing but faults of the pipeline; the one thing beside it is the artifact, which is opened before
anything is called.

## Contents

* `Fault.IsPipeline` — faults of the pipeline, `Pipeline.isPipeline_of_judged` — operations fail with no others;
* `Awaited.isPipeline`, `Plan.Trail.isPipeline`, `Plan.isPipeline_of_deploy` — waits, stages, deployments;
* `Pipeline.accounts` — the pipeline as a whole.
-/

namespace Steward

variable {τ : Type}

/-! ## Faults of deployments -/

/-- A fault of the pipeline, whichever. -/
def Fault.IsPipeline (f : Fault) : Prop :=
  f.category = .pipeline ∨ f.category.parent = some .pipeline

/-- A call that fails with nothing but failures of the platform. -/
def Answered.IsPlain (a : Answered) : Prop :=
  ∀ f, a.answer = .error f → f.isRemote = true

/-- A call that is answered does not fail. -/
theorem isPlain_of_isOk {cs : List Answered} (h : ∀ a ∈ cs, a.answer.isOk = true) : ∀ a ∈ cs, a.IsPlain := by
  intro a ha f hf
  have hok := h a ha
  rw [hf] at hok
  cases hok

namespace Pipeline

/-- An operation fails in no other way, if its judgement does not. -/
theorem isPipeline_of_judged {α β : Type} {operation : Operation} {answer : Except Fault α}
    {judge : α → Except Fault β} {f : Fault} (h : operated operation answer >>= judge = .error f)
    (hplain : ∀ g, answer = .error g → g.isRemote = true) (hjudge : ∀ a f, judge a = .error f → f.IsPipeline) :
    f.IsPipeline := by
  cases answer with
  | ok a => exact hjudge a f h
  | error g =>
    change Except.error (if g.isRemote then Fault.operationFailed operation g else g) = Except.error f at h
    rw [hplain g rfl, if_pos rfl] at h
    cases h
    exact Or.inl rfl

theorem isPipeline_of_operated {α : Type} {operation : Operation} {answer : Except Fault α} {f : Fault}
    (h : operated operation answer = .error f) (hplain : ∀ g, answer = .error g → g.isRemote = true) :
    f.IsPipeline := by
  have hjudged : operated operation answer >>= Except.ok = .error f := by
    rw [h]
    rfl
  exact isPipeline_of_judged hjudged hplain nofun

/-- Nor does one that must be answered. -/
theorem isPipeline_of_expected {α β : Type} {operation : Operation} {answer : Except Fault (Option α)} {name : α → β}
    {f : Fault} (h : operated operation answer >>= Method.expected operation name = .error f)
    (hplain : ∀ g, answer = .error g → g.isRemote = true) : f.IsPipeline := by
  refine isPipeline_of_judged h hplain ?_
  intro made f hf
  cases made with
  | none =>
    cases hf
    exact Or.inr rfl
  | some a => cases hf

theorem isPipeline_of_packageVerdict {id : Option String} {answer : Except Fault (Option Package)} {f : Fault}
    (h : packageVerdict id answer = .error f) (hplain : ∀ g, answer = .error g → g.isRemote = true) :
    f.IsPipeline := by
  refine isPipeline_of_judged h hplain ?_
  intro p f hf
  unfold packageReadiness at hf
  dsimp only at hf
  split at hf
  · cases hf
    exact Or.inr rfl
  · cases hf

theorem isPipeline_of_buildVerdict {answer : Except Fault (Option Build)} {f : Fault}
    (h : buildVerdict answer = .error f) (hplain : ∀ g, answer = .error g → g.isRemote = true) : f.IsPipeline := by
  refine isPipeline_of_judged h hplain ?_
  intro b f hf
  unfold buildReadiness at hf
  dsimp only at hf
  split at hf
  · cases hf
    exact Or.inr rfl
  · cases hf

end Pipeline

/-- A wait fails in no other way, if its verdicts do not. -/
theorem Awaited.isPipeline {c : Call} {verdict : Except Fault c.Answer → Except Fault Readiness} {wait : Wait}
    {cs : List Answered} {f : Fault} (h : Awaited c verdict wait cs (.error f)) (hplain : ∀ a ∈ cs, a.IsPlain)
    (hverdict : ∀ {answer f}, verdict answer = .error f → (∀ g, answer = .error g → g.isRemote = true) → f.IsPipeline) :
    f.IsPipeline := by
  generalize ho : (Except.error f : Except Fault Unit) = o at h
  induction h with
  | ready => cases ho
  | failed hf =>
    cases ho
    exact hverdict hf (hplain _ List.mem_cons_self)
  | late | unfinished =>
    cases ho
    exact Or.inr rfl
  | pending _ _ ih => exact ih (fun a ha => hplain a (List.mem_cons_of_mem _ ha)) ho

namespace Plan

open Pipeline

variable {plan : Plan τ} {p : Progress} {cs : List Answered} {f : Fault}

theorem Stuck.isPipeline (h : Stuck plan p cs f) (hplain : ∀ a ∈ cs, a.IsPlain) :
    f.IsPipeline ∨ (f = .artifactMissing ∧ plan.artifact.bits = none) := by
  cases h with
  | artifact _ missing => exact Or.inr ⟨rfl, missing⟩
  | createPackage _ refused =>
    rw [Method.packageMade_eq] at refused
    exact Or.inl (isPipeline_of_expected refused (hplain _ List.mem_cons_self))
  | uploadBits _ _ refused =>
    rw [Method.bitsTaken_eq] at refused
    exact Or.inl (isPipeline_of_expected refused (hplain _ List.mem_cons_self))
  | packageReady _ awaited => exact Or.inl (awaited.isPipeline hplain isPipeline_of_packageVerdict)
  | createBuild _ refused =>
    rw [Method.buildMade_eq] at refused
    exact Or.inl (isPipeline_of_expected refused (hplain _ List.mem_cons_self))
  | buildReady _ awaited => exact Or.inl (awaited.isPipeline hplain isPipeline_of_buildVerdict)
  | droplet _ _ refused =>
    have hlast := hplain _ (List.mem_append_right _ List.mem_cons_self)
    exact Or.inl (isPipeline_of_judged refused hlast nofun)
  | noDroplet => exact Or.inl (Or.inr rfl)
  | setDroplet _ refused => exact Or.inl (isPipeline_of_operated refused (hplain _ List.mem_cons_self))
  | start _ _ refused => exact Or.inl (isPipeline_of_operated refused (hplain _ List.mem_cons_self))

theorem Rewind.isPipeline {q : Progress} (h : Rewind plan p cs f q) (hplain : ∀ a ∈ cs, a.IsPlain) :
    f.IsPipeline := by
  cases h with
  | package _ awaited => exact awaited.isPipeline hplain isPipeline_of_packageVerdict
  | build _ awaited => exact awaited.isPipeline hplain isPipeline_of_buildVerdict

theorem Trail.isPipeline {ss : List Progress} (h : Trail plan p cs ss (.error f)) (hplain : ∀ a ∈ cs, a.IsPlain) :
    f.IsPipeline ∨ (f = .artifactMissing ∧ plan.artifact.bits = none) := by
  generalize ho : (Except.error f : Except Fault Progress) = o at h
  induction h with
  | empty => cases ho
  | advance _ _ ih => exact ih (fun a ha => hplain a (List.mem_append_right _ ha)) ho
  | stuck hstage =>
    cases ho
    exact hstage.isPipeline hplain
  | rewind hstage =>
    cases ho
    exact Or.inl (hstage.isPipeline hplain)

variable [Add τ] [LT τ] [DecidableLT τ]

/-- **A deployment fails with faults of the pipeline**, or because its artifact cannot be opened, if the platform fails
with nothing but failures of its own. -/
theorem isPipeline_of_deploy {saved : Option Progress} {t : List (Exchange (Staging τ))}
    (hnamed : saved ≠ none ∨ plan.app ≠ none) (h : Stages (plan.deploy saved) t (.error f))
    (hplain : ∀ a ∈ calls t, a.IsPlain) : f.IsPipeline ∨ (f = .artifactMissing ∧ plan.artifact.bits = none) := by
  have hresumed : ∃ p, Stages (plan.deploy (some p)) t (.error f) := by
    cases saved with
    | some p => exact ⟨p, h⟩
    | none =>
      obtain ⟨app, happ⟩ := Option.ne_none_iff_exists'.1 (hnamed.resolve_left fun h => h rfl)
      refine ⟨.fresh app, ?_⟩
      change Stages (.ofExcept (Progress.fresh? plan.app) >>= plan.resume) t (.error f) at h
      rw [happ] at h
      exact h
  obtain ⟨p, hp⟩ := hresumed
  exact (runs_deploy hp).1.isPipeline hplain

end Plan

/-! ## The pipeline as a whole -/

/-- **What callers of the pipeline can rely on.** A method that has something to call with makes one call and no second;
what fails on the platform is a failure of the pipeline with the same code and the call behind it, any other fault is
passed on, and an answer of nothing is what `Method.OnNothing` says. Over any row of deployments and methods what is
entered under an outcome is the calls that ended so, and the counters say it. If the platform fails with nothing but
failures of its own, a deployment fails with faults of the pipeline, unless its artifact cannot be opened. -/
theorem Pipeline.accounts [Add τ] [LT τ] [DecidableLT τ] :
    (∀ (m : Method) (t : List (Exchange (Staging τ))) (o : Except Fault m.Result), m.IsPossible →
      Stages m.program t o →
      ∃ c answer, m.commission = .ok c ∧ calls t = [⟨c.call, answer⟩] ∧ m.Judges c.call answer o) ∧
    (∀ (meter : Meter) (s s' : Tally) (us : List (Use τ)) (t : List (Exchange (Staging τ))),
      meter.enabled = true → Usage meter s us t s' →
      s' = meter.recordAll s (Staging.measures t) ∧
      ∀ outcome : String,
        Operation.total (fun a => Measure.raised meter.account (a.counter outcome) (Staging.measures t)) =
          callsEnded outcome t ∧
        ∀ n, s.Says outcome n → Operation.total n + callsEnded outcome t ≤ Binary64.twoTo 53 →
          ∃ n', s'.Says outcome n' ∧ (∀ a, n a ≤ n' a) ∧
            Operation.total n' = Operation.total n + callsEnded outcome t) ∧
    ∀ (plan : Plan τ) (saved : Option Progress) (t : List (Exchange (Staging τ))) (f : Fault),
      (saved ≠ none ∨ plan.app ≠ none) → Stages (plan.deploy saved) t (.error f) → (∀ a ∈ calls t, a.IsPlain) →
      f.IsPipeline ∨ (f = .artifactMissing ∧ plan.artifact.bits = none) := by
  refine ⟨?_, ?_, ?_⟩
  · intro m t o hm h
    exact Method.runs_possible hm h
  · intro meter s s' us t enabled h
    obtain ⟨hbalanced, rfl⟩ := h.accounted
    refine ⟨rfl, ?_⟩
    intro outcome
    exact ⟨hbalanced.total_raised meter.account outcome, fun n hs hmax => hbalanced.says enabled hs hmax⟩
  · intro plan saved t f hnamed h hplain
    exact Plan.isPipeline_of_deploy hnamed h hplain

/-- A platform that loses its first package and refuses to stop anything. -/
def grudging : Handler (Staging Nat) Nat
  | .call (.stop _), n => (.error (.reported ⟨.remote, "busy", some "CF-Busy", none⟩), n)
  | r, n => fickle r n

/-- What a program exchanges with the platform that refuses. -/
def grudged {α : Type} (p : Attempt (Staging Nat) α) : List (Exchange (Staging Nat)) :=
  p.outcome.exchanged grudging 0

theorem stages_grudged {α : Type} (p : Attempt (Staging Nat) α) : Stages p (grudged p) (p.run grudging 0).1 := by
  have hrun := Program.Runs.of_run grudging p.outcome 0
  obtain ⟨⟨⟩, hruns, -⟩ := Program.Runs.simulate (B := Answering.any (Staging Nat)) (fun _ _ => True)
    (fun _ _ _ _ _ _ _ => ⟨(), trivial, trivial⟩) (w := ()) trivial hrun
  exact hruns

/-- A deployment that loses its package, a stop that is refused, and a restart that fails in another way: three calls
return, one fails, and one is not entered. -/
theorem Pipeline.accounts_grudging :
    ∃ (t : List (Exchange (Staging Nat))) (s' : Tally),
      Usage ⟨"acct", true⟩ .empty [.deploy shortPlan none, .method (.stop (some "app-1")),
        .method (.restage (some "app-1"))] t s' ∧
      (calls t).length = 5 ∧
      (∃ n, s'.Says "ok" n ∧ Operation.total n = 3) ∧ (∃ n, s'.Says "error" n ∧ Operation.total n = 1) ∧
      (∃ f g, ((Method.stop (some "app-1")).program.run grudging 0).1 = .error g ∧ g.Translates f) ∧
      ∃ f, ((shortPlan.deploy none).run grudging 0).1 = .error f ∧ f.IsPipeline := by
  obtain ⟨hmethods, hcounts, hdeploys⟩ := Pipeline.accounts (τ := Nat)
  have hdeploy := stages_grudged (shortPlan.deploy none)
  have hstop := stages_grudged (Method.stop (some "app-1")).program
  have hrestage := stages_grudged (Method.restage (some "app-1")).program
  have husage : Usage ⟨"acct", true⟩ .empty [.deploy shortPlan none, .method (.stop (some "app-1")),
      .method (.restage (some "app-1"))] _ _ :=
    .cons ⟨_, Staging.metered_of_stages _ _ hdeploy⟩ <| .cons ⟨_, Staging.metered_of_stages _ _ hstop⟩ <|
      .cons ⟨_, Staging.metered_of_stages _ _ hrestage⟩ <| .nil _
  have hzero : ∀ outcome, Tally.empty.Says outcome fun _ => 0 := fun outcome a => Tally.value_empty _
  obtain ⟨-, hok⟩ := (hcounts _ _ _ _ _ rfl husage).2 "ok"
  obtain ⟨-, herror⟩ := (hcounts _ _ _ _ _ rfl husage).2 "error"
  refine ⟨_, _, husage, by decide +kernel, ?_, ?_, ?_, ?_⟩
  · obtain ⟨n, hsays, -, htotal⟩ := hok _ (hzero "ok") (by decide +kernel)
    exact ⟨n, hsays, htotal.trans (by decide +kernel)⟩
  · obtain ⟨n, hsays, -, htotal⟩ := herror _ (hzero "error") (by decide +kernel)
    exact ⟨n, hsays, htotal.trans (by decide +kernel)⟩
  · obtain ⟨c, answer, hc, hcalls, hjudges⟩ := hmethods (.stop (some "app-1")) _ _ trivial hstop
    cases hc
    -- the answer is the refusal, as the run shows
    have hanswer : calls (grudged (Method.stop (some "app-1")).program) =
        [⟨.stop (some "app-1"), .error (.reported ⟨.remote, "busy", some "CF-Busy", none⟩)⟩] := rfl
    rw [hanswer] at hcalls
    cases hcalls
    obtain ⟨g, hg, htranslates⟩ := hjudges.translated _ rfl rfl
    exact ⟨_, g, hg, htranslates⟩
  · have hfailed : ((shortPlan.deploy none).run grudging 0).1 = .error (.packageFailed (some "package-1") "FAILED") :=
      rfl
    rw [hfailed] at hdeploy
    have hplain : ∀ a ∈ calls (grudged (shortPlan.deploy none)), a.IsPlain :=
      isPlain_of_isOk (by decide +kernel)
    refine ⟨_, hfailed, ?_⟩
    rcases hdeploys shortPlan none _ _ (Or.inr nofun) hdeploy hplain with hpipeline | ⟨hmissing, -⟩
    · exact hpipeline
    · cases hmissing

/-- A plan whose artifact cannot be opened. -/
def barePlan : Plan Nat :=
  { shortPlan with artifact := ⟨"app.zip", none⟩ }

/-- A deployment whose artifact cannot be opened fails with a fault that is none of the pipeline's, though the platform
answers every call. And an instance whose index has no text is not deleted: nothing is called. -/
theorem Pipeline.fails_otherwise :
    (¬ ∀ (plan : Plan Nat) (t : List (Exchange (Staging Nat))) (f : Fault), Stages (plan.deploy none) t (.error f) →
      (∀ a ∈ calls t, a.IsPlain) → f.IsPipeline) ∧
    ¬ ∀ (index : Value) (t : List (Exchange (Staging Nat))) (o : Except Fault Unit),
      Stages (Pipeline.deleteInstance (some "app-1") index) t o → (calls t).length = 1 := by
  constructor
  · intro hpipeline
    have hrun := stages_grudged (barePlan.deploy none)
    have hfailed : ((barePlan.deploy none).run grudging 0).1 = .error .artifactMissing := rfl
    rw [hfailed] at hrun
    have hplain : ∀ a ∈ calls (grudged (barePlan.deploy none)), a.IsPlain := isPlain_of_isOk (by decide +kernel)
    rcases hpipeline _ _ _ hrun hplain with hcategory | hcategory <;> cases hcategory
  · intro hone
    have hindex : Value.display (.int (10 ^ 4300)) = none := by decide +kernel
    have hm : (Method.deleteInstance (some "app-1") (.int (10 ^ 4300))).commission = .error .integerTooLong := by
      simp only [Method.commission, hindex]
    have hrun := stages_grudged (Method.deleteInstance (some "app-1") (.int (10 ^ 4300))).program
    have hcalls := (Method.runs_impossible hm hrun).1
    have hlength := hone _ _ _ hrun
    rw [hcalls] at hlength
    cases hlength

end Steward
