import Steward.Proofs.Deployment.Operations

/-!
# Trails of deployments

A run of a deployment goes through the stages from where its progress is. What one stage does is said here once:
it is done, or it fails where it is, or what it waited for is lost and an earlier stage comes next. A trail is a
row of such stages. Every run leaves a trail, and a run that returns ends when all is done.

## Contents

* `Awaited`, `Plan.runs_awaitReady` — waiting;
* `Plan.Advance`, `Plan.Stuck`, `Plan.Rewind` — the ways in which a stage ends;
* `Plan.Trail` — stages in a row, with the calls and the saved progress;
* `Plan.runs_deploy` — every run leaves a trail;
* `Attempted`, `History` — attempts in a row, each taking up what the ones before it saved.
-/

namespace Steward

variable {τ : Type}

/-! ## Waiting -/

/-- The calls of a wait, and how it ends. All polls but the last say that it is pending. -/
inductive Awaited (c : Call) (verdict : Except Fault c.Answer → Except Fault Readiness) (wait : Wait) :
    List Answered → Except Fault Unit → Prop where
  | ready {answer : Except Fault c.Answer} (h : verdict answer = .ok .ready) :
      Awaited c verdict wait [⟨c, answer⟩] (.ok ())
  | failed {answer : Except Fault c.Answer} {f : Fault} (h : verdict answer = .error f) :
      Awaited c verdict wait [⟨c, answer⟩] (.error f)
  | late {answer : Except Fault c.Answer} (h : verdict answer = .ok .pending) :
      Awaited c verdict wait [⟨c, answer⟩] (.error (.timedOut wait))
  | unfinished : Awaited c verdict wait [] (.error (.unfinished wait))
  | pending {answer : Except Fault c.Answer} {cs : List Answered} {o : Except Fault Unit}
      (h : verdict answer = .ok .pending) (rest : Awaited c verdict wait cs o) :
      Awaited c verdict wait (⟨c, answer⟩ :: cs) o

/-- **A wait polls** until the answer is not that it is pending, and saves nothing. -/
theorem Plan.runs_awaitReady [Add τ] [LT τ] [DecidableLT τ] {plan : Plan τ} {wait : Wait}
    {poll : Attempt (Staging τ) Readiness} {deadline : τ} {c : Call}
    {verdict : Except Fault c.Answer → Except Fault Readiness}
    (hpoll : ∀ {t o}, Stages poll t o → saves t = [] ∧ ∃ answer, calls t = [⟨c, answer⟩] ∧ o = verdict answer)
    {patience : Nat} {t : List (Exchange (Staging τ))} {o : Except Fault Unit}
    (h : Stages (plan.awaitReady wait poll deadline patience) t o) :
    saves t = [] ∧ Awaited c verdict wait (calls t) o := by
  -- the induction is on the polls that are left
  induction patience generalizing t with
  | zero =>
    obtain ⟨rfl, rfl, -⟩ := Attempt.runs_throw.1 h
    exact ⟨rfl, Awaited.unfinished⟩
  | succ patience ih =>
    rcases Staging.runs_bind.1 h with ⟨f, rfl, hf⟩ | ⟨t₁, readiness, t₂, rfl, h₁, h₂⟩
    · obtain ⟨hsaves, answer, hcalls, hf⟩ := hpoll hf
      rw [hcalls]
      exact ⟨hsaves, Awaited.failed hf.symm⟩
    · obtain ⟨hsaves, answer, hcalls, hverdict⟩ := hpoll h₁
      rw [saves_append, calls_append, hsaves, hcalls]
      cases readiness with
      | ready =>
        obtain ⟨rfl, rfl, -⟩ := Attempt.runs_pure.1 h₂
        exact ⟨rfl, Awaited.ready hverdict.symm⟩
      | pending =>
        obtain ⟨now, rest, hcalls₂, hsaves₂, hrest⟩ := Staging.runs_quiet_bind rfl h₂
        rw [hcalls₂, hsaves₂]
        by_cases hlate : deadline < now + plan.interval
        · rw [if_pos hlate] at hrest
          obtain ⟨rfl, rfl, -⟩ := Attempt.runs_throw.1 hrest
          exact ⟨rfl, Awaited.late hverdict.symm⟩
        · rw [if_neg hlate] at hrest
          obtain ⟨-, rest', hcalls₃, hsaves₃, hrest'⟩ := Staging.runs_quiet_bind rfl hrest
          rw [hcalls₃, hsaves₃]
          obtain ⟨hsaves₄, hawaited⟩ := ih hrest'
          exact ⟨hsaves₄, Awaited.pending hverdict.symm hawaited⟩

/-! ## The ways in which a stage ends -/

/-- The place of a stage among the stages. -/
def Stage.rank : Stage → Nat
  | .createPackage => 0
  | .uploadBits => 1
  | .packageReady => 2
  | .createBuild => 3
  | .buildReady => 4
  | .setDroplet => 5
  | .start => 6
  | .done => 7

theorem Stage.eq_of_rank {a b : Stage} (h : a.rank = b.rank) : a = b := by
  cases a <;> cases b <;> first | rfl | cases h

theorem Stage.rank_le (a : Stage) : a.rank ≤ Stage.done.rank := by
  cases a <;> decide

namespace Plan

open Pipeline

/-- A stage that is done: its calls, and the progress after it. -/
inductive Advance (plan : Plan τ) (p : Progress) : List Answered → Progress → Prop where
  | createPackage {answer : Except Fault (Option Package)} {id : String} (stage : p.stage = .createPackage)
      (made : packageMade answer = .ok id) :
      Advance plan p [⟨.createPackage plan.app, answer⟩] { p with stage := .uploadBits, package := some id }
  | uploadBits {bits : ByteArray} {answer : Except Fault (Option Package)} {id : String}
      (stage : p.stage = .uploadBits) (opened : plan.artifact.bits = some bits) (taken : bitsTaken answer = .ok id) :
      Advance plan p [⟨.uploadBits p.package bits plan.artifact.name, answer⟩] { p with stage := .packageReady }
  | packageReady {cs : List Answered} (stage : p.stage = .packageReady)
      (awaited : Awaited (.package p.package) (packageVerdict p.package) .package cs (.ok ())) :
      Advance plan p cs { p with stage := .createBuild }
  | createBuild {answer : Except Fault (Option Build)} {id : String} (stage : p.stage = .createBuild)
      (made : buildMade answer = .ok id) :
      Advance plan p [⟨.createBuild p.package, answer⟩] { p with stage := .buildReady, build := some id }
  | buildReady {cs : List Answered} {answer : Except Fault (Option Build)} {droplet : String}
      (stage : p.stage = .buildReady) (awaited : Awaited (.build p.build) buildVerdict .build cs (.ok ()))
      (named : dropletNamed answer = .ok (some droplet)) :
      Advance plan p (cs ++ [⟨.build p.build, answer⟩]) { p with stage := .setDroplet, droplet := some droplet }
  | setDroplet {answer : Except Fault Unit} (stage : p.stage = .setDroplet)
      (placed : operated .setDroplet answer = .ok ()) :
      Advance plan p [⟨.setDroplet plan.app p.droplet, answer⟩] { p with stage := .start }
  | start {answer : Except Fault Unit} (stage : p.stage = .start) (planned : plan.start = true)
      (started : operated .start answer = .ok ()) :
      Advance plan p [⟨.start plan.app, answer⟩] { p with stage := .done }
  | skipStart (stage : p.stage = .start) (planned : plan.start = false) :
      Advance plan p [] { p with stage := .done }

/-- A stage that is done is followed by the next one. -/
theorem Advance.rank_eq {plan : Plan τ} {p q : Progress} {cs : List Answered} (h : Advance plan p cs q) :
    q.stage.rank = p.stage.rank + 1 := by
  cases h with
  | createPackage stage | uploadBits stage | packageReady stage | createBuild stage | buildReady stage
  | setDroplet stage | start stage | skipStart stage =>
    rw [stage]
    rfl

/-- A stage that fails, and comes again in the next run: its calls, and the failure. -/
inductive Stuck (plan : Plan τ) (p : Progress) : List Answered → Fault → Prop where
  | createPackage {answer : Except Fault (Option Package)} {f : Fault} (stage : p.stage = .createPackage)
      (refused : packageMade answer = .error f) : Stuck plan p [⟨.createPackage plan.app, answer⟩] f
  | artifact (stage : p.stage = .uploadBits) (missing : plan.artifact.bits = none) :
      Stuck plan p [] .artifactMissing
  | uploadBits {bits : ByteArray} {answer : Except Fault (Option Package)} {f : Fault}
      (stage : p.stage = .uploadBits) (opened : plan.artifact.bits = some bits)
      (refused : bitsTaken answer = .error f) :
      Stuck plan p [⟨.uploadBits p.package bits plan.artifact.name, answer⟩] f
  | packageReady {cs : List Answered} {f : Fault} (stage : p.stage = .packageReady)
      (awaited : Awaited (.package p.package) (packageVerdict p.package) .package cs (.error f))
      (curable : f.isTerminal = false) : Stuck plan p cs f
  | createBuild {answer : Except Fault (Option Build)} {f : Fault} (stage : p.stage = .createBuild)
      (refused : buildMade answer = .error f) : Stuck plan p [⟨.createBuild p.package, answer⟩] f
  | buildReady {cs : List Answered} {f : Fault} (stage : p.stage = .buildReady)
      (awaited : Awaited (.build p.build) buildVerdict .build cs (.error f)) (curable : f.isTerminal = false) :
      Stuck plan p cs f
  | droplet {cs : List Answered} {answer : Except Fault (Option Build)} {f : Fault} (stage : p.stage = .buildReady)
      (awaited : Awaited (.build p.build) buildVerdict .build cs (.ok ()))
      (refused : dropletNamed answer = .error f) :
      Stuck plan p (cs ++ [⟨.build p.build, answer⟩]) f
  | noDroplet {cs : List Answered} {answer : Except Fault (Option Build)} (stage : p.stage = .buildReady)
      (awaited : Awaited (.build p.build) buildVerdict .build cs (.ok ()))
      (unnamed : dropletNamed answer = .ok none) :
      Stuck plan p (cs ++ [⟨.build p.build, answer⟩]) (.stagedWithoutDroplet p.build)
  | setDroplet {answer : Except Fault Unit} {f : Fault} (stage : p.stage = .setDroplet)
      (refused : operated .setDroplet answer = .error f) :
      Stuck plan p [⟨.setDroplet plan.app p.droplet, answer⟩] f
  | start {answer : Except Fault Unit} {f : Fault} (stage : p.stage = .start) (planned : plan.start = true)
      (refused : operated .start answer = .error f) : Stuck plan p [⟨.start plan.app, answer⟩] f

/-- A stage whose package or build is lost: its calls, the failure, and the progress that is taken back. -/
inductive Rewind (plan : Plan τ) (p : Progress) : List Answered → Fault → Progress → Prop where
  | package {cs : List Answered} {f : Fault} (stage : p.stage = .packageReady)
      (awaited : Awaited (.package p.package) (packageVerdict p.package) .package cs (.error f))
      (terminal : f.isTerminal = true) :
      Rewind plan p cs f { p with stage := .createPackage, package := none }
  | build {cs : List Answered} {f : Fault} (stage : p.stage = .buildReady)
      (awaited : Awaited (.build p.build) buildVerdict .build cs (.error f)) (terminal : f.isTerminal = true) :
      Rewind plan p cs f { p with stage := .createBuild, build := none }

/-- One stage: its calls, what it saves, and its outcome. -/
inductive Took (plan : Plan τ) (p : Progress) : List Answered → List Progress → Except Fault Progress → Prop where
  | advance {cs : List Answered} {q : Progress} (h : Advance plan p cs q) : Took plan p cs [q] (.ok q)
  | stuck {cs : List Answered} {f : Fault} (h : Stuck plan p cs f) : Took plan p cs [] (.error f)
  | rewind {cs : List Answered} {f : Fault} {q : Progress} (h : Rewind plan p cs f q) :
      Took plan p cs [q] (.error f)

/-! ## Trails -/

/-- Stages in a row: their calls, what they save, and the outcome of the last. -/
inductive Trail (plan : Plan τ) : Progress → List Answered → List Progress → Except Fault Progress → Prop where
  | empty (p : Progress) : Trail plan p [] [] (.ok p)
  | advance {p q : Progress} {cs cs' : List Answered} {ss : List Progress} {o : Except Fault Progress}
      (h : Advance plan p cs q) (rest : Trail plan q cs' ss o) : Trail plan p (cs ++ cs') (q :: ss) o
  | stuck {p : Progress} {cs : List Answered} {f : Fault} (h : Stuck plan p cs f) : Trail plan p cs [] (.error f)
  | rewind {p q : Progress} {cs : List Answered} {f : Fault} (h : Rewind plan p cs f q) :
      Trail plan p cs [q] (.error f)

variable {plan : Plan τ} {p : Progress} {t : List (Exchange (Staging τ))} {o : Except Fault Progress}

/-- A row of stages that is gone on from where it ends. -/
theorem Trail.append {q : Progress} {cs cs' : List Answered} {ss ss' : List Progress} (h : Trail plan p cs ss (.ok q))
    (h' : Trail plan q cs' ss' o) : Trail plan p (cs ++ cs') (ss ++ ss') o := by
  -- the induction is on the first row; it ends well, so no stage of it fails
  generalize hr : (Except.ok q : Except Fault Progress) = r at h
  induction h with
  | empty p =>
    cases hr
    exact h'
  | advance hstage _ ih =>
    rw [List.append_assoc, List.cons_append]
    exact Trail.advance hstage (ih hr)
  | stuck hstage => cases hr
  | rewind hstage => cases hr

/-- One stage is a row. -/
theorem Took.trail {cs : List Answered} {ss : List Progress} (h : Took plan p cs ss o) : Trail plan p cs ss o := by
  cases h with
  | advance hstage =>
    have htrail := Trail.advance hstage (Trail.empty _)
    rwa [List.append_nil] at htrail
  | stuck hstage => exact Trail.stuck hstage
  | rewind hstage => exact Trail.rewind hstage

theorem Took.rank_eq {q : Progress} {cs : List Answered} {ss : List Progress} (h : Took plan p cs ss (.ok q)) :
    q.stage.rank = p.stage.rank + 1 := by
  cases h with
  | advance hstage => exact hstage.rank_eq

/-- Where a row of stages ends well, the progress saved last is its outcome. -/
theorem Trail.last_eq {cs : List Answered} {ss : List Progress} {q : Progress} (h : Trail plan p cs ss (.ok q)) :
    ss.getLast?.getD p = q := by
  generalize hr : (Except.ok q : Except Fault Progress) = r at h
  induction h with
  | empty p =>
    cases hr
    rfl
  | advance _ _ ih =>
    rw [List.getLast?_cons]
    exact ih hr
  | stuck hstage => cases hr
  | rewind hstage => cases hr

/-- Nothing is left to do when all is done. -/
theorem Trail.of_done {cs : List Answered} {ss : List Progress} (done : p.stage = .done) (h : Trail plan p cs ss o) :
    cs = [] ∧ ss = [] ∧ o = .ok p := by
  cases h with
  | empty p => exact ⟨rfl, rfl, rfl⟩
  | advance hstage => cases hstage <;> simp_all
  | stuck hstage => cases hstage <;> simp_all
  | rewind hstage => cases hstage <;> simp_all

/-- A program that takes progress from one stage, or a later one, at least to another. -/
def Leads (plan : Plan τ) (source target : Nat) (f : Progress → Attempt (Staging τ) Progress) : Prop :=
  ∀ p t o, source ≤ p.stage.rank → Stages (f p) t o →
    Trail plan p (calls t) (saves t) o ∧ ∀ q, o = .ok q → target ≤ q.stage.rank

/-- Two such programs in a row. -/
theorem Leads.bind {source middle target : Nat} {f g : Progress → Attempt (Staging τ) Progress}
    (hf : Leads plan source middle f) (hg : Leads plan middle target g) :
    Leads plan source target fun p => f p >>= g := by
  intro p t o hp h
  rcases Staging.runs_bind.1 h with ⟨e, rfl, he⟩ | ⟨t₁, q, t₂, rfl, h₁, h₂⟩
  · refine ⟨(hf p t _ hp he).1, ?_⟩
    intro q hq
    cases hq
  · obtain ⟨htrail, hq⟩ := hf p t₁ _ hp h₁
    obtain ⟨htrail', htarget⟩ := hg q t₂ o (hq q rfl) h₂
    rw [calls_append, saves_append]
    exact ⟨htrail.append htrail', htarget⟩

/-- A stage leads past itself: it is taken, or was passed before. -/
theorem Leads.of_stage {stage : Stage} {f : Progress → Attempt (Staging τ) Progress}
    (hstage : ∀ p t o, p.stage = stage → Stages (f p) t o → Took plan p (calls t) (saves t) o)
    (hpassed : ∀ p, p.stage ≠ stage → f p = pure p) : Leads plan stage.rank (stage.rank + 1) f := by
  intro p t o hp h
  by_cases hat : p.stage = stage
  · have htook := hstage p t o hat h
    refine ⟨htook.trail, ?_⟩
    rintro q rfl
    have hrank := htook.rank_eq
    rw [hat] at hrank
    omega
  · rw [hpassed p hat] at h
    obtain ⟨rfl, rfl, -⟩ := Attempt.runs_pure.1 h
    refine ⟨Trail.empty p, ?_⟩
    intro q hq
    cases hq
    have hne : p.stage.rank ≠ stage.rank := fun he => hat (Stage.eq_of_rank he)
    omega

/-! ## Stages of one call -/

/-- A stage that makes something and saves it. -/
theorem took_of_save {α : Type} {make : Attempt (Staging τ) α} {keep : α → Progress}
    (hmake : ∀ {t r}, Stages make t r → saves t = [] ∧ (∀ a, r = .ok a → Advance plan p (calls t) (keep a)) ∧
      ∀ f, r = .error f → Stuck plan p (calls t) f)
    (h : Stages (make >>= fun a => save (keep a)) t o) : Took plan p (calls t) (saves t) o := by
  rcases Staging.runs_bind.1 h with ⟨f, rfl, hf⟩ | ⟨t₁, a, t₂, rfl, h₁, h₂⟩
  · obtain ⟨hsaves, -, hstuck⟩ := hmake hf
    rw [hsaves]
    exact Took.stuck (hstuck f rfl)
  · obtain ⟨hsaves, hadvance, -⟩ := hmake h₁
    obtain ⟨rfl, hcalls, hsaved⟩ := Staging.runs_save h₂
    rw [calls_append, saves_append, hcalls, hsaved, hsaves, List.append_nil]
    exact Took.advance (hadvance a rfl)

theorem runs_createPackage (stage : p.stage = .createPackage) (h : Stages (plan.createPackage p) t o) :
    Took plan p (calls t) (saves t) o := by
  unfold createPackage at h
  rw [if_pos stage] at h
  apply took_of_save ?_ h
  intro t r h
  obtain ⟨hsaves, answer, hcalls, hmade⟩ := Pipeline.runs_createPackage h
  rw [hcalls]
  refine ⟨hsaves, ?_, ?_⟩
  · intro id hr
    exact Advance.createPackage stage (hmade.symm.trans hr)
  · intro f hr
    exact Stuck.createPackage stage (hmade.symm.trans hr)

theorem runs_uploadBits (stage : p.stage = .uploadBits) (h : Stages (plan.uploadBits p) t o) :
    Took plan p (calls t) (saves t) o := by
  unfold uploadBits at h
  rw [if_pos stage] at h
  apply took_of_save ?_ h
  intro t r h
  obtain ⟨hsaves, ⟨hbits, hcalls, rfl⟩ | ⟨bits, answer, hbits, hcalls, htaken⟩⟩ := Pipeline.runs_uploadBits h
  · rw [hcalls]
    refine ⟨hsaves, ?_, ?_⟩
    · intro id hr
      cases hr
    · intro f hr
      cases hr
      exact Stuck.artifact stage hbits
  · rw [hcalls]
    refine ⟨hsaves, ?_, ?_⟩
    · intro id hr
      exact Advance.uploadBits stage hbits (htaken.symm.trans hr)
    · intro f hr
      exact Stuck.uploadBits stage hbits (htaken.symm.trans hr)

theorem runs_createBuild (stage : p.stage = .createBuild) (h : Stages (plan.createBuild p) t o) :
    Took plan p (calls t) (saves t) o := by
  unfold createBuild at h
  rw [if_pos stage] at h
  apply took_of_save ?_ h
  intro t r h
  obtain ⟨hsaves, answer, hcalls, hmade⟩ := Pipeline.runs_createBuild h
  rw [hcalls]
  refine ⟨hsaves, ?_, ?_⟩
  · intro id hr
    exact Advance.createBuild stage (hmade.symm.trans hr)
  · intro f hr
    exact Stuck.createBuild stage (hmade.symm.trans hr)

theorem runs_setDroplet (stage : p.stage = .setDroplet) (h : Stages (plan.setDroplet p) t o) :
    Took plan p (calls t) (saves t) o := by
  unfold setDroplet at h
  rw [if_pos stage] at h
  apply took_of_save ?_ h
  intro t r h
  obtain ⟨hsaves, answer, hcalls, hplaced⟩ := Pipeline.runs_setDroplet h
  rw [hcalls]
  refine ⟨hsaves, ?_, ?_⟩
  · rintro ⟨⟩ hr
    exact Advance.setDroplet stage (hplaced.symm.trans hr)
  · intro f hr
    exact Stuck.setDroplet stage (hplaced.symm.trans hr)

theorem runs_startApp (stage : p.stage = .start) (h : Stages (plan.startApp p) t o) :
    Took plan p (calls t) (saves t) o := by
  unfold startApp at h
  rw [if_pos stage] at h
  cases planned : plan.start with
  | false =>
    rw [planned, if_neg Bool.false_ne_true] at h
    obtain ⟨rfl, hcalls, hsaved⟩ := Staging.runs_save h
    rw [hcalls, hsaved]
    exact Took.advance (Advance.skipStart stage planned)
  | true =>
    rw [planned, if_pos rfl] at h
    apply took_of_save ?_ h
    intro t r h
    obtain ⟨hsaves, answer, hcalls, hstarted⟩ := Pipeline.runs_operate h
    rw [hcalls]
    refine ⟨hsaves, ?_, ?_⟩
    · rintro ⟨⟩ hr
      exact Advance.start stage planned (hstarted.symm.trans hr)
    · intro f hr
      exact Stuck.start stage planned (hstarted.symm.trans hr)

/-! ## Stages that wait -/

/-- What is done about a wait that failed. -/
theorem runs_setback {f : Fault} {q : Progress} {level : Level} {text : String} {fields : List (String × Value)}
    (h : Stages (if f.isTerminal then plan.report level text fields >>= fun _ => save q >>= fun _ => throw f
      else throw f : Attempt (Staging τ) Progress) t o) :
    calls t = [] ∧ o = .error f ∧
      ((f.isTerminal = true ∧ saves t = [q]) ∨ (f.isTerminal = false ∧ saves t = [])) := by
  cases terminal : f.isTerminal with
  | false =>
    rw [terminal, if_neg Bool.false_ne_true] at h
    obtain ⟨rfl, ho, -⟩ := Attempt.runs_throw.1 h
    exact ⟨rfl, ho, Or.inr ⟨rfl, rfl⟩⟩
  | true =>
    rw [terminal, if_pos rfl] at h
    obtain ⟨rest, hcalls, hsaves, hrest⟩ := Staging.runs_report_bind h
    obtain ⟨rest', hcalls', hsaves', hrest'⟩ := Staging.runs_save_bind hrest
    obtain ⟨rfl, ho, -⟩ := Attempt.runs_throw.1 hrest'
    exact ⟨hcalls.trans hcalls', ho, Or.inl ⟨rfl, hsaves.trans hsaves'⟩⟩

variable [Add τ] [LT τ] [DecidableLT τ]

theorem runs_packageReady {deadline : τ} (stage : p.stage = .packageReady)
    (h : Stages (plan.packageReady deadline p) t o) : Took plan p (calls t) (saves t) o := by
  unfold packageReady at h
  rw [if_pos stage] at h
  obtain ⟨t₁, r, ⟨⟩, t₂, rfl, h₁, h₂⟩ := Attempt.runs_settle_bind.1 h
  obtain ⟨hsaves, hawaited⟩ := runs_awaitReady Pipeline.runs_pollPackage h₁
  rw [calls_append, saves_append, hsaves, List.nil_append]
  cases r with
  | ok a =>
    obtain ⟨hcalls₂, hsaves₂, rfl⟩ := Staging.runs_save_reported h₂
    rw [hcalls₂, hsaves₂, List.append_nil]
    exact Took.advance (Advance.packageReady stage hawaited)
  | error f =>
    obtain ⟨hcalls₂, rfl, ⟨terminal, hsaves₂⟩ | ⟨curable, hsaves₂⟩⟩ := runs_setback h₂
    · rw [hcalls₂, hsaves₂, List.append_nil]
      exact Took.rewind (Rewind.package stage hawaited terminal)
    · rw [hcalls₂, hsaves₂, List.append_nil]
      exact Took.stuck (Stuck.packageReady stage hawaited curable)

theorem runs_buildReady {deadline : τ} (stage : p.stage = .buildReady)
    (h : Stages (plan.buildReady deadline p) t o) : Took plan p (calls t) (saves t) o := by
  unfold buildReady at h
  rw [if_pos stage] at h
  obtain ⟨t₁, r, ⟨⟩, t₂, rfl, h₁, h₂⟩ := Attempt.runs_settle_bind.1 h
  obtain ⟨hsaves, hawaited⟩ := runs_awaitReady Pipeline.runs_pollBuild h₁
  rw [calls_append, saves_append, hsaves, List.nil_append]
  cases r with
  | ok a =>
    -- the build has staged: its droplet is read, and that may fail too
    rcases Staging.runs_bind.1 h₂ with ⟨f, rfl, hf⟩ | ⟨t₃, named, t₄, rfl, h₃, h₄⟩
    · obtain ⟨hsaves₂, answer, hcalls₂, hnamed⟩ := Pipeline.runs_dropletOfBuild hf
      rw [hcalls₂, hsaves₂]
      exact Took.stuck (Stuck.droplet stage hawaited hnamed.symm)
    · obtain ⟨hsaves₂, answer, hcalls₂, hnamed⟩ := Pipeline.runs_dropletOfBuild h₃
      rw [calls_append, saves_append, hcalls₂, hsaves₂, List.nil_append]
      cases named with
      | none =>
        obtain ⟨rfl, rfl, -⟩ := Attempt.runs_throw.1 h₄
        exact Took.stuck (Stuck.noDroplet stage hawaited hnamed.symm)
      | some droplet =>
        obtain ⟨hcalls₃, hsaves₃, rfl⟩ := Staging.runs_save_reported h₄
        rw [hcalls₃, hsaves₃, List.append_nil]
        exact Took.advance (Advance.buildReady stage hawaited hnamed.symm)
  | error f =>
    obtain ⟨hcalls₂, rfl, ⟨terminal, hsaves₂⟩ | ⟨curable, hsaves₂⟩⟩ := runs_setback h₂
    · rw [hcalls₂, hsaves₂, List.append_nil]
      exact Took.rewind (Rewind.build stage hawaited terminal)
    · rw [hcalls₂, hsaves₂, List.append_nil]
      exact Took.stuck (Stuck.buildReady stage hawaited curable)

/-! ## Runs -/

/-- **Every run leaves a trail**, from the progress that it is given. A run that returns ends when all is done. -/
theorem runs_deploy (h : Stages (plan.deploy (some p)) t o) :
    Trail plan p (calls t) (saves t) o ∧ ∀ q, o = .ok q → q.stage = .done := by
  have hresume : Stages (plan.resume p) t o := h
  obtain ⟨began, rest, hcalls, hsaves, hrest⟩ := Staging.runs_quiet_bind rfl hresume
  rw [hcalls, hsaves]
  -- the report at the end comes after all stages
  have hfinish : Leads plan 7 7 fun p => plan.report .info "Deployment finished"
      [("dropletId", .ofText? p.droplet), ("started", .bool plan.start)] >>= fun _ => pure p := by
    intro p t o hp h
    obtain ⟨hcalls, hsaves, rfl⟩ := Staging.runs_reported h
    rw [hcalls, hsaves]
    refine ⟨Trail.empty p, ?_⟩
    intro q hq
    cases hq
    exact hp
  -- each stage leads past itself, so that nothing is left after the last
  have hpackage : Leads plan 0 1 plan.createPackage :=
    Leads.of_stage (fun _ _ _ => runs_createPackage) fun _ hne => if_neg hne
  have hbits : Leads plan 1 2 plan.uploadBits :=
    Leads.of_stage (fun _ _ _ => runs_uploadBits) fun _ hne => if_neg hne
  have hwait : Leads plan 2 3 (plan.packageReady (began + plan.timeout)) :=
    Leads.of_stage (fun _ _ _ => runs_packageReady) fun _ hne => if_neg hne
  have hbuild : Leads plan 3 4 plan.createBuild :=
    Leads.of_stage (fun _ _ _ => runs_createBuild) fun _ hne => if_neg hne
  have hwait' : Leads plan 4 5 (plan.buildReady (began + plan.timeout)) :=
    Leads.of_stage (fun _ _ _ => runs_buildReady) fun _ hne => if_neg hne
  have hdroplet : Leads plan 5 6 plan.setDroplet :=
    Leads.of_stage (fun _ _ _ => runs_setDroplet) fun _ hne => if_neg hne
  have hstart : Leads plan 6 7 plan.startApp :=
    Leads.of_stage (fun _ _ _ => runs_startApp) fun _ hne => if_neg hne
  have hleads := Leads.bind hpackage <| Leads.bind hbits <| Leads.bind hwait <| Leads.bind hbuild <|
    Leads.bind hwait' <| Leads.bind hdroplet <| Leads.bind hstart hfinish
  obtain ⟨htrail, hdone⟩ := hleads p rest o (Nat.zero_le _) hrest
  refine ⟨htrail, ?_⟩
  intro q hq
  have hrank : 7 ≤ q.stage.rank := hdone q hq
  exact Stage.eq_of_rank (Nat.le_antisymm q.stage.rank_le hrank)

end Plan

/-! ## Histories -/

/-- An attempt to deploy: the plan, what was exchanged, and the outcome. -/
structure Attempted (τ : Type) where
  plan : Plan τ
  trace : List (Exchange (Staging τ))
  outcome : Except Fault Progress

/-- The calls of an attempt. -/
def Attempted.calls (a : Attempted τ) : List Answered :=
  Steward.calls a.trace

variable [Add τ] [LT τ] [DecidableLT τ]

/-- Attempts in a row to deploy one application, and the progress that they leave. Each takes up what the ones
before it saved. Plans may differ otherwise, and the platform may answer anything. -/
inductive History (app : String) : List (Attempted τ) → Progress → Prop where
  | begun : History app [] (Progress.fresh app)
  | next {as : List (Attempted τ)} {p : Progress} {a : Attempted τ} (before : History app as p)
      (same : a.plan.app = some app) (run : Stages (a.plan.deploy (some p)) a.trace a.outcome) :
      History app (as ++ [a]) (lastSaved p a.trace)

/-- An attempt that returns leaves what it returns, and all is done. -/
theorem History.of_returned {app : String} {as : List (Attempted τ)} {a : Attempted τ} {p q : Progress}
    (h : History app (as ++ [a]) p) (returned : a.outcome = .ok q) : p = q ∧ q.stage = .done := by
  generalize hl : as ++ [a] = l at h
  cases h with
  | begun => exact absurd hl (by simp)
  | @next as' p' a' before same run =>
    obtain ⟨-, hlast⟩ := List.append_inj' hl rfl
    obtain rfl : a = a' := List.head_eq_of_cons_eq hlast
    obtain ⟨htrail, hdone⟩ := Plan.runs_deploy run
    rw [returned] at htrail
    exact ⟨htrail.last_eq, hdone q returned⟩

/-! ### Attempts under a handler -/

/-- An attempt under a handler. -/
def Attempted.under {σ : Type} (platform : Handler (Staging τ) σ) (plan : Plan τ) (p : Progress) (s : σ) :
    Attempted τ :=
  ⟨plan, (plan.deploy (some p)).outcome.exchanged platform s, ((plan.deploy (some p)).outcome.run platform s).1⟩

/-- An attempt under a handler is a run. -/
theorem Attempted.runs_under {σ : Type} (platform : Handler (Staging τ) σ) (plan : Plan τ) (p : Progress) (s : σ) :
    Stages (plan.deploy (some p)) (Attempted.under platform plan p s).trace
      (Attempted.under platform plan p s).outcome := by
  have hrun := Program.Runs.of_run platform (plan.deploy (some p)).outcome s
  have hany : ∀ r (s : σ) reply s' (w : Unit), True → platform.answering r s reply s' →
      ∃ w', Answering.any (Staging τ) r w reply w' ∧ True := by
    intro r s reply s' w _ _
    exact ⟨(), trivial, trivial⟩
  obtain ⟨⟨⟩, hruns, -⟩ := hrun.simulate (fun _ _ => True) hany (w := ()) trivial
  exact hruns

/-- One more attempt under a handler. -/
theorem History.under {σ : Type} {app : String} {as : List (Attempted τ)} {p : Progress} (h : History app as p)
    (platform : Handler (Staging τ) σ) {plan : Plan τ} (same : plan.app = some app) (s : σ) :
    History app (as ++ [.under platform plan p s]) (lastSaved p (Attempted.under platform plan p s).trace) :=
  h.next same (Attempted.runs_under platform plan p s)

end Steward
