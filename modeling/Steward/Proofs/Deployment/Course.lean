import Steward.Proofs.Deployment.ExactlyOnce

/-!
# The course of a deployment

Attempts to deploy take up one record of progress again and again. The record is all that an attempt knows of those
before it, so it has to be sound whatever became of them: at each stage exactly those of package, build and droplet
are known that the stages before it make. `Stage.made` says which, `Progress.IsSound` is the invariant. Every stage
that is done keeps it, and so does every loss; a stage that only fails changes nothing.

## Contents

* `Course` — attempts in a row on one record, whichever application each is for;
* `Call.stage?`, `Plan.Asks` — the calls of a stage; `Advance.asks`, `Stuck.asks`, `Rewind.asks` — it makes no others;
* `Stage.made`, `Progress.IsSound` — what a record knows at a stage;
* `Advance.isSound`, `Rewind.isSound`, `Trail.isSound`, `Course.isSound` — the invariant;
* `Plan.Passed`, `Trail.of_error` — a run that fails, cut after the last stage that was done;
* `Course.leaves_orderly` — what attempts leave behind.
-/

namespace Steward

variable {τ : Type}

/-! ## Courses -/

section

variable [Add τ] [LT τ] [DecidableLT τ]

/-- Attempts in a row on one record of progress: what was kept before them, and what they leave. Each takes up what
the ones before it saved, whatever application it is for and whatever it is answered. -/
inductive Course (start : Progress) : List (Attempted τ) → Progress → Prop where
  | begun : Course start [] start
  | next {as : List (Attempted τ)} {p : Progress} {a : Attempted τ} (before : Course start as p)
      (run : Stages (a.plan.deploy (some p)) a.trace a.outcome) : Course start (as ++ [a]) (lastSaved p a.trace)

/-- A history is a course from the beginning, all of it for one application. -/
theorem History.course {app : String} {as : List (Attempted τ)} {p : Progress} (h : History app as p) :
    Course (Progress.fresh app) as p ∧ ∀ a ∈ as, a.plan.app = some app := by
  induction h with
  | begun =>
    refine ⟨Course.begun, ?_⟩
    intro a ha
    cases ha
  | next _ same run ih =>
    refine ⟨ih.1.next run, ?_⟩
    intro b hb
    rcases List.mem_append.1 hb with hb | hb
    · exact ih.2 b hb
    · rw [List.mem_singleton.1 hb]
      exact same

end

/-! ## Calls by stages -/

/-- The stage that a call belongs to, if it belongs to one. -/
def Call.stage? : Call → Option Stage
  | .createPackage _ => some .createPackage
  | .uploadBits .. => some .uploadBits
  | .package _ => some .packageReady
  | .createBuild _ => some .createBuild
  | .build _ => some .buildReady
  | .setDroplet .. => some .setDroplet
  | .start _ => some .start
  | _ => none

/-- All calls of a wait are one call. -/
theorem Awaited.call_eq {c : Call} {verdict : Except Fault c.Answer → Except Fault Readiness} {wait : Wait}
    {cs : List Answered} {o : Except Fault Unit} (h : Awaited c verdict wait cs o) : ∀ a ∈ cs, a.call = c := by
  intro a ha
  induction h with
  | ready | failed | late => rw [List.mem_singleton.1 ha]
  | unfinished => cases ha
  | pending _ _ ih =>
    rcases List.mem_cons.1 ha with rfl | ha
    · rfl
    · exact ih ha

namespace Plan

variable {plan : Plan τ} {p q : Progress} {cs : List Answered} {f : Fault}

/-- A call that the stage of a record makes. -/
inductive Asks (plan : Plan τ) (p : Progress) : Call → Prop where
  | createPackage (stage : p.stage = .createPackage) : Asks plan p (.createPackage plan.app)
  | uploadBits {bits : ByteArray} (stage : p.stage = .uploadBits) (opened : plan.artifact.bits = some bits) :
      Asks plan p (.uploadBits p.package bits plan.artifact.name)
  | packageReady (stage : p.stage = .packageReady) : Asks plan p (.package p.package)
  | createBuild (stage : p.stage = .createBuild) : Asks plan p (.createBuild p.package)
  | buildReady (stage : p.stage = .buildReady) : Asks plan p (.build p.build)
  | setDroplet (stage : p.stage = .setDroplet) : Asks plan p (.setDroplet plan.app p.droplet)
  | start (stage : p.stage = .start) (planned : plan.start = true) : Asks plan p (.start plan.app)

theorem Asks.stage?_eq {c : Call} (h : Asks plan p c) : c.stage? = some p.stage := by
  cases h with
  | createPackage stage | uploadBits stage | packageReady stage | createBuild stage | buildReady stage
  | setDroplet stage | start stage =>
    rw [stage]
    rfl

/-- All calls of a wait are calls of the stage that waits. -/
theorem Asks.of_awaited {c : Call} {verdict : Except Fault c.Answer → Except Fault Readiness} {wait : Wait}
    {o : Except Fault Unit} (h : Asks plan p c) (awaited : Awaited c verdict wait cs o) :
    ∀ a ∈ cs, Asks plan p a.call := by
  intro a ha
  rw [awaited.call_eq a ha]
  exact h

/-- **A stage that is done** makes no calls but its own. -/
theorem Advance.asks (h : Advance plan p cs q) : ∀ c ∈ cs, Asks plan p c.call := by
  cases h with
  | createPackage stage => exact List.forall_mem_singleton.2 (Asks.createPackage stage)
  | uploadBits stage opened => exact List.forall_mem_singleton.2 (Asks.uploadBits stage opened)
  | packageReady stage awaited => exact (Asks.packageReady stage).of_awaited awaited
  | createBuild stage => exact List.forall_mem_singleton.2 (Asks.createBuild stage)
  | buildReady stage awaited =>
    have hasks : Asks plan p (.build p.build) := Asks.buildReady stage
    exact List.forall_mem_append.2 ⟨hasks.of_awaited awaited, List.forall_mem_singleton.2 hasks⟩
  | setDroplet stage => exact List.forall_mem_singleton.2 (Asks.setDroplet stage)
  | start stage planned => exact List.forall_mem_singleton.2 (Asks.start stage planned)
  | skipStart => exact List.forall_mem_nil _

/-- **A stage that fails** makes no calls but its own. -/
theorem Stuck.asks (h : Stuck plan p cs f) : ∀ c ∈ cs, Asks plan p c.call := by
  cases h with
  | createPackage stage => exact List.forall_mem_singleton.2 (Asks.createPackage stage)
  | artifact => exact List.forall_mem_nil _
  | uploadBits stage opened => exact List.forall_mem_singleton.2 (Asks.uploadBits stage opened)
  | packageReady stage awaited => exact (Asks.packageReady stage).of_awaited awaited
  | createBuild stage => exact List.forall_mem_singleton.2 (Asks.createBuild stage)
  | buildReady stage awaited => exact (Asks.buildReady stage).of_awaited awaited
  | droplet stage awaited | noDroplet stage awaited =>
    have hasks : Asks plan p (.build p.build) := Asks.buildReady stage
    exact List.forall_mem_append.2 ⟨hasks.of_awaited awaited, List.forall_mem_singleton.2 hasks⟩
  | setDroplet stage => exact List.forall_mem_singleton.2 (Asks.setDroplet stage)
  | start stage planned => exact List.forall_mem_singleton.2 (Asks.start stage planned)

/-- **A loss** makes no calls but those of its stage. -/
theorem Rewind.asks (h : Rewind plan p cs f q) : ∀ c ∈ cs, Asks plan p c.call := by
  cases h with
  | package stage awaited => exact (Asks.packageReady stage).of_awaited awaited
  | build stage awaited => exact (Asks.buildReady stage).of_awaited awaited

end Plan

/-! ## What a record knows -/

/-- Which of package, build and droplet the stages before this one make. -/
def Stage.made : Stage → Bool × Bool × Bool
  | .createPackage => (false, false, false)
  | .uploadBits | .packageReady | .createBuild => (true, false, false)
  | .buildReady => (true, true, false)
  | .setDroplet | .start | .done => (true, true, true)

/-- **The record knows** what the stages before its stage make, and nothing else. -/
def Progress.IsSound (p : Progress) : Prop :=
  (p.package.isSome, p.build.isSome, p.droplet.isSome) = p.stage.made

theorem Progress.isSound_fresh (app : String) : (Progress.fresh app).IsSound :=
  rfl

namespace Plan

variable {plan : Plan τ} {p q : Progress} {cs : List Answered} {f : Fault}

/-- **A stage that is done** makes what it is there for. -/
theorem Advance.isSound (h : Advance plan p cs q) (hp : p.IsSound) : q.IsSound := by
  unfold Progress.IsSound at hp ⊢
  cases h with
  | createPackage stage | uploadBits stage | packageReady stage | createBuild stage | buildReady stage
  | setDroplet stage | start stage | skipStart stage =>
    rw [stage] at hp
    simp_all [Stage.made]

/-- **A loss** takes back what was lost, and the stage that makes it comes again. -/
theorem Rewind.isSound (h : Rewind plan p cs f q) (hp : p.IsSound) : q.IsSound := by
  unfold Progress.IsSound at hp ⊢
  cases h with
  | package stage | build stage =>
    rw [stage] at hp
    simp_all [Stage.made]

/-- **Whatever a run saves is sound.** -/
theorem Trail.isSound {ss : List Progress} {o : Except Fault Progress} (h : Trail plan p cs ss o) (hp : p.IsSound) :
    ∀ q ∈ ss, q.IsSound := by
  induction h with
  | empty p | stuck hstage =>
    intro q hq
    cases hq
  | advance hstage _ ih =>
    have hnext := hstage.isSound hp
    intro q hq
    rcases List.mem_cons.1 hq with rfl | hq
    · exact hnext
    · exact ih hnext q hq
  | rewind hstage =>
    intro q hq
    rw [List.mem_singleton.1 hq]
    exact hstage.isSound hp

/-! ## Runs that fail -/

/-- Stages that are done, one after the other, with their calls. -/
inductive Passed (plan : Plan τ) : Progress → List Answered → Progress → Prop where
  | none (p : Progress) : Passed plan p [] p
  | stage {p q r : Progress} {cs cs' : List Answered} (h : Advance plan p cs q) (rest : Passed plan q cs' r) :
      Passed plan p (cs ++ cs') r

theorem Passed.isSound (h : Passed plan p cs q) (hp : p.IsSound) : q.IsSound := by
  induction h with
  | none p => exact hp
  | stage hstage _ ih => exact ih (hstage.isSound hp)

/-- **A run that fails** passes some stages and fails in the next one, which it leaves as it is or takes back. -/
theorem Trail.of_error {ss : List Progress} (h : Trail plan p cs ss (.error f)) :
    ∃ q done rest, cs = done ++ rest ∧ Passed plan p done q ∧
      (Stuck plan q rest f ∧ ss.getLast?.getD p = q ∨ Rewind plan q rest f (ss.getLast?.getD p)) := by
  generalize hr : (Except.error f : Except Fault Progress) = r at h
  induction h with
  | empty p => cases hr
  | @advance p q cs cs' ss o hstage _ ih =>
    obtain ⟨q', done, rest, rfl, hpassed, hend⟩ := ih hr
    rw [List.getLast?_cons]
    refine ⟨q', cs ++ done, rest, (List.append_assoc _ _ _).symm, Passed.stage hstage hpassed, ?_⟩
    -- what is kept if nothing is saved later is what this stage saved
    exact hend
  | stuck hstage =>
    cases hr
    exact ⟨_, [], _, rfl, Passed.none _, Or.inl ⟨hstage, rfl⟩⟩
  | rewind hstage =>
    cases hr
    exact ⟨_, [], _, rfl, Passed.none _, Or.inr hstage⟩

end Plan

/-! ## What attempts leave behind -/

variable [Add τ] [LT τ] [DecidableLT τ]

/-- **Attempts keep the record sound**, at every moment. -/
theorem Course.isSound {start p : Progress} {as : List (Attempted τ)} (h : Course start as p)
    (hstart : start.IsSound) : p.IsSound ∧ ∀ a ∈ as, ∀ q ∈ saves a.trace, q.IsSound := by
  induction h with
  | begun =>
    refine ⟨hstart, ?_⟩
    intro a ha
    cases ha
  | @next as p a _ run ih =>
    obtain ⟨htrail, -⟩ := Plan.runs_deploy run
    have hsaves := htrail.isSound ih.1
    constructor
    · -- what is kept is what was saved last, or what there was
      unfold lastSaved
      cases hlast : (saves a.trace).getLast? with
      | none => exact ih.1
      | some q => exact hsaves q (List.mem_of_getLast? hlast)
    · intro b hb
      rcases List.mem_append.1 hb with hb | hb
      · exact ih.2 b hb
      · rw [List.mem_singleton.1 hb]
        exact hsaves

/-- **The record is orderly after any attempts.** It knows exactly what the stages before its stage make, and so did
every record that was saved on the way. An attempt that fails from there passes some stages, and all its calls after
these are calls of the next stage. If what that stage waited for is lost, the package or the build is taken back and
nothing else; if it failed in any other way, the record is as the last stage that was done left it. -/
theorem Course.leaves_orderly {app : String} {as : List (Attempted τ)} {p : Progress}
    (h : Course (Progress.fresh app) as p) :
    p.IsSound ∧ (∀ a ∈ as, ∀ q ∈ saves a.trace, q.IsSound) ∧
      ∀ (plan : Plan τ) (t : List (Exchange (Staging τ))) (f : Fault), Stages (plan.deploy (some p)) t (.error f) →
        ∃ q done rest, calls t = done ++ rest ∧ Plan.Passed plan p done q ∧ q.IsSound ∧
          (∀ c ∈ rest, c.call.stage? = some q.stage) ∧
          (Plan.Stuck plan q rest f ∧ lastSaved p t = q ∨
            q.stage = .packageReady ∧ f.isTerminal = true ∧
              Awaited (.package q.package) (Pipeline.packageVerdict q.package) .package rest (.error f) ∧
              lastSaved p t = { q with stage := .createPackage, package := none } ∨
            q.stage = .buildReady ∧ f.isTerminal = true ∧
              Awaited (.build q.build) Pipeline.buildVerdict .build rest (.error f) ∧
              lastSaved p t = { q with stage := .createBuild, build := none }) := by
  obtain ⟨hp, hsaves⟩ := h.isSound (Progress.isSound_fresh app)
  refine ⟨hp, hsaves, ?_⟩
  intro plan t f run
  obtain ⟨htrail, -⟩ := Plan.runs_deploy run
  obtain ⟨q, done, rest, hcalls, hpassed, hend⟩ := htrail.of_error
  refine ⟨q, done, rest, hcalls, hpassed, hpassed.isSound hp, ?_, ?_⟩
  · intro c hc
    rcases hend with ⟨hstuck, -⟩ | hrewind
    · exact (hstuck.asks c hc).stage?_eq
    · exact (hrewind.asks c hc).stage?_eq
  · rcases hend with ⟨hstuck, hlast⟩ | hrewind
    · exact Or.inl ⟨hstuck, hlast⟩
    · -- a loss is told by the record that it saves
      generalize hlast : (saves t).getLast?.getD p = r at hrewind
      cases hrewind with
      | package stage awaited terminal => exact Or.inr (Or.inl ⟨stage, terminal, awaited, hlast⟩)
      | build stage awaited terminal => exact Or.inr (Or.inr ⟨stage, terminal, awaited, hlast⟩)

/-- An attempt that loses its package leaves a record that knows of none. -/
theorem Course.leaves_orderly_vain :
    ∃ p f, Course (Progress.fresh "app-1") [vainAttempt] p ∧ p.IsSound ∧ p.stage = .createPackage ∧
      p.package = none ∧ vainAttempt.outcome = .error f ∧
      ∃ q done rest, vainAttempt.calls = done ++ rest ∧
        Plan.Passed vainAttempt.plan (Progress.fresh "app-1") done q ∧
        ∀ c ∈ rest, c.call.stage? = some q.stage := by
  have run := Attempted.runs_under fickle shortPlan (Progress.fresh "app-1") 0
  have hcourse : Course (Progress.fresh "app-1") [vainAttempt] _ := Course.begun.next (a := vainAttempt) run
  obtain ⟨f, hf⟩ : ∃ f, vainAttempt.outcome = .error f := by
    have hfailed : vainAttempt.outcome.isOk = false := by decide +kernel
    cases h : vainAttempt.outcome with
    | error f => exact ⟨f, rfl⟩
    | ok q =>
      rw [h] at hfailed
      cases hfailed
  have run : Stages (shortPlan.deploy (some (Progress.fresh "app-1"))) vainAttempt.trace (.error f) := hf ▸ run
  obtain ⟨q, done, rest, hcalls, hpassed, -, hstage, -⟩ := (Course.leaves_orderly Course.begun).2.2 _ _ _ run
  exact ⟨_, f, hcourse, (Course.leaves_orderly hcourse).1, by decide +kernel, by decide +kernel, hf, q, done, rest, hcalls,
    hpassed, hstage⟩

end Steward
