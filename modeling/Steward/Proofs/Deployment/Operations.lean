import Steward.Deployment.Run
import Steward.Proofs.Program.Runs

/-!
# What operations exchange

The runs of a deployment are read off what they exchange with the platform: `calls` are the calls with their
answers, `saves` the saved progress. Nothing is assumed about the platform. Every operation of the pipeline is
one call, and its outcome is a function of the answer.

## Contents

* `Answered`, `calls`, `saves`, `lastSaved` — what is read off a run;
* `Staging.runs_quiet_bind` — requests that are neither calls nor saves;
* `Pipeline.operated`, `Pipeline.runs_operate` — operations;
* `packageMade`, `bitsTaken`, `packageVerdict`, `buildMade`, `buildVerdict`, `dropletNamed` — outcomes by answers.
-/

namespace Steward

variable {τ : Type}

/-! ## Reading runs -/

/-- A call to the platform, and the answer. -/
structure Answered where
  call : Call
  answer : Except Fault call.Answer

/-- The calls of a run, with their answers. -/
def calls (t : List (Exchange (Staging τ))) : List Answered :=
  t.filterMap fun e =>
    match e with
    | ⟨.call c, reply⟩ => some ⟨c, reply⟩
    | _ => none

/-- The progress that a run saves. -/
def saves (t : List (Exchange (Staging τ))) : List Progress :=
  t.filterMap fun e =>
    match e with
    | ⟨.save p, _⟩ => some p
    | _ => none

/-- The progress that is kept after a run. -/
def lastSaved (p : Progress) (t : List (Exchange (Staging τ))) : Progress :=
  (saves t).getLast?.getD p

@[simp] theorem calls_nil : calls ([] : List (Exchange (Staging τ))) = [] :=
  rfl

@[simp] theorem saves_nil : saves ([] : List (Exchange (Staging τ))) = [] :=
  rfl

@[simp] theorem calls_append (t₁ t₂ : List (Exchange (Staging τ))) : calls (t₁ ++ t₂) = calls t₁ ++ calls t₂ :=
  List.filterMap_append

@[simp] theorem saves_append (t₁ t₂ : List (Exchange (Staging τ))) : saves (t₁ ++ t₂) = saves t₁ ++ saves t₂ :=
  List.filterMap_append

/-- A request that is neither a call nor a save. -/
def Staging.Request.isQuiet : Staging.Request τ → Bool
  | .call _ | .save _ => false
  | _ => true

/-- A run of a deployment, whatever it is answered. -/
abbrev Stages {α : Type} (p : Attempt (Staging τ) α) (t : List (Exchange (Staging τ))) (o : Except Fault α) : Prop :=
  Attempt.Runs (Answering.any (Staging τ)) p () t o ()

namespace Staging

variable {α β : Type} {t : List (Exchange (Staging τ))}

theorem runs_bind {p : Attempt (Staging τ) α} {f : α → Attempt (Staging τ) β} {o : Except Fault β} :
    Stages (p >>= f) t o ↔ (∃ e, o = .error e ∧ Stages p t (.error e)) ∨
      ∃ t₁ a t₂, t = t₁ ++ t₂ ∧ Stages p t₁ (.ok a) ∧ Stages (f a) t₂ o := by
  unfold Stages
  rw [Attempt.runs_bind]
  constructor
  · rintro (h | ⟨t₁, a, m, t₂, ht, h₁, h₂⟩)
    · exact Or.inl h
    · exact Or.inr ⟨t₁, a, t₂, ht, h₁, h₂⟩
  · rintro (h | ⟨t₁, a, t₂, ht, h₁, h₂⟩)
    · exact Or.inl h
    · exact Or.inr ⟨t₁, a, (), t₂, ht, h₁, h₂⟩

/-- A quiet request exchanges nothing that is read off a run. -/
theorem runs_quiet_bind {r : Staging.Request τ} (hr : r.isQuiet = true)
    {f : Staging.Reply τ r → Attempt (Staging τ) β} {o : Except Fault β} (h : Stages (ask r >>= f) t o) :
    ∃ reply rest, calls t = calls rest ∧ saves t = saves rest ∧ Stages (f reply) rest o := by
  obtain ⟨reply, ⟨⟩, rest, rfl, -, hrest⟩ := Attempt.runs_request_bind.1 h
  refine ⟨reply, rest, ?_, ?_, hrest⟩
  · cases r with
    | call c => cases hr
    | _ => rfl
  · cases r with
    | save p => cases hr
    | _ => rfl

theorem runs_quiet {r : Staging.Request τ} (hr : r.isQuiet = true) {o : Except Fault (Staging.Reply τ r)}
    (h : Stages (ask r) t o) : (∃ reply, o = .ok reply) ∧ calls t = [] ∧ saves t = [] := by
  obtain ⟨reply, ho, hrun⟩ := Attempt.runs_ofProgram.1 h
  obtain ⟨rfl, -⟩ := Program.runs_request.1 hrun
  refine ⟨⟨reply, ho⟩, ?_, ?_⟩
  · cases r with
    | call c => cases hr
    | _ => rfl
  · cases r with
    | save p => cases hr
    | _ => rfl

/-- After a report the program goes on. -/
theorem runs_report_bind {level : Level} {text : String} {fields : List (String × Value)}
    {f : Unit → Attempt (Staging τ) β} {o : Except Fault β} (h : Stages (report level text fields >>= f) t o) :
    ∃ rest, calls t = calls rest ∧ saves t = saves rest ∧ Stages (f ()) rest o := by
  obtain ⟨⟨⟩, rest, hcalls, hsaves, hrest⟩ := runs_quiet_bind rfl h
  exact ⟨rest, hcalls, hsaves, hrest⟩

theorem runs_pure {a : α} {o : Except Fault α} (h : Stages (pure a) t o) :
    calls t = [] ∧ saves t = [] ∧ o = .ok a := by
  obtain ⟨rfl, ho, -⟩ := Attempt.runs_pure.1 h
  exact ⟨rfl, rfl, ho⟩

theorem runs_throw {f : Fault} {o : Except Fault α} (h : Stages (throw f) t o) :
    calls t = [] ∧ saves t = [] ∧ o = .error f := by
  obtain ⟨rfl, ho, -⟩ := Attempt.runs_throw.1 h
  exact ⟨rfl, rfl, ho⟩

theorem runs_ofExcept {x o : Except Fault α} (h : Stages (.ofExcept x) t o) :
    calls t = [] ∧ saves t = [] ∧ o = x := by
  obtain ⟨rfl, ho, -⟩ := Attempt.runs_ofExcept.1 h
  exact ⟨rfl, rfl, ho⟩

/-- A result that is reported. -/
theorem runs_reported {level : Level} {text : String} {fields : List (String × Value)} {a : α} {o : Except Fault α}
    (h : Stages (report level text fields >>= fun _ => pure a) t o) :
    calls t = [] ∧ saves t = [] ∧ o = .ok a := by
  obtain ⟨rest, hcalls, hsaves, hrest⟩ := runs_report_bind h
  rw [hcalls, hsaves]
  exact runs_pure hrest

/-- A failure that is reported. -/
theorem runs_report_throw {level : Level} {text : String} {fields : List (String × Value)} {f : Fault}
    {o : Except Fault α} (h : Stages (report level text fields >>= fun _ => throw f) t o) :
    calls t = [] ∧ saves t = [] ∧ o = .error f := by
  obtain ⟨rest, hcalls, hsaves, hrest⟩ := runs_report_bind h
  rw [hcalls, hsaves]
  exact runs_throw hrest

theorem runs_call {c : Call} {o : Except Fault c.Answer} (h : Stages (call c) t o) :
    calls t = [⟨c, o⟩] ∧ saves t = [] := by
  obtain ⟨rfl, -⟩ := Program.runs_request.1 h
  exact ⟨rfl, rfl⟩

theorem runs_save_bind {p : Progress} {f : Progress → Attempt (Staging τ) β} {o : Except Fault β}
    (h : Stages (Plan.save p >>= f) t o) :
    ∃ rest, calls t = calls rest ∧ saves t = p :: saves rest ∧ Stages (f p) rest o := by
  obtain ⟨-, ⟨⟩, rest, rfl, -, hrest⟩ := Attempt.runs_request_bind.1 h
  exact ⟨rest, rfl, rfl, hrest⟩

theorem runs_save {p : Progress} {o : Except Fault Progress} (h : Stages (Plan.save p) t o) :
    o = .ok p ∧ calls t = [] ∧ saves t = [p] := by
  obtain ⟨-, ⟨⟩, rest, rfl, -, hrest⟩ := Attempt.runs_request_bind.1 h
  obtain ⟨rfl, ho, -⟩ := Attempt.runs_pure.1 hrest
  exact ⟨ho, rfl, rfl⟩

/-- Progress that is saved and reported. -/
theorem runs_save_reported {p : Progress} {level : Level} {text : String} {fields : Progress → List (String × Value)}
    {o : Except Fault Progress}
    (h : Stages (Plan.save p >>= fun p => report level text (fields p) >>= fun _ => pure p) t o) :
    calls t = [] ∧ saves t = [p] ∧ o = .ok p := by
  obtain ⟨rest, hcalls, hsaves, hrest⟩ := runs_save_bind h
  obtain ⟨hcalls', hsaves', ho⟩ := runs_reported hrest
  exact ⟨hcalls.trans hcalls', hsaves.trans (congrArg (List.cons p) hsaves'), ho⟩

end Staging

/-! ## Operations -/

namespace Pipeline

/-- The outcome of an operation by the answer to its call. -/
def operated {α : Type} (operation : Operation) : Except Fault α → Except Fault α
  | .ok a => .ok a
  | .error f => .error (if f.isRemote then .operationFailed operation f else f)

variable {t : List (Exchange (Staging τ))}

/-- **An operation is one call**, and saves nothing. -/
theorem runs_operate {operation : Operation} {c : Call} {o : Except Fault c.Answer}
    (h : Stages (operate operation c) t o) :
    saves t = [] ∧ ∃ answer, calls t = [⟨c, answer⟩] ∧ o = operated operation answer := by
  unfold operate at h
  obtain ⟨t₁, answer, ⟨⟩, t₂, rfl, h₁, h₂⟩ := Attempt.runs_settle_bind.1 h
  obtain ⟨hcalls, hsaves⟩ := Staging.runs_call h₁
  -- what is counted and reported after the call is read off nothing
  have hrest : calls t₂ = [] ∧ saves t₂ = [] ∧ o = operated operation answer := by
    cases answer with
    | ok a =>
      obtain ⟨-, rest, hcalls, hsaves, hrest⟩ := Staging.runs_quiet_bind rfl h₂
      rw [hcalls, hsaves]
      exact Staging.runs_pure hrest
    | error f =>
      dsimp only at h₂
      dsimp only [operated]
      cases hremote : f.isRemote with
      | true =>
        rw [hremote, if_pos rfl] at h₂
        obtain ⟨-, rest, hcalls, hsaves, hrest⟩ := Staging.runs_quiet_bind rfl h₂
        rw [hcalls, hsaves, if_pos rfl]
        exact Staging.runs_report_throw hrest
      | false =>
        rw [hremote, if_neg Bool.false_ne_true] at h₂
        rw [if_neg Bool.false_ne_true]
        exact Staging.runs_throw h₂
  obtain ⟨hcalls', hsaves', ho⟩ := hrest
  rw [calls_append, saves_append, hcalls, hsaves, hcalls', hsaves']
  exact ⟨rfl, answer, rfl, ho⟩

/-- An operation whose answer is looked at and judged. -/
theorem runs_operate_bind {α : Type} {operation : Operation} {c : Call} {f : c.Answer → Attempt (Staging τ) α}
    {judge : c.Answer → Except Fault α} {o : Except Fault α} (h : Stages (operate operation c >>= f) t o)
    (hjudge : ∀ {t a o}, Stages (f a) t o → calls t = [] ∧ saves t = [] ∧ o = judge a) :
    saves t = [] ∧ ∃ answer, calls t = [⟨c, answer⟩] ∧ o = operated operation answer >>= judge := by
  rcases Staging.runs_bind.1 h with ⟨e, rfl, he⟩ | ⟨t₁, a, t₂, rfl, h₁, h₂⟩
  · obtain ⟨hsaves, answer, hcalls, ho⟩ := runs_operate he
    refine ⟨hsaves, answer, hcalls, ?_⟩
    rw [← ho]
    rfl
  · obtain ⟨hsaves, answer, hcalls, ho⟩ := runs_operate h₁
    obtain ⟨hcalls', hsaves', ho'⟩ := hjudge h₂
    rw [calls_append, saves_append, hcalls, hsaves, hcalls', hsaves']
    refine ⟨rfl, answer, rfl, ?_⟩
    rw [← ho, ho']
    rfl

/-- The package that an answer tells of. -/
def packageMade (answer : Except Fault (Option Package)) : Except Fault String :=
  operated .createPackage answer >>= fun made =>
    match made with
    | none => .error (.unanswered .createPackage)
    | some p => .ok p.guid

theorem runs_createPackage {app : Option String} {o : Except Fault String} (h : Stages (createPackage app) t o) :
    saves t = [] ∧ ∃ answer, calls t = [⟨.createPackage app, answer⟩] ∧ o = packageMade answer := by
  apply runs_operate_bind h
  intro t made o h
  cases made with
  | none => exact Staging.runs_throw h
  | some p => exact Staging.runs_reported h

/-- What an answer says about bits that were uploaded. -/
def bitsTaken (answer : Except Fault (Option Package)) : Except Fault String :=
  operated .uploadBits answer >>= fun taken =>
    match taken with
    | none => .error (.unanswered .uploadBits)
    | some p => .ok p.guid

/-- Bits are uploaded if the artifact can be opened. -/
theorem runs_uploadBits {package : Option String} {artifact : Artifact} {o : Except Fault String}
    (h : Stages (uploadBits package artifact) t o) :
    saves t = [] ∧ ((artifact.bits = none ∧ calls t = [] ∧ o = .error .artifactMissing) ∨
      ∃ bits answer, artifact.bits = some bits ∧ calls t = [⟨.uploadBits package bits artifact.name, answer⟩] ∧
        o = bitsTaken answer) := by
  unfold uploadBits at h
  cases hbits : artifact.bits with
  | none =>
    rw [hbits] at h
    obtain ⟨hcalls, hsaves, ho⟩ := Staging.runs_throw h
    exact ⟨hsaves, Or.inl ⟨rfl, hcalls, ho⟩⟩
  | some bits =>
    rw [hbits] at h
    have hrun : saves t = [] ∧ ∃ answer, calls t = [⟨.uploadBits package bits artifact.name, answer⟩] ∧
        o = bitsTaken answer := by
      apply runs_operate_bind h
      intro t taken o h
      cases taken with
      | none => exact Staging.runs_throw h
      | some p => exact Staging.runs_reported h
    obtain ⟨hsaves, answer, hcalls, ho⟩ := hrun
    exact ⟨hsaves, Or.inr ⟨bits, answer, rfl, hcalls, ho⟩⟩

/-- What an answer says about a package that is waited for. -/
def packageVerdict (id : Option String) (answer : Except Fault (Option Package)) : Except Fault Readiness :=
  operated .packageReady answer >>= packageReadiness id

theorem runs_pollPackage {id : Option String} {o : Except Fault Readiness} (h : Stages (pollPackage id) t o) :
    saves t = [] ∧ ∃ answer, calls t = [⟨.package id, answer⟩] ∧ o = packageVerdict id answer := by
  apply runs_operate_bind h
  intro t p o h
  exact Staging.runs_ofExcept h

/-- The build that an answer tells of. -/
def buildMade (answer : Except Fault (Option Build)) : Except Fault String :=
  operated .createBuild answer >>= fun made =>
    match made with
    | none => .error (.unanswered .createBuild)
    | some b => .ok b.guid

theorem runs_createBuild {package : Option String} {o : Except Fault String} (h : Stages (createBuild package) t o) :
    saves t = [] ∧ ∃ answer, calls t = [⟨.createBuild package, answer⟩] ∧ o = buildMade answer := by
  apply runs_operate_bind h
  intro t made o h
  cases made with
  | none => exact Staging.runs_throw h
  | some b => exact Staging.runs_reported h

/-- What an answer says about a build that is waited for. -/
def buildVerdict (answer : Except Fault (Option Build)) : Except Fault Readiness :=
  operated .buildReady answer >>= buildReadiness

theorem runs_pollBuild {id : Option String} {o : Except Fault Readiness} (h : Stages (pollBuild id) t o) :
    saves t = [] ∧ ∃ answer, calls t = [⟨.build id, answer⟩] ∧ o = buildVerdict answer := by
  apply runs_operate_bind h
  intro t b o h
  exact Staging.runs_ofExcept h

/-- The droplet that an answer names. -/
def dropletNamed (answer : Except Fault (Option Build)) : Except Fault (Option String) :=
  operated .dropletFromBuild answer >>= fun b => .ok ((b.bind (·.droplet)).map (·.guid))

theorem runs_dropletOfBuild {id : Option String} {o : Except Fault (Option String)}
    (h : Stages (dropletOfBuild id) t o) :
    saves t = [] ∧ ∃ answer, calls t = [⟨.build id, answer⟩] ∧ o = dropletNamed answer := by
  apply runs_operate_bind h
  intro t b o h
  exact Staging.runs_pure h

theorem runs_setDroplet {app droplet : Option String} {o : Except Fault Unit}
    (h : Stages (setDroplet app droplet) t o) :
    saves t = [] ∧ ∃ answer, calls t = [⟨.setDroplet app droplet, answer⟩] ∧ o = operated .setDroplet answer := by
  have hrun : saves t = [] ∧ ∃ answer, calls t = [⟨.setDroplet app droplet, answer⟩] ∧
      o = operated .setDroplet answer >>= Except.ok := by
    apply runs_operate_bind h
    intro t a o h
    obtain ⟨⟨⟨⟩, ho⟩, hcalls, hsaves⟩ := Staging.runs_quiet rfl h
    exact ⟨hcalls, hsaves, ho⟩
  obtain ⟨hsaves, answer, hcalls, ho⟩ := hrun
  refine ⟨hsaves, answer, hcalls, ho.trans ?_⟩
  cases operated .setDroplet answer with
  | ok a => rfl
  | error f => rfl

end Pipeline

end Steward
