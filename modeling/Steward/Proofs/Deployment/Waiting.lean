import Steward.Proofs.Deployment.Gates
import Steward.Proofs.Deployment.Methods
import Steward.Proofs.Program.Endings

/-!
# Waiting by a deadline

Two waits of a run share one deadline. Between two polls of a wait there is a pause, and before each pause the clock is
read; nothing else in a run pauses. So the pauses bound the polls, and a run that ends out of time has read the clock
last, after a poll that was answered as pending. All this is told of what a run exchanges, whatever the clock says.

## Contents

* `pauses`, `polls` — the pauses and the polls of a run; `untilReady`, `polls_append_le`, `Awaited.polls_le`;
* `Paced` — pauses that keep to a deadline;
* `Overdue`, `Overtime` — the ways in which a run ends out of time;
* `Unpaused` — programs without pauses, along the stages;
* `Timely` — polls by pauses, and ends out of time; `Waits`, `waits_awaitReady` — of waits, and so along the stages;
* `Plan.timely_resume` — a run of a deployment;
* `Plan.overdue_at` — where a run is when it ends out of time.
-/

namespace Steward

variable {τ : Type}

/-! ## Pauses -/

/-- The pauses of a run. -/
def pauses (t : List (Exchange (Staging τ))) : List τ :=
  t.filterMap fun e =>
    match e with
    | ⟨.pause d, _⟩ => some d
    | _ => none

@[simp] theorem pauses_nil : pauses ([] : List (Exchange (Staging τ))) = [] :=
  rfl

@[simp] theorem pauses_append (t₁ t₂ : List (Exchange (Staging τ))) : pauses (t₁ ++ t₂) = pauses t₁ ++ pauses t₂ :=
  List.filterMap_append

/-- **Pauses by a deadline**: right before each pause the clock is read, and the pause need not end after the deadline. -/
inductive Paced [Add τ] [LT τ] (interval deadline : τ) : List (Exchange (Staging τ)) → Prop where
  | nil : Paced interval deadline []
  | other {e : Exchange (Staging τ)} {t : List (Exchange (Staging τ))} (h : pauses [e] = [])
      (rest : Paced interval deadline t) : Paced interval deadline (e :: t)
  | pause {reading : τ} {t : List (Exchange (Staging τ))} (h : ¬ deadline < reading + interval)
      (rest : Paced interval deadline t) :
      Paced interval deadline (⟨.clock, reading⟩ :: ⟨.pause interval, ()⟩ :: t)

section

variable [Add τ] [LT τ] {interval deadline : τ} {t t₁ t₂ : List (Exchange (Staging τ))}

theorem Paced.append (h₁ : Paced interval deadline t₁) (h₂ : Paced interval deadline t₂) :
    Paced interval deadline (t₁ ++ t₂) := by
  induction h₁ with
  | nil => exact h₂
  | other h _ ih => exact Paced.other h ih
  | pause h _ ih => exact Paced.pause h ih

theorem Paced.of_pauses_eq (h : pauses t = []) : Paced interval deadline t := by
  induction t with
  | nil => exact Paced.nil
  | cons e t ih =>
    have hsplit : pauses [e] ++ pauses t = [] := by rw [← pauses_append]; exact h
    obtain ⟨hfirst, hrest⟩ := List.append_eq_nil_iff.1 hsplit
    exact Paced.other hfirst (ih hrest)

end

/-! ## Polls -/

/-- What polls say until one says that it is ready. -/
def untilReady : List (Except Fault Readiness) → List (Except Fault Readiness)
  | [] => []
  | word :: rest => if isUnready word then word :: untilReady rest else [word]

/-- The polls of an attempt. A build that has staged is not polled any more: then its droplet is asked for, with the same
call. -/
def polls (cs : List Answered) : Nat :=
  (cs.filterMap Answered.packagePoll).length + (untilReady (cs.filterMap Answered.buildPoll)).length

theorem length_untilReady_append_le (xs ys : List (Except Fault Readiness)) :
    (untilReady (xs ++ ys)).length ≤ (untilReady xs).length + (untilReady ys).length := by
  induction xs with
  | nil => simp [untilReady]
  | cons word xs ih =>
    rw [List.cons_append, untilReady, untilReady]
    by_cases h : isUnready word = true
    · rw [if_pos h, if_pos h, List.length_cons, List.length_cons]
      omega
    · rw [if_neg h, if_neg h]
      omega

theorem length_untilReady_le (xs : List (Except Fault Readiness)) : (untilReady xs).length ≤ xs.length := by
  induction xs with
  | nil => exact Nat.le_refl 0
  | cons word xs ih =>
    rw [untilReady]
    by_cases h : isUnready word = true
    · rw [if_pos h, List.length_cons, List.length_cons]
      omega
    · rw [if_neg h]
      exact Nat.succ_le_succ (Nat.zero_le _)

theorem polls_append_le (cs cs' : List Answered) : polls (cs ++ cs') ≤ polls cs + polls cs' := by
  unfold polls
  rw [List.filterMap_append, List.filterMap_append, List.length_append]
  have hbuilds := length_untilReady_append_le (cs.filterMap Answered.buildPoll) (cs'.filterMap Answered.buildPoll)
  omega

/-- The polls of each kind of wait, and what they say. -/
def Wait.told : Wait → Answered → Option (Except Fault Readiness)
  | package => Answered.packagePoll
  | build => Answered.buildPoll

/-- The stage that waits. -/
def Wait.stage : Wait → Stage
  | package => .packageReady
  | build => .buildReady

/-- The call that polls. -/
def Wait.call : Wait → Progress → Call
  | package, p => .package p.package
  | build, p => .build p.build

theorem polls_eq_zero {cs : List Answered} (h : ∀ c ∈ cs, ∀ wait : Wait, wait.told c = none) : polls cs = 0 := by
  have hpackages : cs.filterMap Answered.packagePoll = [] := List.filterMap_eq_nil_iff.2 fun c hc => h c hc .package
  have hbuilds : cs.filterMap Answered.buildPoll = [] := List.filterMap_eq_nil_iff.2 fun c hc => h c hc .build
  rw [polls, hpackages, hbuilds]
  rfl

/-- No call is a poll of both kinds. -/
theorem polls_singleton_le (c : Answered) : polls [c] ≤ 1 := by
  obtain ⟨call, answer⟩ := c
  have hone : ∀ word, (untilReady [word]).length ≤ 1 := fun word => length_untilReady_le [word]
  cases call with
  | package id => exact Nat.le_refl 1
  | build id =>
    show 0 + (untilReady [_]).length ≤ 1
    rw [Nat.zero_add]
    exact hone _
  | _ => exact Nat.zero_le 1

theorem polls_le_length (cs : List Answered) : polls cs ≤ cs.length := by
  induction cs with
  | nil => exact Nat.le_refl 0
  | cons c cs ih =>
    have hcons := polls_append_le [c] cs
    have hone := polls_singleton_le c
    rw [List.singleton_append] at hcons
    rw [List.length_cons]
    omega

/-- After a wait that ends well the droplet may be asked for: that is no poll. -/
theorem Awaited.polls_le {id : Option String} {wait : Wait} {cs : List Answered} {o : Except Fault Unit}
    (h : Awaited (.build id) Pipeline.buildVerdict wait cs o) (ho : o = .ok ()) (answer : Except Fault (Option Build)) :
    polls (cs ++ [⟨.build id, answer⟩]) ≤ cs.length := by
  have hbuilds : (untilReady (List.filterMap Answered.buildPoll (cs ++ [⟨.build id, answer⟩]))).length ≤ cs.length := by
    induction h with
    | @ready polled hverdict =>
      show (untilReady [Pipeline.buildVerdict polled, Pipeline.buildVerdict answer]).length ≤ 1
      rw [hverdict]
      exact Nat.le_refl 1
    | failed hverdict => cases ho
    | late hverdict => cases ho
    | unfinished => cases ho
    | @pending polled cs o hverdict _ ih =>
      show (untilReady (Pipeline.buildVerdict polled ::
        List.filterMap Answered.buildPoll (cs ++ [⟨.build id, answer⟩]))).length ≤ cs.length + 1
      rw [hverdict]
      exact Nat.succ_le_succ (ih ho)
  have hpackages : List.filterMap Answered.packagePoll (cs ++ [⟨.build id, answer⟩]) = [] := by
    rw [List.filterMap_append, h.filterMap_eq_nil fun _ => rfl]
    rfl
  rw [polls, hpackages, List.length_nil, Nat.zero_add]
  exact hbuilds

/-! ## Programs without pauses -/

/-- Whether a request is a pause. -/
def Staging.Request.isPause : Staging.Request τ → Bool
  | .pause _ => true
  | _ => false

/-- Anything but pauses may be requested, and anything replied. -/
def Staging.pauseless : Contract (Staging τ) where
  asks r := r.isPause = false
  replies _ _ := True

/-- A program without pauses. -/
abbrev Unpaused {α : Type} (p : Attempt (Staging τ) α) : Prop :=
  Attempt.Meets Staging.pauseless (fun _ => True) p

namespace Unpaused

variable {α β : Type} {t : List (Exchange (Staging τ))}

theorem pauses_eq {p : Attempt (Staging τ) α} {o : Except Fault α} (h : Unpaused p) (hruns : Stages p t o) :
    pauses t = [] := by
  obtain ⟨-, hasks⟩ := h.outcome.of_trace hruns fun _ _ => trivial
  refine List.filterMap_eq_nil_iff.2 fun e he => ?_
  have hask := hasks e he
  obtain ⟨request, reply⟩ := e
  cases request with
  | pause d => exact absurd hask Bool.noConfusion
  | _ => rfl

theorem bind {p : Attempt (Staging τ) α} {f : α → Attempt (Staging τ) β} (hp : Unpaused p) (hf : ∀ a, Unpaused (f a)) :
    Unpaused (p >>= f) :=
  Attempt.Meets.bind hp fun a _ => hf a

theorem pure (a : α) : Unpaused (pure a : Attempt (Staging τ) α) :=
  Attempt.meets_pure trivial

theorem throw (f : Fault) : Unpaused (throw f : Attempt (Staging τ) α) :=
  Attempt.meets_throw f

theorem ask {r : Staging.Request τ} (hr : r.isPause = false) : Unpaused (Staging.ask r) :=
  Attempt.meets_ofProgram (Program.Meets.ask hr fun _ _ => Program.Meets.done trivial)

theorem report (level : Level) (text : String) (fields : List (String × Value)) :
    Unpaused (Staging.report level text fields : Attempt (Staging τ) Unit) :=
  ask rfl

theorem save (p : Progress) : Unpaused (Plan.save p : Attempt (Staging τ) Progress) :=
  bind (ask rfl) fun _ => pure p

theorem settle {p : Attempt (Staging τ) α} (h : Unpaused p) : Unpaused p.settle :=
  Attempt.Meets.mono (Attempt.Meets.settle h) fun _ _ => trivial

theorem operate (operation : Operation) (c : Call) :
    Unpaused (Pipeline.operate operation c : Attempt (Staging τ) c.Answer) := by
  have hcall : Unpaused (Staging.call c : Attempt (Staging τ) c.Answer) :=
    ⟨Program.Meets.ask rfl fun _ _ => Program.Meets.done fun _ _ => trivial⟩
  refine hcall.settle.bind fun answer => ?_
  cases answer with
  | ok a => exact bind (ask rfl) fun _ => pure a
  | error f =>
    dsimp only
    by_cases hremote : f.isRemote = true
    · rw [if_pos hremote]
      exact bind (ask rfl) fun _ => bind (report _ _ _) fun _ => throw _
    · rw [if_neg hremote]
      exact throw f

theorem carriesOver : Pipeline.CarriesOver (τ := τ) Unpaused where
  pure := pure
  throw := throw
  bind := bind
  report := report
  operate := operate

/-- No method pauses. -/
theorem program (m : Method) : Unpaused (m.program : Attempt (Staging τ) m.Result) :=
  carriesOver.program m

end Unpaused

/-! ## Faults of time -/

namespace Pipeline

/-- An operation passes a fault of time on. -/
theorem operated_eq_error {α : Type} {operation : Operation} {answer : Except Fault α} {f : Fault}
    (h : operated operation answer = .error f) (hf : f.category = .timeout) : answer = .error f := by
  cases answer with
  | ok a => cases h
  | error e =>
    obtain rfl : (if e.isRemote then .operationFailed operation e else e) = f := Except.error.inj h
    by_cases hremote : e.isRemote = true
    · rw [if_pos hremote] at hf
      cases hf
    · rw [if_neg hremote]

/-- So does an operation whose answer is judged, if the judgement knows of no such fault. -/
theorem operated_bind_eq_error {α β : Type} {operation : Operation} {answer : Except Fault α}
    {judge : α → Except Fault β} {f : Fault} (h : operated operation answer >>= judge = .error f)
    (hf : f.category = .timeout) (hjudge : ∀ a e, judge a = .error e → e.category ≠ .timeout) : answer = .error f := by
  cases hanswer : operated operation answer with
  | ok a =>
    rw [hanswer] at h
    exact absurd hf (hjudge a f h)
  | error e =>
    rw [hanswer] at h
    obtain rfl : e = f := Except.error.inj h
    exact operated_eq_error hanswer hf

/-- An operation that is not answered has failed, but is not out of time. -/
theorem expected_eq_error {α β : Type} {operation : Operation} {answer : Except Fault (Option α)} {name : α → β}
    {f : Fault} (h : operated operation answer >>= Method.expected operation name = .error f) (hf : f.category = .timeout) :
    answer = .error f := by
  refine operated_bind_eq_error h hf fun made e he => ?_
  cases made with
  | none =>
    cases he
    exact Category.noConfusion
  | some a => cases he

theorem packageVerdict_eq_error {id : Option String} {answer : Except Fault (Option Package)} {f : Fault}
    (h : packageVerdict id answer = .error f) (hf : f.category = .timeout) : answer = .error f := by
  refine operated_bind_eq_error h hf fun p e he => ?_
  unfold packageReadiness at he
  dsimp only at he
  split at he
  · cases he
    exact Category.noConfusion
  · cases he

theorem buildVerdict_eq_error {answer : Except Fault (Option Build)} {f : Fault} (h : buildVerdict answer = .error f)
    (hf : f.category = .timeout) : answer = .error f := by
  refine operated_bind_eq_error h hf fun b e he => ?_
  unfold buildReadiness at he
  dsimp only at he
  split at he
  · cases he
    exact Category.noConfusion
  · cases he

theorem dropletNamed_eq_error {answer : Except Fault (Option Build)} {f : Fault} (h : dropletNamed answer = .error f)
    (hf : f.category = .timeout) : answer = .error f :=
  operated_bind_eq_error h hf fun _ _ he => nomatch he

/-- What is asked of a build that has staged, and nothing after it that could be out of time. -/
theorem runs_dropletOfBuild_bind {id : Option String} {g : Option String → Attempt (Staging τ) Progress}
    {t : List (Exchange (Staging τ))} {o : Except Fault Progress}
    (hg : ∀ {named t o}, Stages (g named) t o → calls t = [] ∧ ∀ f, o = .error f → f.category ≠ .timeout)
    (h : Stages (dropletOfBuild id >>= g) t o) :
    ∃ answer, calls t = [⟨.build id, answer⟩] ∧ ∀ f, o = .error f → f.category = .timeout → answer = .error f := by
  rcases Staging.runs_bind.1 h with ⟨f, rfl, hf⟩ | ⟨t₁, named, t₂, rfl, h₁, h₂⟩
  · obtain ⟨-, answer, hcalls, hanswer⟩ := runs_dropletOfBuild hf
    refine ⟨answer, hcalls, ?_⟩
    rintro f ⟨⟩ htime
    exact dropletNamed_eq_error hanswer.symm htime
  · obtain ⟨-, answer, hcalls, -⟩ := runs_dropletOfBuild h₁
    obtain ⟨hnone, hfault⟩ := hg h₂
    refine ⟨answer, ?_, fun f ho htime => absurd htime (hfault f ho)⟩
    rw [calls_append, hcalls, hnone, List.append_nil]

end Pipeline

namespace Plan

variable {plan : Plan τ} {p : Progress} {cs : List Answered} {f : Fault}

/-- A stage that does not wait passes a fault of time on. -/
theorem Stuck.answered (h : Stuck plan p cs f) (hf : f.category = .timeout) (hpackage : p.stage ≠ .packageReady)
    (hbuild : p.stage ≠ .buildReady) : ∃ c, cs = [⟨c, .error f⟩] := by
  cases h with
  | createPackage stage refused =>
    rw [Method.packageMade_eq] at refused
    exact ⟨_, by rw [Pipeline.expected_eq_error refused hf]⟩
  | artifact stage missing => cases hf
  | uploadBits stage opened refused =>
    rw [Method.bitsTaken_eq] at refused
    exact ⟨_, by rw [Pipeline.expected_eq_error refused hf]⟩
  | packageReady stage => exact absurd stage hpackage
  | createBuild stage refused =>
    rw [Method.buildMade_eq] at refused
    exact ⟨_, by rw [Pipeline.expected_eq_error refused hf]⟩
  | buildReady stage | droplet stage | noDroplet stage => exact absurd stage hbuild
  | setDroplet stage refused => exact ⟨_, by rw [Pipeline.operated_eq_error refused hf]⟩
  | start stage planned refused => exact ⟨_, by rw [Pipeline.operated_eq_error refused hf]⟩

/-- A stage that does not wait polls nothing. -/
theorem Asks.told_eq_none {c : Answered} (h : Asks plan p c.call) (hpackage : p.stage ≠ .packageReady)
    (hbuild : p.stage ≠ .buildReady) (wait : Wait) : wait.told c = none := by
  obtain ⟨call, answer⟩ := c
  cases h with
  | packageReady stage => exact absurd stage hpackage
  | buildReady stage => exact absurd stage hbuild
  | _ => cases wait <;> rfl

/-- A poll is asked for by the stage that waits. -/
theorem Asks.stage_eq {c : Answered} (h : Asks plan p c.call) {wait : Wait} {word : Except Fault Readiness}
    (htold : wait.told c = some word) : p.stage = wait.stage := by
  obtain ⟨call, answer⟩ := c
  cases h with
  | packageReady stage =>
    cases wait with
    | package => exact stage
    | build => cases htold
  | buildReady stage =>
    cases wait with
    | package => cases htold
    | build => exact stage
  | _ => cases wait <;> cases htold

/-- A stage that waits asks for nothing but its poll. -/
theorem Asks.call_eq {c : Call} (h : Asks plan p c) {wait : Wait} (hstage : p.stage = wait.stage) : c = wait.call p := by
  cases wait with
  | package =>
    cases h with
    | packageReady stage => rfl
    | createPackage stage | uploadBits stage | createBuild stage | buildReady stage | setDroplet stage | start stage =>
      rw [hstage] at stage
      cases stage
  | build =>
    cases h with
    | buildReady stage => rfl
    | createPackage stage | uploadBits stage | packageReady stage | createBuild stage | setDroplet stage | start stage =>
      rw [hstage] at stage
      cases stage

/-- A stage that is overdue has polled. -/
theorem Stuck.ne_nil {wait : Wait} (h : Stuck plan p cs (.timedOut wait)) : cs ≠ [] := by
  have hawaited : ∀ {c : Call} {verdict : Except Fault c.Answer → Except Fault Readiness} {wait wait' : Wait}
      {cs : List Answered}, Awaited c verdict wait' cs (.error (.timedOut wait)) → cs ≠ [] := by
    intro c verdict wait wait' cs h
    cases h <;> exact List.cons_ne_nil _ _
  cases h with
  | packageReady stage awaited => exact hawaited awaited
  | buildReady stage awaited => exact hawaited awaited
  | droplet => exact List.append_ne_nil_of_right_ne_nil _ (List.cons_ne_nil _ _)
  | _ => exact List.cons_ne_nil _ _

theorem Rewind.isTerminal {q : Progress} (h : Rewind plan p cs f q) : f.isTerminal = true := by
  cases h with
  | package _ _ terminal => exact terminal
  | build _ _ terminal => exact terminal

end Plan

/-! ## Out of time -/

section

variable {interval deadline : τ} {patience : Nat} {t t₁ t₂ : List (Exchange (Staging τ))} {f : Fault}

/-- A run that ends with a reading of the clock from which the next pause would end after the deadline, right after a
poll of this kind that was answered as pending. -/
def Overdue [Add τ] [LT τ] (interval deadline : τ) (wait : Wait) (t : List (Exchange (Staging τ))) : Prop :=
  ∃ before poll c reading, t = before ++ poll ++ [⟨.clock, reading⟩] ∧ deadline < reading + interval ∧
    pauses poll = [] ∧ calls poll = [c] ∧ wait.told c = some (.ok .pending)

/-- The ways in which a run may end with a fault of time. -/
inductive Overtime [Add τ] [LT τ] (interval deadline : τ) (patience : Nat) (t : List (Exchange (Staging τ))) (f : Fault) :
    Prop where
  /-- The last call was answered with the fault. -/
  | answered (before : List Answered) (c : Call) (h : calls t = before ++ [⟨c, .error f⟩])
  /-- The deadline would have passed before the next poll. -/
  | overdue (wait : Wait) (hf : f = .timedOut wait) (h : Overdue interval deadline wait t)
  /-- There were as many pauses as there was patience for. -/
  | exhausted (h : patience ≤ (pauses t).length)

/-- What comes before may have used up patience. -/
theorem Overtime.prepend [Add τ] [LT τ] {more : Nat} (h : Overtime interval deadline patience t₂ f)
    (t₁ : List (Exchange (Staging τ))) (hmore : more ≤ patience + (pauses t₁).length) :
    Overtime interval deadline more (t₁ ++ t₂) f := by
  cases h with
  | answered before c h => exact answered (calls t₁ ++ before) c (by rw [calls_append, h, List.append_assoc])
  | overdue wait hf h =>
    obtain ⟨before, poll, c, reading, rfl, hlate, hpauses, hcalls, hpending⟩ := h
    exact overdue wait hf ⟨t₁ ++ before, poll, c, reading, by simp, hlate, hpauses, hcalls, hpending⟩
  | exhausted h =>
    refine exhausted ?_
    rw [pauses_append, List.length_append]
    omega

end

/-! ## Timely programs -/

section

variable [Add τ] [LT τ] {α β : Type} {interval deadline : τ} {patience waits : Nat}

/-- What a run exchanges is timely: its pauses keep to the deadline, it polls once for each pause and each wait at most,
and it ends with a fault of time in these ways only. -/
structure Timely (interval deadline : τ) (patience waits : Nat) (t : List (Exchange (Staging τ))) (o : Except Fault α) :
    Prop where
  paced : Paced interval deadline t
  polls : polls (calls t) ≤ (pauses t).length + waits
  ends : ∀ f, o = .error f → f.category = .timeout → Overtime interval deadline patience t f

/-- All runs of a program are timely. -/
def Times (interval deadline : τ) (patience waits : Nat) (p : Attempt (Staging τ) α) : Prop :=
  ∀ t o, Stages p t o → Timely interval deadline patience waits t o

theorem Times.bind {waits' : Nat} {p : Attempt (Staging τ) α} {f : α → Attempt (Staging τ) β}
    (hp : Times interval deadline patience waits p) (hf : ∀ a, Times interval deadline patience waits' (f a)) :
    Times interval deadline patience (waits + waits') (p >>= f) := by
  intro t o h
  rcases Staging.runs_bind.1 h with ⟨e, rfl, he⟩ | ⟨t₁, a, t₂, rfl, h₁, h₂⟩
  · obtain ⟨hpaced, hpolls, hends⟩ := hp t _ he
    refine ⟨hpaced, by omega, ?_⟩
    rintro f ⟨⟩
    exact hends e rfl
  · obtain ⟨hpaced₁, hpolls₁, -⟩ := hp t₁ _ h₁
    obtain ⟨hpaced₂, hpolls₂, hends₂⟩ := hf a t₂ o h₂
    refine ⟨hpaced₁.append hpaced₂, ?_, fun f ho hf => (hends₂ f ho hf).prepend t₁ (Nat.le_add_right _ _)⟩
    have happend := polls_append_le (calls t₁) (calls t₂)
    rw [calls_append, pauses_append, List.length_append]
    omega

theorem Times.mono {waits' : Nat} {p : Attempt (Staging τ) α} (h : Times interval deadline patience waits p)
    (hle : waits ≤ waits') : Times interval deadline patience waits' p := by
  intro t o hruns
  obtain ⟨hpaced, hpolls, hends⟩ := h t o hruns
  exact ⟨hpaced, Nat.le_trans hpolls (Nat.add_le_add_left hle _), hends⟩

theorem times_pure (a : α) : Times interval deadline patience 0 (pure a : Attempt (Staging τ) α) := by
  intro t o h
  obtain ⟨rfl, rfl, -⟩ := Attempt.runs_pure.1 h
  exact ⟨Paced.nil, Nat.le_refl 0, fun f hf => absurd hf (by simp)⟩

end

/-! ## Stages that do not wait -/

namespace Plan

variable [Add τ] [LT τ] {plan : Plan τ} {interval deadline : τ} {patience : Nat}

/-- A stage that does not wait: one without pauses, and passed by progress that is elsewhere. -/
theorem times_of_stage (plan : Plan τ) {stage : Stage} {f : Progress → Attempt (Staging τ) Progress}
    (hpackage : stage ≠ .packageReady) (hbuild : stage ≠ .buildReady) (hunpaused : ∀ p, Unpaused (f p))
    (htook : ∀ p t o, p.stage = stage → Stages (if p.stage = stage then f p else pure p) t o →
      Took plan p (calls t) (saves t) o) (p : Progress) :
    Times interval deadline patience 0 (if p.stage = stage then f p else pure p) := by
  by_cases hat : p.stage = stage
  · intro t o h
    have htook := htook p t o hat h
    rw [if_pos hat] at h
    have hpauses := (hunpaused p).pauses_eq h
    have hasks := htook.asks
    rw [← hat] at hpackage hbuild
    refine ⟨Paced.of_pauses_eq hpauses, ?_, ?_⟩
    · rw [polls_eq_zero fun c hc => (hasks c hc).told_eq_none hpackage hbuild]
      exact Nat.zero_le _
    · rintro f rfl hf
      generalize hcs : calls t = cs at htook
      generalize saves t = ss at htook
      cases htook with
      | stuck hstuck =>
        obtain ⟨c, rfl⟩ := hstuck.answered hf hpackage hbuild
        exact Overtime.answered [] c hcs
      | rewind hrewind =>
        cases hrewind with
        | package atStage => exact absurd atStage hpackage
        | build atStage => exact absurd atStage hbuild
  · rw [if_neg hat]
    exact times_pure p

theorem times_createPackage (p : Progress) : Times interval deadline patience 0 (plan.createPackage p) := by
  refine times_of_stage plan (by decide) (by decide) (fun p => ?_) (fun _ _ _ => runs_createPackage) p
  exact Unpaused.bind (Unpaused.program (.createPackage _)) fun _ => Unpaused.save _

theorem times_uploadBits (p : Progress) : Times interval deadline patience 0 (plan.uploadBits p) := by
  refine times_of_stage plan (by decide) (by decide) (fun p => ?_) (fun _ _ _ => runs_uploadBits) p
  exact Unpaused.bind (Unpaused.program (.uploadBits _ _)) fun _ => Unpaused.save _

theorem times_createBuild (p : Progress) : Times interval deadline patience 0 (plan.createBuild p) := by
  refine times_of_stage plan (by decide) (by decide) (fun p => ?_) (fun _ _ _ => runs_createBuild) p
  exact Unpaused.bind (Unpaused.program (.createBuild _)) fun _ => Unpaused.save _

theorem times_setDroplet (p : Progress) : Times interval deadline patience 0 (plan.setDroplet p) := by
  refine times_of_stage plan (by decide) (by decide) (fun p => ?_) (fun _ _ _ => runs_setDroplet) p
  exact Unpaused.bind (Unpaused.program (.setDroplet _ _)) fun _ => Unpaused.save _

theorem times_startApp (p : Progress) : Times interval deadline patience 0 (plan.startApp p) := by
  refine times_of_stage plan (by decide) (by decide) (fun p => ?_) (fun _ _ _ => runs_startApp) p
  by_cases planned : plan.start = true
  · rw [if_pos planned]
    exact Unpaused.bind (Unpaused.operate _ _) fun _ => Unpaused.save _
  · rw [if_neg planned]
    exact Unpaused.save _

theorem times_report {level : Level} {text : String} {fields : List (String × Value)} :
    Times interval deadline patience 0 (plan.report level text fields) := by
  intro t o h
  have hpauses : pauses t = [] := Unpaused.pauses_eq (Unpaused.report _ _ _) h
  obtain ⟨⟨reply, rfl⟩, hcalls, -⟩ := Staging.runs_quiet rfl h
  refine ⟨Paced.of_pauses_eq hpauses, ?_, fun f hf => absurd hf (by simp)⟩
  rw [hcalls]
  exact Nat.zero_le _

end Plan

/-! ## Waits -/

section

variable [Add τ] [LT τ] {interval deadline : τ} {patience : Nat} {t₁ t₂ : List (Exchange (Staging τ))}

/-- What a wait exchanges keeps to the deadline, with one poll more than pauses at most, and ends with a fault of time in
these ways only. -/
structure Waits (interval deadline : τ) (patience : Nat) (t : List (Exchange (Staging τ))) (o : Except Fault Unit) :
    Prop where
  paced : Paced interval deadline t
  length : (calls t).length ≤ (pauses t).length + 1
  ends : ∀ f, o = .error f → f.category = .timeout → Overtime interval deadline patience t f

/-- The last poll of a wait. -/
theorem Waits.last {c : Answered} {o : Except Fault Unit} (hpauses : pauses t₁ = []) (hcalls : calls t₁ = [c])
    (hends : ∀ f, o = .error f → f.category = .timeout → Overtime interval deadline patience t₁ f) :
    Waits interval deadline patience t₁ o := by
  refine ⟨Paced.of_pauses_eq hpauses, ?_, hends⟩
  rw [hcalls]
  exact Nat.le_add_left _ _

/-- A poll and a pause in time, after which the wait goes on with less patience. -/
theorem Waits.pause {c : Answered} {now : τ} {o : Except Fault Unit} (hpauses : pauses t₁ = [])
    (hcalls : calls t₁ = [c]) (hlate : ¬ deadline < now + interval) (h : Waits interval deadline patience t₂ o) :
    Waits interval deadline (patience + 1) (t₁ ++ ⟨.clock, now⟩ :: ⟨.pause interval, ()⟩ :: t₂) o := by
  have hlength := h.length
  refine ⟨(Paced.of_pauses_eq hpauses).append (Paced.pause hlate h.paced), ?_, fun f ho hf => ?_⟩
  · rw [calls_append, hcalls, pauses_append, hpauses, List.singleton_append, List.nil_append]
    show (calls t₂).length + 1 ≤ (pauses t₂).length + 1 + 1
    exact Nat.succ_le_succ hlength
  · have hmore : patience + 1 ≤ patience + (pauses (t₁ ++ [⟨.clock, now⟩, ⟨.pause interval, ()⟩])).length := by
      rw [pauses_append, hpauses]
      exact Nat.le_refl _
    have hprepend := (h.ends f ho hf).prepend _ hmore
    rwa [List.append_assoc] at hprepend

/-- A stage that goes on after its wait without a pause. -/
theorem Waits.timely {r : Except Fault Unit} {o : Except Fault Progress} (h : Waits interval deadline patience t₁ r)
    (hpauses : pauses t₂ = []) (hpolls : polls (calls t₁ ++ calls t₂) ≤ (calls t₁).length)
    (hends : ∀ f, o = .error f → f.category = .timeout → Overtime interval deadline patience (t₁ ++ t₂) f) :
    Timely interval deadline patience 1 (t₁ ++ t₂) o := by
  have hlength := h.length
  refine ⟨h.paced.append (Paced.of_pauses_eq hpauses), ?_, hends⟩
  rw [calls_append, pauses_append, hpauses, List.append_nil]
  omega

/-- A wait that failed is the end of its stage, and what is lost is put on record. -/
theorem Waits.timely_setback {plan : Plan τ} {f : Fault} {o : Except Fault Progress} {q : Progress} {level : Level}
    {text : String} {fields : List (String × Value)} (h : Waits interval deadline patience t₁ (.error f))
    (h₂ : Stages (if f.isTerminal then plan.report level text fields >>= fun _ => Plan.save q >>= fun _ => throw f
      else throw f : Attempt (Staging τ) Progress) t₂ o) : Timely interval deadline patience 1 (t₁ ++ t₂) o := by
  obtain ⟨hcalls, rfl, -⟩ := Plan.runs_setback h₂
  have hpolls : polls (calls t₁ ++ calls t₂) ≤ (calls t₁).length := by
    rw [hcalls, List.append_nil]
    exact polls_le_length _
  by_cases hterminal : f.isTerminal = true
  · rw [if_pos hterminal] at h₂
    have hpauses : pauses t₂ = [] := by
      refine Unpaused.pauses_eq ?_ h₂
      exact Unpaused.bind (Unpaused.report _ _ _) fun _ => Unpaused.bind (Unpaused.save q) fun _ => Unpaused.throw f
    refine h.timely hpauses hpolls ?_
    rintro _ ⟨⟩ hf
    have hcategory : f.category = .terminal := of_decide_eq_true hterminal
    rw [hf] at hcategory
    cases hcategory
  · rw [if_neg hterminal] at h₂
    obtain ⟨rfl, -, -⟩ := Attempt.runs_throw.1 h₂
    refine h.timely rfl hpolls ?_
    rw [List.append_nil]
    rintro _ ⟨⟩
    exact h.ends f rfl

end

namespace Plan

variable [Add τ] [LT τ] [DecidableLT τ] {plan : Plan τ} {deadline : τ}

/-- **A wait keeps to its deadline**, whatever polls are answered. -/
theorem waits_awaitReady {wait : Wait} {poll : Attempt (Staging τ) Readiness} {c : Call}
    {verdict : Except Fault c.Answer → Except Fault Readiness} (hunpaused : Unpaused poll)
    (hpoll : ∀ {t o}, Stages poll t o → saves t = [] ∧ ∃ answer, calls t = [⟨c, answer⟩] ∧ o = verdict answer)
    (htold : ∀ answer, wait.told ⟨c, answer⟩ = some (verdict answer))
    (hverdict : ∀ {answer f}, verdict answer = .error f → f.category = .timeout → answer = .error f) {patience : Nat}
    {t : List (Exchange (Staging τ))} {o : Except Fault Unit}
    (h : Stages (plan.awaitReady wait poll deadline patience) t o) : Waits plan.interval deadline patience t o := by
  -- the induction is on the polls that are left
  induction patience generalizing t with
  | zero =>
    obtain ⟨rfl, rfl, -⟩ := Attempt.runs_throw.1 h
    exact ⟨Paced.nil, Nat.zero_le _, fun f _ _ => Overtime.exhausted (Nat.zero_le _)⟩
  | succ patience ih =>
    rcases Staging.runs_bind.1 h with ⟨f, rfl, hf⟩ | ⟨t₁, readiness, t₂, rfl, h₁, h₂⟩
    · obtain ⟨-, answer, hcalls, hanswer⟩ := hpoll hf
      refine Waits.last (hunpaused.pauses_eq hf) hcalls ?_
      rintro f ⟨⟩ htime
      rw [hverdict hanswer.symm htime] at hcalls
      exact Overtime.answered [] c hcalls
    · have hpauses := hunpaused.pauses_eq h₁
      obtain ⟨-, answer, hcalls, hanswer⟩ := hpoll h₁
      cases readiness with
      | ready =>
        obtain ⟨rfl, rfl, -⟩ := Attempt.runs_pure.1 h₂
        rw [List.append_nil]
        exact Waits.last hpauses hcalls fun f hf => absurd hf (by simp)
      | pending =>
        obtain ⟨now, ⟨⟩, rest, rfl, -, hrest⟩ := Attempt.runs_request_bind.1 h₂
        by_cases hlate : deadline < now + plan.interval
        · rw [if_pos hlate] at hrest
          obtain ⟨rfl, rfl, -⟩ := Attempt.runs_throw.1 hrest
          -- the reading of the clock is the last thing exchanged, and no call
          have hlast : calls (t₁ ++ [⟨.clock, now⟩]) = [⟨c, answer⟩] := by
            rw [calls_append, hcalls]
            rfl
          refine Waits.last (by rw [pauses_append, hpauses]; rfl) hlast ?_
          rintro f ⟨⟩ -
          exact Overtime.overdue wait rfl ⟨[], t₁, _, now, rfl, hlate, hpauses, hcalls, by rw [htold, hanswer]⟩
        · rw [if_neg hlate] at hrest
          obtain ⟨⟨⟩, ⟨⟩, rest', rfl, -, hrest'⟩ := Attempt.runs_request_bind.1 hrest
          exact Waits.pause hpauses hcalls hlate (ih hrest')

theorem times_packageReady (p : Progress) :
    Times plan.interval deadline plan.patience 1 (plan.packageReady deadline p) := by
  intro t o h
  unfold packageReady at h
  by_cases stage : p.stage = .packageReady
  · rw [if_pos stage] at h
    obtain ⟨t₁, r, ⟨⟩, t₂, rfl, h₁, h₂⟩ := Attempt.runs_settle_bind.1 h
    have hwait : Waits plan.interval deadline plan.patience t₁ r :=
      waits_awaitReady (Unpaused.program (.pollPackage _)) Pipeline.runs_pollPackage (fun _ => rfl)
        Pipeline.packageVerdict_eq_error h₁
    cases r with
    | error f => exact hwait.timely_setback h₂
    | ok a =>
      have hpauses : pauses t₂ = [] := by
        refine Unpaused.pauses_eq ?_ h₂
        exact Unpaused.bind (Unpaused.save _) fun _ => Unpaused.bind (Unpaused.report _ _ _) fun p => Unpaused.pure _
      obtain ⟨hcalls, -, rfl⟩ := Staging.runs_save_reported h₂
      refine hwait.timely hpauses ?_ fun f hf => absurd hf (by simp)
      rw [hcalls, List.append_nil]
      exact polls_le_length _
  · rw [if_neg stage] at h
    exact (times_pure p).mono (Nat.zero_le 1) t o h

theorem times_buildReady (p : Progress) :
    Times plan.interval deadline plan.patience 1 (plan.buildReady deadline p) := by
  intro t o h
  unfold buildReady at h
  by_cases stage : p.stage = .buildReady
  · rw [if_pos stage] at h
    obtain ⟨t₁, r, ⟨⟩, t₂, rfl, h₁, h₂⟩ := Attempt.runs_settle_bind.1 h
    have hwait : Waits plan.interval deadline plan.patience t₁ r :=
      waits_awaitReady (Unpaused.program (.pollBuild _)) Pipeline.runs_pollBuild (fun _ => rfl)
        Pipeline.buildVerdict_eq_error h₁
    cases r with
    | error f => exact hwait.timely_setback h₂
    | ok a =>
      have hpauses : pauses t₂ = [] := by
        refine Unpaused.pauses_eq ?_ h₂
        refine Unpaused.bind (Unpaused.program (.dropletOfBuild _)) fun named => ?_
        cases named with
        | none => exact Unpaused.throw _
        | some droplet =>
          exact Unpaused.bind (Unpaused.save _) fun _ => Unpaused.bind (Unpaused.report _ _ _) fun p => Unpaused.pure _
      obtain ⟨answer, hcalls, hanswer⟩ : ∃ answer, calls t₂ = [⟨.build p.build, answer⟩] ∧
          ∀ f, o = .error f → f.category = .timeout → answer = .error f := by
        refine Pipeline.runs_dropletOfBuild_bind ?_ h₂
        intro named t o h
        cases named with
        | none =>
          obtain ⟨hcalls, -, rfl⟩ := Staging.runs_throw h
          refine ⟨hcalls, ?_⟩
          rintro f ⟨⟩
          exact Category.noConfusion
        | some droplet =>
          obtain ⟨hcalls, -, rfl⟩ := Staging.runs_save_reported h
          exact ⟨hcalls, fun f hf => absurd hf (by simp)⟩
      have hawaited := (runs_awaitReady Pipeline.runs_pollBuild h₁).2
      refine hwait.timely hpauses ?_ fun f ho hf => ?_
      · rw [hcalls]
        exact hawaited.polls_le rfl answer
      · rw [hanswer f ho hf] at hcalls
        exact Overtime.answered (calls t₁) _ (by rw [calls_append, hcalls])
  · rw [if_neg stage] at h
    exact (times_pure p).mono (Nat.zero_le 1) t o h

/-! ## Runs -/

/-- **A run of a deployment is timely**: both its waits keep to one deadline, which is told by the first reading of the
clock. -/
theorem timely_resume {p : Progress} {t : List (Exchange (Staging τ))} {o : Except Fault Progress}
    (h : Stages (plan.resume p) t o) :
    ∃ began rest, t = ⟨.clock, began⟩ :: rest ∧
      Timely plan.interval (began + plan.timeout) plan.patience 2 rest o := by
  obtain ⟨began, ⟨⟩, rest, rfl, -, hrest⟩ := Attempt.runs_request_bind.1 h
  refine ⟨began, rest, rfl, ?_⟩
  exact ((times_createPackage p).bind fun p => (times_uploadBits p).bind fun p => (times_packageReady p).bind fun p =>
    (times_createBuild p).bind fun p => (times_buildReady p).bind fun p => (times_setDroplet p).bind fun p =>
    (times_startApp p).bind fun p => times_report.bind fun _ => times_pure p) rest o hrest

/-- **A run that ends overdue** ends in a stage that waits, and has called nothing in it but its poll. The record is as the
last stage that was done left it. -/
theorem overdue_at {p : Progress} {t : List (Exchange (Staging τ))} {wait : Wait} {interval deadline : τ}
    (h : Stages (plan.deploy (some p)) t (.error (.timedOut wait))) (hoverdue : Overdue interval deadline wait t) :
    ∃ q done rest, calls t = done ++ rest ∧ Passed plan p done q ∧ lastSaved p t = q ∧ q.stage = wait.stage ∧
      rest ≠ [] ∧ ∀ c ∈ rest, c.call = wait.call q := by
  obtain ⟨q, done, rest, hcalls, hpassed, hend⟩ := (runs_deploy h).1.of_error
  obtain ⟨hstuck, hlast⟩ : Stuck plan q rest (.timedOut wait) ∧ lastSaved p t = q := by
    rcases hend with hstuck | hrewind
    · exact hstuck
    · exact absurd hrewind.isTerminal Bool.noConfusion
  have hne : rest ≠ [] := hstuck.ne_nil
  -- the last call is the poll, so the stage is the one that polls
  obtain ⟨before, poll, c, reading, rfl, -, -, hpoll, hpending⟩ := hoverdue
  have hmem : c ∈ rest := by
    have hlast : calls before ++ [c] = done ++ rest := by
      rw [← hcalls, calls_append, calls_append, hpoll]
      exact (List.append_nil _).symm
    rw [← List.dropLast_concat_getLast hne, ← List.append_assoc] at hlast
    obtain ⟨-, hc⟩ := List.append_inj' hlast rfl
    rw [List.singleton_inj.1 hc]
    exact List.getLast_mem hne
  have hstage : q.stage = wait.stage := (hstuck.asks c hmem).stage_eq hpending
  exact ⟨q, done, rest, hcalls, hpassed, hlast, hstage, hne, fun c hc => (hstuck.asks c hc).call_eq hstage⟩

end Plan

end Steward
