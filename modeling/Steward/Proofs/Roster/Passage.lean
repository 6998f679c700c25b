import Steward.Proofs.Cache.Lifetimes
import Steward.Proofs.Program.Endings
import Steward.Proofs.Roster.Schedules
import Mathlib.Algebra.Order.Ring.Rat

/-!
# Time goes on

The cache clock of a session never goes back, and apart from that it may go on at any moment: between two requests of a
keeper, and between two steps of its workers. Entries expire meanwhile, and a worker that looks up an expired one drops
it. `Passage` is a span of such time, and `Workshop.Proceeds` are the answers to a keeper in it. If the clock stands at
the end where it stood at the start, nothing has expired, and the answers are those of a workshop at one moment.

## Contents

* `Timepiece` — clocks whose readings can be told apart by how long ago they were;
* `Passage` — spans of time; `Passage.onward` — the clock goes on, and the expiries stay;
* `Workshop.Round`, `Workshop.Proceeds` — batches and answers in such times; `Proceeds.onward`;
* `Passage.shift`, `Workshop.runs_answers_of_instant` — when no time passes;
* `Workshop.Proceeds.alone` — where nobody is left behind, time passes and then the request is answered;
* `Session.proceeds_of_runBackwards`, `Session.proceeds_of_toOption` — the last task first, while the clock
  stands still.
-/

namespace Steward

/-! ## Clocks -/

/-- The later of two moments is less long ago, and no time has passed since the present one. -/
class Timepiece (τ : Type) [Sub τ] [LE τ] [LT τ] [OfNat τ 0] : Prop extends Clock τ where
  sub_le_sub_left : ∀ {a b : τ} (now : τ), a ≤ b → now - b ≤ now - a
  sub_self : ∀ a : τ, a - a = 0

/-- Whole and fractional readings are such readings. -/
instance {τ : Type} [AddCommGroup τ] [LinearOrder τ] [IsOrderedAddMonoid τ] : Timepiece τ where
  sub_le_sub_left now h := sub_le_sub_left h now
  sub_self := sub_self

example : Timepiece ℤ := inferInstance

example : Timepiece ℚ := inferInstance

/-! ## Spans of time -/

variable {τ σ : Type} [Sub τ] [LE τ] [DecidableLE τ]

/-- **A span of time.** Any of the jobs takes its next step, or the clock goes on, as often as anybody likes. -/
inductive Passage (platform : Handler Inquiry σ) : List Job → Session τ σ → List Job → Session τ σ → Prop where
  | idle (jobs : List Job) (s : Session τ σ) : Passage platform jobs s jobs s
  | work {before after jobs : List Job} {r : Errand.Request} {next : Errand.Reply r → Job}
      {s s' : Session τ σ}
      (rest : Passage platform (before ++ next (Session.answerErrand platform r s).1 :: after)
        (Session.answerErrand platform r s).2 jobs s') :
      Passage platform (before ++ Program.ask r next :: after) s jobs s'
  | tick {jobs jobs' : List Job} {s s' : Session τ σ} (t : τ) (h : s.clock ≤ t)
      (rest : Passage platform jobs { s with clock := t } jobs' s') : Passage platform jobs s jobs' s'

variable {platform : Handler Inquiry σ}

/-- The clock has not gone back, and the expiries are the same. -/
structure Session.Onward (s s' : Session τ σ) : Prop where
  clock : s.clock ≤ s'.clock
  writeExpiry : s'.cache.writeExpiry = s.cache.writeExpiry
  readExpiry : s'.cache.readExpiry = s.cache.readExpiry

omit [DecidableLE τ] in
theorem Session.Onward.trans [LT τ] [Clock τ] {s m s' : Session τ σ} (h₁ : s.Onward m) (h₂ : m.Onward s') :
    s.Onward s' :=
  ⟨Clock.le_trans h₁.clock h₂.clock, h₂.writeExpiry.trans h₁.writeExpiry, h₂.readExpiry.trans h₁.readExpiry⟩

namespace Session

/-- A worker's request takes no time. -/
theorem clock_answerErrand (r : Errand.Request) (s : Session τ σ) :
    (answerErrand platform r s).2.clock = s.clock := by
  cases r with
  | inquiry q => rfl
  | lookup key => rfl

/-- A lookup leaves the expiries. -/
theorem expiries_find? (c : Cache τ Workload) (key : String) (now : τ) :
    (c.find? key now).2.writeExpiry = c.writeExpiry ∧ (c.find? key now).2.readExpiry = c.readExpiry := by
  unfold Cache.find?
  cases c.entries.lookup key with
  | none => exact ⟨rfl, rfl⟩
  | some e =>
    dsimp only
    split
    · exact ⟨rfl, rfl⟩
    · exact ⟨rfl, rfl⟩

variable [LT τ] [Clock τ]

theorem onward_answerErrand (r : Errand.Request) (s : Session τ σ) : s.Onward (answerErrand platform r s).2 := by
  cases r with
  | inquiry q => exact ⟨Clock.le_refl _, rfl, rfl⟩
  | lookup key =>
    obtain ⟨hwrite, hread⟩ := expiries_find? s.cache key s.clock
    exact ⟨Clock.le_refl _, hwrite, hread⟩

/-- A single request of a keeper takes no time either. -/
theorem onward_answer (platform : Handler Inquiry σ) {r : Keeping.Request} (hr : ∀ tasks, r ≠ .batch tasks)
    (s : Session τ σ) :
    s.Onward (answer platform r s).2 ∧ (answer platform r s).2.clock = s.clock := by
  cases r with
  | batch tasks => exact absurd rfl (hr tasks)
  | lookup key =>
    obtain ⟨hwrite, hread⟩ := expiries_find? s.cache key s.clock
    exact ⟨⟨Clock.le_refl _, hwrite, hread⟩, rfl⟩
  | _ => exact ⟨⟨Clock.le_refl _, rfl, rfl⟩, rfl⟩

end Session

namespace Passage

variable {jobs jobs' : List Job} {s s' : Session τ σ}

/-- **In a span of time** the clock goes on, and the expiries stay. -/
theorem onward [LT τ] [Clock τ] (h : Passage platform jobs s jobs' s') : s.Onward s' := by
  induction h with
  | idle => exact ⟨Clock.le_refl _, rfl, rfl⟩
  | @work _ _ _ r _ s _ _ ih => exact (Session.onward_answerErrand r s).trans ih
  | @tick _ _ s _ t ht _ ih =>
    have hfirst : s.Onward { s with clock := t } := ⟨ht, rfl, rfl⟩
    exact hfirst.trans ih

/-- Without jobs nothing but the clock changes. -/
theorem of_nil [LT τ] [Clock τ] (h : Passage platform jobs s jobs' s') (hjobs : jobs = []) :
    jobs' = [] ∧ ∃ t, s.clock ≤ t ∧ s' = { s with clock := t } := by
  induction h with
  | idle jobs s => exact ⟨hjobs, s.clock, Clock.le_refl _, rfl⟩
  | work => exact absurd hjobs (by simp)
  | tick t ht _ ih =>
    obtain ⟨hnil, t', ht', rfl⟩ := ih hjobs
    exact ⟨hnil, t', Clock.le_trans ht ht', rfl⟩

/-- Between two moments that are not apart nothing expires. -/
theorem isPast_eq [LT τ] [Clock τ] {a b : τ} (hab : a ≤ b) (hba : b ≤ a) (expiry : Option τ) (since : τ) :
    Cache.isPast expiry since b = Cache.isPast expiry since a := by
  unfold Cache.isPast
  cases expiry with
  | none => rfl
  | some allowed =>
    have hiff : allowed ≤ b - since ↔ allowed ≤ a - since :=
      ⟨fun h => Clock.le_trans h (Clock.sub_le_sub since hba), fun h => Clock.le_trans h (Clock.sub_le_sub since hab)⟩
    simp only [Option.any_some, hiff]

/-- **A span in which no time passes** is a shift. -/
theorem shift [LT τ] [Clock τ] (h : Passage platform jobs s jobs' s') (hend : s'.clock ≤ s.clock) :
    Shift platform jobs s jobs' s' := by
  induction h with
  | idle => exact Shift.idle _ _
  | @work _ _ _ r _ s _ _ ih =>
    refine Shift.work (ih ?_)
    rw [Session.clock_answerErrand]
    exact hend
  | @tick _ _ s _ t ht rest ih =>
    have hback : t ≤ s.clock := Clock.le_trans rest.onward.clock hend
    refine Shift.wait t ?_ (ih (Clock.le_trans hend ht))
    intro e _
    unfold Cache.isExpired
    rw [isPast_eq ht hback, isPast_eq ht hback]

end Passage

/-! ## Answers -/

namespace Workshop

/-- What becomes of a batch meanwhile: the jobs that were taken are worked on until all have ended, or, if a submission
is rejected, they are left to themselves. -/
inductive Round (platform : Handler Inquiry σ) (tasks : List Task) (w : Workshop τ σ) :
    BatchReply → Workshop τ σ → Prop where
  | ended {jobs : List Job} {pool : Pool} {outcomes : List (Except Fault (Option Workload))}
      {w' : Workshop τ σ} (taken : w.session.pool.take tasks = (jobs, none, pool))
      (all : outcomes.length = jobs.length)
      (passage : Passage platform (jobs ++ w.stray) (w.session.withPool pool) (Job.ended outcomes ++ w'.stray)
        w'.session) :
      Round platform tasks w (.ok outcomes) w'
  | rejected {jobs : List Job} {f : Fault} {pool : Pool} {w' : Workshop τ σ}
      (taken : w.session.pool.take tasks = (jobs, some f, pool))
      (passage : Passage platform (jobs ++ w.stray) (w.session.withPool pool) w'.stray w'.session) :
      Round platform tasks w (.error f) w'

/-- **The answers to a keeper while time goes on.** -/
def Proceeds (platform : Handler Inquiry σ) : Answering Keeping (Workshop τ σ)
  | .batch tasks, w, reply, w' => Round platform tasks w reply w'
  | r, w, reply, w' =>
    ∃ m, Passage platform w.stray w.session w'.stray m ∧ Session.answer platform r m = (reply, w'.session)

variable {w w' : Workshop τ σ} {r : Keeping.Request} {reply : Keeping.Reply r}

/-- A request that is not about a batch is answered at some moment. -/
theorem Proceeds.single (h : Proceeds platform r w reply w') (hr : ∀ tasks, r ≠ .batch tasks) :
    ∃ m, Passage platform w.stray w.session w'.stray m ∧ Session.answer platform r m = (reply, w'.session) := by
  cases r with
  | batch tasks => exact absurd rfl (hr tasks)
  | _ => exact h

/-- Of a batch, what it was worked on for is a span of time. -/
theorem Round.passage {tasks : List Task} {reply : BatchReply} (h : Round platform tasks w reply w') :
    ∃ jobs pool jobs', Passage platform jobs (w.session.withPool pool) jobs' w'.session := by
  cases h with
  | ended _ _ passage => exact ⟨_, _, _, passage⟩
  | rejected _ passage => exact ⟨_, _, _, passage⟩

variable [LT τ] [Clock τ]

/-- **Whatever is answered**, the clock goes on, and the expiries stay. -/
theorem Proceeds.onward (h : Proceeds platform r w reply w') : w.session.Onward w'.session := by
  by_cases hr : ∃ tasks, r = .batch tasks
  · obtain ⟨tasks, rfl⟩ := hr
    obtain ⟨jobs, pool, jobs', passage⟩ := Round.passage h
    have hstart : w.session.Onward (w.session.withPool pool) := ⟨Clock.le_refl _, rfl, rfl⟩
    exact hstart.trans passage.onward
  · have hsingle : ∀ tasks, r ≠ .batch tasks := fun tasks htasks => hr ⟨tasks, htasks⟩
    obtain ⟨m, passage, hanswer⟩ := h.single hsingle
    have hend := (Session.onward_answer platform hsingle m).1
    rw [hanswer] at hend
    exact passage.onward.trans hend

/-- What was exchanged took its time. -/
theorem onward_of_leads {t : List (Exchange Keeping)} (h : Answering.Leads (Proceeds platform) w t w') :
    w.session.Onward w'.session := by
  induction h with
  | nil w => exact ⟨Clock.le_refl _, rfl, rfl⟩
  | cons answer _ ih => exact answer.onward.trans ih

/-- **Where nobody is left behind**, time passes and then a single request is answered. -/
theorem Proceeds.alone (h : Proceeds platform r w reply w') (hr : ∀ tasks, r ≠ .batch tasks) (hstray : w.stray = []) :
    w'.stray = [] ∧ ∃ t, w.session.clock ≤ t ∧
      Session.answer platform r { w.session with clock := t } = (reply, w'.session) := by
  obtain ⟨m, passage, hanswer⟩ := h.single hr
  obtain ⟨hnil, t, ht, rfl⟩ := passage.of_nil hstray
  exact ⟨hnil, t, ht, hanswer⟩

/-- An answer that takes no time is an answer at one moment. -/
theorem Proceeds.answers (h : Proceeds platform r w reply w') (hend : w'.session.clock ≤ w.session.clock) :
    Answers platform r w reply w' := by
  by_cases hr : ∃ tasks, r = .batch tasks
  · obtain ⟨tasks, rfl⟩ := hr
    cases h with
    | ended taken all passage => exact Batch.ended taken all (passage.shift hend)
    | rejected taken passage => exact Batch.rejected taken (passage.shift hend)
  · have hsingle : ∀ tasks, r ≠ .batch tasks := fun tasks htasks => hr ⟨tasks, htasks⟩
    obtain ⟨m, passage, hanswer⟩ := h.single hsingle
    have hclock := (Session.onward_answer platform hsingle m).2
    rw [hanswer] at hclock
    have hshift := passage.shift (hclock ▸ hend)
    exact (answers_iff hsingle).2 ⟨m, hshift, hanswer⟩

/-- **A run that takes no time** is a run at one moment. -/
theorem runs_answers_of_instant {α : Type} {p : Program Keeping α} {t : List (Exchange Keeping)} {a : α}
    (h : p.Runs (Proceeds platform) w t a w') (hend : w'.session.clock ≤ w.session.clock) :
    p.Runs (Answers platform) w t a w' := by
  induction h with
  | done a w => exact Program.Runs.done a w
  | ask answer rest ih =>
    -- each step starts and ends between the start and the end of the run, which are not apart
    have hstart := answer.onward.clock
    have hrest := (onward_of_leads rest.leads).clock
    exact Program.Runs.ask (answer.answers (Clock.le_trans hrest hend)) (ih (Clock.le_trans hend hstart))

end Workshop

/-! ## The last task first -/

namespace Passage

theorem trans {jobs mid jobs' : List Job} {s m s' : Session τ σ} (h₁ : Passage platform jobs s mid m)
    (h₂ : Passage platform mid m jobs' s') : Passage platform jobs s jobs' s' := by
  induction h₁ with
  | idle => exact h₂
  | work _ ih => exact work (ih h₂)
  | tick t ht _ ih => exact tick t ht (ih h₂)

/-- Others may stand on either side. -/
theorem frame {jobs jobs' : List Job} {s s' : Session τ σ} (left right : List Job)
    (h : Passage platform jobs s jobs' s') :
    Passage platform (left ++ jobs ++ right) s (left ++ jobs' ++ right) s' := by
  induction h with
  | idle => exact idle _ _
  | @work before after jobs r next s s' _ ih =>
    rw [Shift.append_frame] at ih ⊢
    exact work ih
  | tick t ht _ ih => exact tick t ht ih

/-- A job that is run to its end while the clock stands still. -/
theorem run_job (platform : Handler Inquiry σ) (job : Job) (s : Session τ σ) :
    Passage platform [job] s [Program.done (job.run (Session.answerErrand platform) s).1]
      (job.run (Session.answerErrand platform) s).2 := by
  induction job generalizing s with
  | done a => exact idle _ _
  | ask r next ih =>
    have rest := ih (Session.answerErrand platform r s).1 (Session.answerErrand platform r s).2
    exact @work _ _ _ _ _ _ [] [] _ r next s _ rest

end Passage

namespace Session

theorem passage_runBackwards (platform : Handler Inquiry σ) (tasks : List Task) (s : Session τ σ) :
    Passage platform (tasks.map Task.job) s (Job.ended ((s.runBackwards platform tasks).1.map .ok))
      (s.runBackwards platform tasks).2 := by
  induction tasks with
  | nil => exact Passage.idle _ _
  | cons task rest ih =>
    have hrest := ih.frame [task.job] []
    have hfirst := Passage.run_job platform task.job (s.runBackwards platform rest).2
    unfold Task.job at hfirst
    rw [Program.run_bind] at hfirst
    have hall := hfirst.frame [] (Job.ended ((s.runBackwards platform rest).1.map .ok))
    rw [List.append_nil, List.append_nil] at hrest
    exact hrest.trans hall

/-- A keeper whose pool takes everything may be answered so. -/
theorem proceeds_of_answerBackwards (platform : Handler Inquiry σ) (r : Keeping.Request) {s : Session τ σ}
    (hpool : s.pool.refusal = none) :
    Workshop.Proceeds platform r ⟨s, []⟩ (s.answerBackwards platform r).1 ⟨(s.answerBackwards platform r).2, []⟩ := by
  cases r with
  | batch tasks =>
    have hpassage := (passage_runBackwards platform tasks s).frame [] []
    refine Workshop.Round.ended (Pool.take_working hpool tasks) ?_ hpassage
    rw [List.length_map, List.length_map, length_runBackwards]
  | _ => exact ⟨s, Passage.idle _ _, rfl⟩

/-- **A run in which the last task is run first** is a run that takes no time. -/
theorem proceeds_of_runBackwards {α : Type} (platform : Handler Inquiry σ) (p : Program Keeping α) {s : Session τ σ}
    (hlasting : s.cache.Lasting) (hpool : s.pool.refusal = none) :
    ∃ t, p.Runs (Workshop.Proceeds platform) ⟨s, []⟩ t (p.run (answerBackwards platform) s).1
      ⟨(p.run (answerBackwards platform) s).2, []⟩ := by
  have h := Program.Runs.of_run (answerBackwards platform) p s
  have hsim : ∀ r (s : Session τ σ) reply s' (w : Workshop τ σ), w = ⟨s, []⟩ ∧ w.Lasting ∧ w.Working →
      (answerBackwards platform).answering r s reply s' →
      ∃ w', Workshop.Proceeds platform r w reply w' ∧ w' = ⟨s', []⟩ ∧ w'.Lasting ∧ w'.Working := by
    rintro r s reply s' _ ⟨rfl, hw, hworking⟩ hanswer
    have hanswer : answerBackwards platform r s = (reply, s') := hanswer
    have hanswers := answers_of_answerBackwards platform r hworking
    have hproceeds := proceeds_of_answerBackwards platform r hworking
    rw [hanswer] at hanswers hproceeds
    exact ⟨_, hproceeds, rfl, (Workshop.keeps platform).stays hw hanswers, hworking.stays hw hanswers⟩
  obtain ⟨_, hruns, rfl, -, -⟩ := h.simulate _ hsim ⟨rfl, hlasting, hpool⟩
  exact ⟨_, hruns⟩

/-- An attempt that comes to something so has such a run. -/
theorem proceeds_of_toOption {α : Type} (platform : Handler Inquiry σ) (p : Attempt Keeping α) {s : Session τ σ}
    (hlasting : s.cache.Lasting) (hpool : s.pool.refusal = none) {a : α}
    (h : (p.run (answerBackwards platform) s).1.toOption = some a) :
    ∃ t, Attempt.Runs (Workshop.Proceeds platform) p ⟨s, []⟩ t (.ok a)
      ⟨(p.run (answerBackwards platform) s).2, []⟩ := by
  obtain ⟨t, hruns⟩ := proceeds_of_runBackwards platform p.outcome hlasting hpool
  have hruns : Attempt.Runs (Workshop.Proceeds platform) p ⟨s, []⟩ t (p.run (answerBackwards platform) s).1
      ⟨(p.run (answerBackwards platform) s).2, []⟩ := hruns
  cases hrun : (p.run (answerBackwards platform) s).1 with
  | ok a' =>
    rw [hrun] at h hruns
    cases h
    exact ⟨t, hruns⟩
  | error f =>
    rw [hrun] at h
    cases h

end Session

end Steward
