import Steward.Proofs.Measure.Counters
import Steward.Proofs.Roster.Charges
import Steward.Proofs.Roster.Faithful
import Steward.Proofs.Roster.Reachable

/-!
# Counters beside the work

What is measured goes into the counters and comes out nowhere. So the counters after a run are those before it with
what was measured on the way, and a run with other counters, or with none, goes as it goes with these.

## Contents

* `Session.metered` — a session with other counters; `Session.answer_metered` — it is answered alike;
* `Session.tally_answer` — what an answer does to the counters;
* `Workshop.Counting` — what a keeper may be answered while nobody else touches its counters;
  `Workshop.Answers.counting` — the calm case;
* `Workshop.tally_of_runs` — the counters after a run; `Workshop.runs_metered` — a run with other counters.
-/

namespace Steward

variable {τ σ : Type} [Sub τ] [LE τ] [DecidableLE τ] {platform : Handler Inquiry σ}

/-! ## Sessions -/

namespace Session

/-- The session with another meter and other counters. -/
def metered (s : Session τ σ) (meter : Meter) (tally : Tally) : Session τ σ :=
  { s with meter, tally }

/-- Workers take no notice of the counters. -/
theorem answerErrand_metered (platform : Handler Inquiry σ) (r : Errand.Request) (s : Session τ σ) (meter : Meter)
    (tally : Tally) :
    answerErrand platform r (s.metered meter tally)
      = ((answerErrand platform r s).1, (answerErrand platform r s).2.metered meter tally) := by
  cases r with
  | inquiry r => rfl
  | lookup key => rfl

theorem run_metered {α : Type} (platform : Handler Inquiry σ) (p : Program Errand α) (s : Session τ σ) (meter : Meter)
    (tally : Tally) :
    p.run (answerErrand platform) (s.metered meter tally)
      = ((p.run (answerErrand platform) s).1, (p.run (answerErrand platform) s).2.metered meter tally) :=
  Program.run_comm (g := fun s => s.metered meter tally)
    (fun r s => answerErrand_metered platform r s meter tally) p s

theorem runBatch_metered (platform : Handler Inquiry σ) (tasks : List Task) (s : Session τ σ) (meter : Meter)
    (tally : Tally) :
    runBatch platform tasks (s.metered meter tally)
      = ((runBatch platform tasks s).1, (runBatch platform tasks s).2.metered meter tally) := by
  induction tasks generalizing s with
  | nil => rfl
  | cons task rest ih =>
    have hnext : (s.metered meter tally).pool.next = s.pool.next := rfl
    unfold runBatch
    rw [hnext]
    obtain ⟨refusal, pool, hpool⟩ : ∃ refusal pool, s.pool.next = (refusal, pool) := ⟨_, _, rfl⟩
    have hwith : ({ s.metered meter tally with pool := pool } : Session τ σ) = (s.withPool pool).metered meter tally :=
      rfl
    rw [hpool]
    dsimp only
    rw [hwith]
    cases refusal with
    | none =>
      dsimp only
      rw [run_metered, ih]
      rfl
    | some refusal =>
      cases refusal with
      | rejects f => rfl
      | cancels | dies f =>
        dsimp only
        rw [ih]
        rfl

/-- **What an answer does to the counters**, whatever is replied. -/
theorem tally_answer (platform : Handler Inquiry σ) (r : Keeping.Request) (reply : Keeping.Reply r) (s : Session τ σ) :
    (answer platform r s).2.meter = s.meter ∧
      (answer platform r s).2.tally = s.meter.recordAll s.tally (Keeping.measured [⟨r, reply⟩]) := by
  cases r with
  | batch tasks =>
    -- a batch leaves the counters it is given, so also those that are there
    have hsame : (answer platform (.batch tasks) s).2 = (answer platform (.batch tasks) s).2.metered s.meter s.tally :=
      congrArg Prod.snd (runBatch_metered platform tasks s s.meter s.tally)
    rw [hsame]
    exact ⟨rfl, rfl⟩
  | _ => exact ⟨rfl, rfl⟩

/-- **A keeper is answered alike whatever is counted.** -/
theorem answer_metered (platform : Handler Inquiry σ) (r : Keeping.Request) (s : Session τ σ) (meter : Meter)
    (tally : Tally) :
    ∃ tally', answer platform r (s.metered meter tally)
      = ((answer platform r s).1, (answer platform r s).2.metered meter tally') := by
  cases r with
  | batch tasks => exact ⟨tally, runBatch_metered platform tasks s meter tally⟩
  | _ => exact ⟨_, rfl⟩

end Session

/-- **Counters make no difference** to what a program of a keeper comes to, nor to anything else that it leaves. -/
theorem Program.run_answer_metered {α : Type} (platform : Handler Inquiry σ) (p : Program Keeping α) (s : Session τ σ)
    (meter : Meter) (tally : Tally) :
    ∃ tally', p.run (Session.answer platform) (s.metered meter tally)
      = ((p.run (Session.answer platform) s).1, (p.run (Session.answer platform) s).2.metered meter tally') := by
  induction p generalizing s tally with
  | done a => exact ⟨tally, rfl⟩
  | ask r next ih =>
    obtain ⟨tally', hanswer⟩ := Session.answer_metered platform r s meter tally
    rw [run_ask, run_ask, hanswer]
    exact ih _ _ tally'

/-! ## Workshops -/

namespace Workshop

/-- The workshop with another meter and other counters. -/
def metered (w : Workshop τ σ) (meter : Meter) (tally : Tally) : Workshop τ σ :=
  ⟨w.session.metered meter tally, w.stray⟩

/-- **What a keeper may be answered while nobody else touches its counters**: anything may happen as before, but to the
counters happens what the handler of keepers does to them. -/
def Counting (platform : Handler Inquiry σ) : Answering Keeping (Workshop τ σ) :=
  fun r w reply w' =>
    MayAnswer platform r w reply w' ∧ w'.session.meter = (Session.answer platform r w.session).2.meter ∧
      w'.session.tally = (Session.answer platform r w.session).2.tally

theorem Counting.tally_eq {r : Keeping.Request} {w w' : Workshop τ σ} {reply : Keeping.Reply r}
    (h : Counting platform r w reply w') :
    w'.session.meter = w.session.meter ∧
      w'.session.tally = w.session.meter.recordAll w.session.tally (Keeping.measured [⟨r, reply⟩]) := by
  obtain ⟨-, hmeter, htally⟩ := h
  obtain ⟨hmeter', htally'⟩ := Session.tally_answer platform r reply w.session
  exact ⟨hmeter.trans hmeter', htally.trans htally'⟩

/-- A shift leaves the counters. -/
theorem counters_of_shift {jobs jobs' : List Job} {s s' : Session τ σ} (h : Shift platform jobs s jobs' s') :
    s'.meter = s.meter ∧ s'.tally = s.tally := by
  induction h with
  | idle => exact ⟨rfl, rfl⟩
  | @work _ _ _ r _ s _ _ ih =>
    cases r with
    | inquiry r => exact ih
    | lookup key => exact ih
  | wait _ _ _ ih => exact ih

/-- While nothing expires, nobody else touches the counters. -/
theorem Answers.counting {r : Keeping.Request} {w w' : Workshop τ σ} {reply : Keeping.Reply r}
    (h : Answers platform r w reply w') : Counting platform r w reply w' := by
  refine ⟨h.mayAnswer, ?_⟩
  obtain ⟨hmeter, htally⟩ := Session.tally_answer platform r reply w.session
  rw [hmeter, htally]
  by_cases hbatch : ∃ tasks, r = .batch tasks
  · obtain ⟨tasks, rfl⟩ := hbatch
    have hbatch : Batch platform tasks w reply w' := h
    cases hbatch with
    | @ended _ pool _ _ taken all shift =>
      have hcounters : w'.session.meter = (w.session.withPool pool).meter ∧
          w'.session.tally = (w.session.withPool pool).tally := counters_of_shift shift
      exact hcounters
    | @rejected _ _ pool _ taken shift =>
      have hcounters : w'.session.meter = (w.session.withPool pool).meter ∧
          w'.session.tally = (w.session.withPool pool).tally := counters_of_shift shift
      exact hcounters
  · obtain ⟨s, shift, answer⟩ := (answers_iff fun tasks hr => hbatch ⟨tasks, hr⟩).1 h
    obtain ⟨hmeter, htally⟩ := counters_of_shift shift
    obtain ⟨hm, ht⟩ := Session.tally_answer platform r reply s
    have hafter : w'.session = (Session.answer platform r s).2 := (congrArg Prod.snd answer).symm
    rw [hafter, hm, ht, hmeter, htally]
    exact ⟨rfl, rfl⟩

/-- **The counters after a run** are those before it, with all that was measured on the way. -/
theorem tally_of_runs {α : Type} {p : Program Keeping α} {w w' : Workshop τ σ} {t : List (Exchange Keeping)} {a : α}
    (h : p.Runs (Counting platform) w t a w') :
    w'.session.meter = w.session.meter ∧
      w'.session.tally = w.session.meter.recordAll w.session.tally (Keeping.measured t) := by
  induction h with
  | done => exact ⟨rfl, rfl⟩
  | @ask r next w m w' reply t a answer _ ih =>
    obtain ⟨hmeter, htally⟩ := ih
    obtain ⟨hfirst, hfirst'⟩ := answer.tally_eq
    refine ⟨hmeter.trans hfirst, ?_⟩
    rw [htally, hfirst, hfirst', ← Meter.recordAll_append, ← Keeping.measured_append]
    rfl

/-- **A batch that ends well has an outcome for each of its tasks.** -/
theorem length_of_counting {tasks : List Task} {w w' : Workshop τ σ} {outcomes : List (Except Fault (Option Workload))}
    (h : Counting platform (.batch tasks) w (.ok outcomes) w') : outcomes.length = tasks.length := by
  obtain ⟨hbout, -⟩ := h
  have hbout : Bout platform tasks w (.ok outcomes) w' := hbout
  cases hbout with
  | ended taken all span => exact all.trans (Pool.forall₂_take taken).length_eq.symm

theorem batched_of_runs {α : Type} {p : Program Keeping α} {w w' : Workshop τ σ} {t : List (Exchange Keeping)} {a : α}
    (h : p.Runs (Counting platform) w t a w') :
    ∀ n outcomes, (n, .ok outcomes) ∈ Keeping.batched t → outcomes.length = n := by
  induction h with
  | done =>
    intro n outcomes hmem
    cases hmem
  | @ask r next w m w' reply t a answer _ ih =>
    intro n outcomes hmem
    cases r with
    | batch tasks =>
      rcases List.mem_cons.1 hmem with hfirst | hrest
      · cases hfirst
        exact length_of_counting answer
      · exact ih n outcomes hrest
    | _ => exact ih n outcomes hmem

/-! ## Runs with other counters -/

/-- A span of time with other counters. -/
theorem bustle_metered {jobs jobs' : List Job} {s s' : Session τ σ} (h : Bustle platform jobs s jobs' s')
    (meter : Meter) (tally tally' : Tally) :
    Bustle platform jobs (s.metered meter tally) jobs' (s'.metered meter tally') := by
  induction h with
  | idle jobs s => exact Bustle.pass (s.metered meter tally') rfl (Bustle.idle _ _)
  | @work before after jobs r next s s' _ ih =>
    refine Bustle.work ?_
    rw [Session.answerErrand_metered]
    exact ih
  | pass m kept _ ih => exact Bustle.pass (m.metered meter tally) kept ih

/-- A single request may be answered after anything has happened. -/
theorem mayAnswer_iff {r : Keeping.Request} {reply : Keeping.Reply r} {w w' : Workshop τ σ}
    (hr : ∀ tasks, r ≠ .batch tasks) :
    MayAnswer platform r w reply w' ↔
      ∃ m, Bustle platform w.stray w.session w'.stray m ∧ Session.answer platform r m = (reply, w'.session) := by
  cases r with
  | batch tasks => exact absurd rfl (hr tasks)
  | _ => exact Iff.rfl

/-- A keeper may be answered with other counters what it may be answered with these. -/
theorem counting_metered {r : Keeping.Request} {w w' : Workshop τ σ} {reply : Keeping.Reply r}
    (h : Counting platform r w reply w') (meter : Meter) (tally : Tally) :
    ∃ tally', Counting platform r (w.metered meter tally) reply (w'.metered meter tally') := by
  obtain ⟨hmay, -⟩ := h
  obtain ⟨hmeter, htally⟩ := Session.tally_answer platform r reply (w.session.metered meter tally)
  refine ⟨_, ?_, hmeter.symm, rfl⟩
  by_cases hbatch : ∃ tasks, r = .batch tasks
  · obtain ⟨tasks, rfl⟩ := hbatch
    have hbout : Bout platform tasks w reply w' := hmay
    cases hbout with
    | ended taken all span => exact Bout.ended taken all (bustle_metered span meter tally _)
    | rejected taken span => exact Bout.rejected taken (bustle_metered span meter tally _)
  · have hsingle : ∀ tasks, r ≠ .batch tasks := fun tasks hr => hbatch ⟨tasks, hr⟩
    obtain ⟨m, span, answer⟩ := (mayAnswer_iff hsingle).1 hmay
    obtain ⟨tally', hanswer⟩ := Session.answer_metered platform r m meter tally
    rw [answer] at hanswer
    -- the counters then are what the same measure makes of the same counters
    have hsame : tally' = (Session.answer platform r (w.session.metered meter tally)).2.tally := by
      have hcounted := (Session.tally_answer platform r reply (m.metered meter tally)).2
      rw [hanswer] at hcounted
      exact hcounted.trans htally.symm
    rw [hsame] at hanswer
    exact (mayAnswer_iff hsingle).2 ⟨_, bustle_metered span meter tally tally, hanswer⟩

/-- **A run with other counters** exchanges the same, and leaves everything else the same. -/
theorem runs_metered {α : Type} {p : Program Keeping α} {w w' : Workshop τ σ} {t : List (Exchange Keeping)} {a : α}
    (h : p.Runs (Counting platform) w t a w') (meter : Meter) (tally : Tally) :
    ∃ tally', p.Runs (Counting platform) (w.metered meter tally) t a (w'.metered meter tally') := by
  have hsim : ∀ r (w : Workshop τ σ) reply w' v, (∃ tally, v = w.metered meter tally) →
      Counting platform r w reply w' → ∃ v', Counting platform r v reply v' ∧ ∃ tally, v' = w'.metered meter tally := by
    rintro r w reply w' _ ⟨tally, rfl⟩ hanswer
    obtain ⟨tally', hanswer'⟩ := counting_metered hanswer meter tally
    exact ⟨_, hanswer', tally', rfl⟩
  obtain ⟨_, hruns, tally', rfl⟩ := h.simulate _ hsim ⟨tally, rfl⟩
  exact ⟨tally', hruns⟩

end Workshop

end Steward
