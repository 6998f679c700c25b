import Steward.Roster.Session
import Steward.Proofs.Program.Runs
import Steward.Proofs.Cache.Contents

/-!
# Workers that take turns in any order

`Session.runBatch` runs the tasks of a batch one after the other. A pool of several workers does not: the steps
of the tasks interleave, the cache clock goes on meanwhile, and work of a rejected batch that is already on a
worker goes on even after the keeper has given up waiting. `Workshop.Answers` allows all of that. A step is one
request of one worker; what a request does to the session is `Session.answerErrand`, as everywhere.

The clock may go on as long as no entry crosses its expiry: everything here is about spans in which nothing
expires.

## Contents

* `Session.contents` — what the cache shows now;
* `Shift` — a span of time in which workers work; `Shift.contents_eq` — it changes nothing that can be seen;
* `Pool.take` — the submissions of a batch that a pool takes;
* `Workshop`, `Workshop.Answers` — a session with stray work, and the answers to its keeper;
* `Workshop.answers_of_answer` — one task after the other is one of the orders.
-/

namespace Steward

variable {τ σ : Type} [Sub τ] [LE τ] [DecidableLE τ]

namespace Session

/-- What the cache shows now. -/
def contents (s : Session τ σ) : String → Option Workload :=
  fun key => s.cache.peek? key s.clock

/-- It shows the same while nothing expires. -/
theorem contents_wait {s : Session τ σ} {t : τ}
    (h : ∀ e ∈ s.cache.entries, s.cache.isExpired e.2 t = s.cache.isExpired e.2 s.clock) :
    ({ s with clock := t } : Session τ σ).contents = s.contents :=
  funext fun key => Cache.peek?_congr h key

/-- The session with another pool. -/
def withPool (s : Session τ σ) (pool : Pool) : Session τ σ :=
  { s with pool }

/-- Workers take no notice of the pool. -/
theorem run_withPool {α : Type} (platform : Handler Inquiry σ) (p : Program Errand α) (s : Session τ σ)
    (pool : Pool) :
    p.run (answerErrand platform) (s.withPool pool)
      = ((p.run (answerErrand platform) s).1, (p.run (answerErrand platform) s).2.withPool pool) := by
  refine Program.run_comm (g := fun s => s.withPool pool) ?_ p s
  intro r s
  cases r with
  | inquiry r => rfl
  | lookup key => rfl

end Session

/-- Work in the hands of a worker. It comes to a workload or to nothing, or to no end. -/
abbrev Job := Program Errand (Except Fault (Option Workload))

/-- Jobs that came to an end, with these outcomes. -/
def Job.ended (outcomes : List (Except Fault (Option Workload))) : List Job :=
  outcomes.map Program.done

/-! ## Shifts -/

/-- **A shift.** Any of the jobs takes its next step, or time passes in which nothing expires, as often as
anybody likes. -/
inductive Shift (platform : Handler Inquiry σ) : List Job → Session τ σ → List Job → Session τ σ → Prop where
  | idle (jobs : List Job) (s : Session τ σ) : Shift platform jobs s jobs s
  | work {before after jobs : List Job} {r : Errand.Request} {next : Errand.Reply r → Job}
      {s s' : Session τ σ}
      (rest : Shift platform (before ++ next (Session.answerErrand platform r s).1 :: after)
        (Session.answerErrand platform r s).2 jobs s') :
      Shift platform (before ++ Program.ask r next :: after) s jobs s'
  | wait {jobs jobs' : List Job} {s s' : Session τ σ} (t : τ)
      (h : ∀ e ∈ s.cache.entries, s.cache.isExpired e.2 t = s.cache.isExpired e.2 s.clock)
      (rest : Shift platform jobs { s with clock := t } jobs' s') : Shift platform jobs s jobs' s'

namespace Shift

variable {platform : Handler Inquiry σ}

theorem trans {jobs mid jobs' : List Job} {s m s' : Session τ σ} (h₁ : Shift platform jobs s mid m)
    (h₂ : Shift platform mid m jobs' s') : Shift platform jobs s jobs' s' := by
  induction h₁ with
  | idle => exact h₂
  | work _ ih => exact work (ih h₂)
  | wait t h _ ih => exact wait t h (ih h₂)

/-- A worker among its fellows stands among others on either side of them. -/
theorem append_frame (left right before after : List Job) (job : Job) :
    left ++ (before ++ job :: after) ++ right = (left ++ before) ++ job :: (after ++ right) := by
  simp only [List.append_assoc, List.cons_append]

/-- Others may stand on either side. -/
theorem frame {jobs jobs' : List Job} {s s' : Session τ σ} (left right : List Job)
    (h : Shift platform jobs s jobs' s') :
    Shift platform (left ++ jobs ++ right) s (left ++ jobs' ++ right) s' := by
  induction h with
  | idle => exact idle _ _
  | @work before after jobs r next s s' _ ih =>
    rw [append_frame] at ih ⊢
    exact work ih
  | wait t h _ ih => exact wait t h ih

/-- A job that is run to its end under the handler of workers. -/
theorem run_job (platform : Handler Inquiry σ) (job : Job) (s : Session τ σ) :
    Shift platform [job] s [Program.done (job.run (Session.answerErrand platform) s).1]
      (job.run (Session.answerErrand platform) s).2 := by
  induction job generalizing s with
  | done a => exact idle _ _
  | ask r next ih =>
    have rest := ih (Session.answerErrand platform r s).1 (Session.answerErrand platform r s).2
    exact @work _ _ _ _ _ _ [] [] _ r next s _ rest

theorem length_eq {jobs jobs' : List Job} {s s' : Session τ σ} (h : Shift platform jobs s jobs' s') :
    jobs'.length = jobs.length := by
  induction h with
  | idle => rfl
  | work _ ih => rw [ih]; simp only [List.length_append, List.length_cons]
  | wait _ _ _ ih => exact ih

/-- A worker's request changes neither the pool nor what the cache shows. -/
theorem answerErrand_frame (platform : Handler Inquiry σ) {s : Session τ σ} (hs : s.cache.Lasting)
    (r : Errand.Request) :
    (Session.answerErrand platform r s).2.contents = s.contents
      ∧ (Session.answerErrand platform r s).2.cache.Lasting
      ∧ (Session.answerErrand platform r s).2.pool = s.pool := by
  cases r with
  | inquiry r => exact ⟨rfl, hs, rfl⟩
  | lookup key =>
    refine ⟨?_, hs.find? key s.clock, rfl⟩
    funext other
    exact Cache.peek?_find? hs key other s.clock

/-- **Whatever workers do, nothing changes that can be seen**, and the pool takes no notice. -/
theorem contents_eq {jobs jobs' : List Job} {s s' : Session τ σ} (h : Shift platform jobs s jobs' s')
    (hs : s.cache.Lasting) : s'.contents = s.contents ∧ s'.cache.Lasting ∧ s'.pool = s.pool := by
  induction h with
  | idle => exact ⟨rfl, hs, rfl⟩
  | @work _ _ _ r _ s _ _ ih =>
    obtain ⟨hcontents, hlasting, hpool⟩ := answerErrand_frame platform hs r
    obtain ⟨h₁, h₂, h₃⟩ := ih hlasting
    exact ⟨h₁.trans hcontents, h₂, h₃.trans hpool⟩
  | @wait _ _ s _ t h _ ih =>
    obtain ⟨h₁, h₂, h₃⟩ := ih hs
    exact ⟨h₁.trans (Session.contents_wait h), h₂, h₃⟩

end Shift

/-! ## Submissions -/

/-- The jobs of a batch that a pool takes, why it rejects the next submission if it does, and the pool then. -/
def Pool.take (p : Pool) : List Task → List Job × Option Fault × Pool
  | [] => ([], none, p)
  | task :: rest =>
    match p.next with
    | (some (.rejects f), p) => ([], some f, p)
    | (some .cancels, p) => ((.done (.error .cancelled)) :: (take p rest).1, (take p rest).2)
    | (some (.dies f), p) => ((.done (.error f)) :: (take p rest).1, (take p rest).2)
    | (none, p) => (task.bind (fun w => .done (.ok w)) :: (take p rest).1, (take p rest).2)

/-! ## Workshops -/

/-- A session, and the work of rejected batches that is still on some worker. -/
structure Workshop (τ σ : Type) where
  session : Session τ σ
  stray : List Job

namespace Workshop

/-- What becomes of a batch: the jobs that were taken are worked on until all have ended, or, if a submission is
rejected, they are left to themselves. -/
inductive Batch (platform : Handler Inquiry σ) (tasks : List Task) (w : Workshop τ σ) :
    Except Fault (List (Except Fault (Option Workload))) → Workshop τ σ → Prop where
  | ended {jobs : List Job} {pool : Pool} {outcomes : List (Except Fault (Option Workload))}
      {w' : Workshop τ σ} (taken : w.session.pool.take tasks = (jobs, none, pool))
      (all : outcomes.length = jobs.length)
      (shift : Shift platform (jobs ++ w.stray) (w.session.withPool pool) (Job.ended outcomes ++ w'.stray)
        w'.session) :
      Batch platform tasks w (.ok outcomes) w'
  | rejected {jobs : List Job} {f : Fault} {pool : Pool} {w' : Workshop τ σ}
      (taken : w.session.pool.take tasks = (jobs, some f, pool))
      (shift : Shift platform (jobs ++ w.stray) (w.session.withPool pool) w'.stray w'.session) :
      Batch platform tasks w (.error f) w'

/-- **The answers to a keeper.** Stray work goes on until the answer is given. -/
def Answers (platform : Handler Inquiry σ) : Answering Keeping (Workshop τ σ)
  | .batch tasks, w, reply, w' => Batch platform tasks w reply w'
  | r, w, reply, w' =>
    ∃ m, Shift platform w.stray w.session w'.stray m ∧ Session.answer platform r m = (reply, w'.session)

/-! ## One task after the other -/

variable {platform : Handler Inquiry σ}

/-- A single request is answered after stray work has gone on for a while. -/
theorem answers_iff {r : Keeping.Request} {reply : Keeping.Reply r} {w w' : Workshop τ σ}
    (hr : ∀ tasks, r ≠ .batch tasks) :
    Answers platform r w reply w' ↔
      ∃ m, Shift platform w.stray w.session w'.stray m ∧ Session.answer platform r m = (reply, w'.session) := by
  cases r with
  | batch tasks => exact absurd rfl (hr tasks)
  | _ => exact Iff.rfl

/-- Stray work may stand by. -/
theorem Batch.frame {tasks : List Task} {s s' : Session τ σ} {left : List Job}
    {reply : Except Fault (List (Except Fault (Option Workload)))} (stray : List Job)
    (h : Batch platform tasks ⟨s, []⟩ reply ⟨s', left⟩) :
    Batch platform tasks ⟨s, stray⟩ reply ⟨s', left ++ stray⟩ := by
  cases h with
  | ended taken all shift =>
    have hshift := shift.frame [] stray
    simp only [List.nil_append, List.append_nil, List.append_assoc] at hshift
    exact ended taken all hshift
  | rejected taken shift =>
    have hshift := shift.frame [] stray
    simp only [List.nil_append, List.append_nil] at hshift
    exact rejected taken hshift

/-- A batch whose first job is worked on alone, until it has ended. -/
theorem Batch.cons {task : Task} {rest : List Task} {job : Job} {o : Except Fault (Option Workload)}
    {s m s' : Session τ σ} {left : List Job} {reply : Except Fault (List (Except Fault (Option Workload)))}
    (htaken : s.pool.take (task :: rest) = (job :: (m.pool.take rest).1, (m.pool.take rest).2))
    (hjob : ∀ pool, Shift platform [job] (s.withPool pool) [.done o] (m.withPool pool))
    (h : Batch platform rest ⟨m, []⟩ reply ⟨s', left⟩) :
    ∃ left', Batch platform (task :: rest) ⟨s, []⟩ (reply.map (o :: ·)) ⟨s', left'⟩ := by
  cases h with
  | @ended jobs pool outcomes _ taken all shift =>
    -- the first job is worked on beside the others, then the others beside its outcome
    have hfirst := (hjob pool).frame [] jobs
    have hothers := shift.frame [.done o] []
    simp only [List.nil_append, List.append_nil, List.cons_append] at hfirst hothers
    have hall := hfirst.trans hothers
    rw [taken] at htaken
    rw [← List.append_nil (job :: jobs)] at hall
    refine ⟨left, ended htaken ?_ hall⟩
    rw [List.length_cons, List.length_cons, all]
  | @rejected jobs f pool _ taken shift =>
    have hfirst := (hjob pool).frame [] jobs
    have hothers := shift.frame [.done o] []
    simp only [List.nil_append, List.append_nil, List.cons_append] at hfirst hothers
    have hall := hfirst.trans hothers
    rw [taken] at htaken
    rw [← List.append_nil (job :: jobs)] at hall
    exact ⟨.done o :: left, rejected htaken hall⟩

/-- A batch that is run one task after the other is a batch. -/
theorem batch_of_runBatch (platform : Handler Inquiry σ) (tasks : List Task) (s : Session τ σ) :
    ∃ left, Batch platform tasks ⟨s, []⟩ (Session.runBatch platform tasks s).1
      ⟨(Session.runBatch platform tasks s).2, left⟩ := by
  induction tasks generalizing s with
  | nil => exact ⟨[], Batch.ended rfl rfl (Shift.idle _ _)⟩
  | cons task rest ih =>
    obtain ⟨refusal, pool, hnext⟩ : ∃ refusal pool, s.pool.next = (refusal, pool) := ⟨_, _, rfl⟩
    -- a submission that the pool takes and loses has ended at once
    have hlost : ∀ o, s.pool.take (task :: rest) = (.done o :: (pool.take rest).1, (pool.take rest).2) →
        Session.runBatch platform (task :: rest) s
          = ((Session.runBatch platform rest (s.withPool pool)).1.map (o :: ·),
            (Session.runBatch platform rest (s.withPool pool)).2) →
        ∃ left, Batch platform (task :: rest) ⟨s, []⟩ (Session.runBatch platform (task :: rest) s).1
          ⟨(Session.runBatch platform (task :: rest) s).2, left⟩ := by
      intro o htaken hrun
      obtain ⟨left, hrest⟩ := ih (s.withPool pool)
      have hjob : ∀ last, Shift platform [.done o] (s.withPool last) [.done o]
          ((s.withPool pool).withPool last) := fun last => Shift.idle _ _
      rw [hrun]
      exact Batch.cons htaken hjob hrest
    cases refusal with
    | none =>
      have htaken : s.pool.take (task :: rest)
          = (task.bind (fun w => .done (.ok w)) :: (pool.take rest).1, (pool.take rest).2) := by
        rw [Pool.take, hnext]
      obtain ⟨x, m, htask⟩ : ∃ x m, task.run (Session.answerErrand platform) s = (x, m) := ⟨_, _, rfl⟩
      have hrun : Session.runBatch platform (task :: rest) s
          = ((Session.runBatch platform rest (m.withPool pool)).1.map (.ok x :: ·),
            (Session.runBatch platform rest (m.withPool pool)).2) := by
        have htask' : task.run (Session.answerErrand platform) { s with pool } = (x, m.withPool pool) := by
          have hsame := Session.run_withPool platform task s pool
          rw [htask] at hsame
          exact hsame
        rw [Session.runBatch, hnext]
        simp only [htask']
      have hjob : ∀ last, Shift platform [task.bind fun w => .done (.ok w)] (s.withPool last)
          [.done (.ok x)] ((m.withPool pool).withPool last) := by
        intro last
        have hwhole := Shift.run_job platform (task.bind fun w => .done (.ok w)) (s.withPool last)
        rw [Program.run_bind, Session.run_withPool, htask] at hwhole
        exact hwhole
      obtain ⟨left, hrest⟩ := ih (m.withPool pool)
      rw [hrun]
      exact Batch.cons htaken hjob hrest
    | some refusal =>
      cases refusal with
      | rejects f =>
        have htaken : s.pool.take (task :: rest) = ([], some f, pool) := by
          rw [Pool.take, hnext]
        have hrun : Session.runBatch platform (task :: rest) s = (.error f, s.withPool pool) := by
          rw [Session.runBatch, hnext]
          rfl
        rw [hrun]
        exact ⟨[], Batch.rejected htaken (Shift.idle _ _)⟩
      | cancels => exact hlost _ (by rw [Pool.take, hnext]) (by rw [Session.runBatch, hnext]; rfl)
      | dies f => exact hlost _ (by rw [Pool.take, hnext]) (by rw [Session.runBatch, hnext]; rfl)

/-- **The handler of keepers is one way to answer them.** -/
theorem answers_of_answer (platform : Handler Inquiry σ) (r : Keeping.Request) (s : Session τ σ) (stray : List Job) :
    ∃ left, Answers platform r ⟨s, stray⟩ (Session.answer platform r s).1
      ⟨(Session.answer platform r s).2, left⟩ := by
  cases r with
  | batch tasks =>
    obtain ⟨left, h⟩ := batch_of_runBatch platform tasks s
    exact ⟨left ++ stray, h.frame stray⟩
  | _ => exact ⟨stray, s, Shift.idle _ _, rfl⟩

/-- A run under the handler is a run in the workshop, with the same exchanges. -/
theorem runs_exchanged {α : Type} (platform : Handler Inquiry σ) (p : Program Keeping α) (s : Session τ σ)
    (stray : List Job) :
    ∃ left, p.Runs (Answers platform) ⟨s, stray⟩ (p.exchanged (Session.answer platform) s)
      (p.run (Session.answer platform) s).1 ⟨(p.run (Session.answer platform) s).2, left⟩ := by
  have h := Program.Runs.of_run (Session.answer platform) p s
  have hsim : ∀ r (s : Session τ σ) reply s' (w : Workshop τ σ), w.session = s →
      (Session.answer platform).answering r s reply s' →
      ∃ w', Answers platform r w reply w' ∧ w'.session = s' := by
    rintro r s reply s' ⟨session, stray⟩ rfl hanswer
    have hanswer : Session.answer platform r session = (reply, s') := hanswer
    obtain ⟨left, h⟩ := answers_of_answer platform r session stray
    rw [hanswer] at h
    exact ⟨_, h, rfl⟩
  have hstart : (⟨s, stray⟩ : Workshop τ σ).session = s := rfl
  obtain ⟨⟨session, left⟩, hw, rfl⟩ := h.simulate (fun s (w : Workshop τ σ) => w.session = s) hsim hstart
  exact ⟨left, hw⟩

theorem runs_of_run {α : Type} (platform : Handler Inquiry σ) (p : Program Keeping α) (s : Session τ σ)
    (stray : List Job) :
    ∃ t left, p.Runs (Answers platform) ⟨s, stray⟩ t (p.run (Session.answer platform) s).1
      ⟨(p.run (Session.answer platform) s).2, left⟩ :=
  ⟨_, runs_exchanged platform p s stray⟩

/-- An attempt that comes to something under the handler has a run that comes to it. -/
theorem runs_of_toOption {α : Type} (platform : Handler Inquiry σ) (p : Attempt Keeping α) (s : Session τ σ)
    (stray : List Job) {a : α} (h : (p.run (Session.answer platform) s).1.toOption = some a) :
    ∃ t left, Attempt.Runs (Answers platform) p ⟨s, stray⟩ t (.ok a) ⟨(p.run (Session.answer platform) s).2, left⟩ := by
  obtain ⟨t, left, hruns⟩ := runs_of_run platform p.outcome s stray
  have hruns : Attempt.Runs (Answers platform) p ⟨s, stray⟩ t (p.run (Session.answer platform) s).1
      ⟨(p.run (Session.answer platform) s).2, left⟩ := hruns
  cases hrun : (p.run (Session.answer platform) s).1 with
  | ok a' =>
    rw [hrun] at h hruns
    cases h
    exact ⟨t, left, hruns⟩
  | error f =>
    rw [hrun] at h
    cases h

/-- An attempt that ends well under the handler has such a run in the workshop. -/
theorem runs_of_isOk {α : Type} (platform : Handler Inquiry σ) (p : Attempt Keeping α) (s : Session τ σ)
    (stray : List Job) (h : (p.run (Session.answer platform) s).1.isOk = true) :
    ∃ t a left, Attempt.Runs (Answers platform) p ⟨s, stray⟩ t (.ok a)
      ⟨(p.run (Session.answer platform) s).2, left⟩ := by
  obtain ⟨a, ha⟩ : ∃ a, (p.run (Session.answer platform) s).1.toOption = some a := by
    cases hrun : (p.run (Session.answer platform) s).1 with
    | ok a => exact ⟨a, rfl⟩
    | error f =>
      rw [hrun] at h
      cases h
  obtain ⟨t, left, hruns⟩ := runs_of_toOption platform p s stray ha
  exact ⟨t, a, left, hruns⟩

end Workshop

end Steward
