import Mathlib.Data.List.Forall2
import Steward.Proofs.Roster.Facts
import Steward.Proofs.Roster.Keeper
import Steward.Proofs.Roster.Workshop

/-!
# A workshop answers faithfully

Whatever order workers take, the keeper of a roster can rely on its answers. If the platform does not change its
mind, it can rely on more: what a task comes to is settled when its batch is handed out, since nothing that a
worker reads changes until the batch has ended.

## Contents

* `Shift.eval_eq` — what jobs will come to stays the same while workers work;
* `Workshop.keeps` — any platform; `Workshop.keeps_of_govern` — one that does not change its mind, where `Facts.Worked`
  tells what becomes of batches; `Workshop.keeps_of_working` — such a one, and a pool that takes everything.
-/

namespace Steward

variable {τ σ : Type} [Sub τ] [LE τ] [DecidableLE τ] {platform : Handler Inquiry σ}

/-! ## Submissions -/

/-- A task as the pool takes it. -/
def Task.job (task : Task) : Job :=
  task.bind fun w => .done (.ok w)

namespace Pool

/-- A pool that takes a batch keeps each of its tasks, or loses it at once. -/
theorem forall₂_take {p pool : Pool} {tasks : List Task} {jobs : List Job} (h : p.take tasks = (jobs, none, pool)) :
    List.Forall₂ (fun task job => job = Task.job task ∨ ∃ f, job = .done (.error f)) tasks jobs := by
  induction tasks generalizing p jobs with
  | nil =>
    cases h
    exact List.Forall₂.nil
  | cons task rest ih =>
    -- Whatever the pool does with the task, it goes on with the others.
    have hcons : ∀ {job : Job} {q : Pool}, (job = Task.job task ∨ ∃ f, job = .done (.error f)) →
        (job :: (q.take rest).1, (q.take rest).2) = (jobs, none, pool) →
        List.Forall₂ (fun task job => job = Task.job task ∨ ∃ f, job = .done (.error f)) (task :: rest) jobs := by
      intro job q hjob h
      obtain ⟨rfl, hrest⟩ := Prod.mk.inj h
      exact List.Forall₂.cons hjob (ih (Prod.ext rfl hrest))
    unfold take at h
    split at h
    · cases h
    · exact hcons (Or.inr ⟨_, rfl⟩) h
    · exact hcons (Or.inr ⟨_, rfl⟩) h
    · exact hcons (Or.inl rfl) h

/-- A pool without refusal takes everything. -/
theorem take_working {p : Pool} (hp : p.refusal = none) (tasks : List Task) :
    p.take tasks = (tasks.map Task.job, none, p) := by
  have hnext : p.next = (none, p) := by
    unfold next
    rw [hp]
  induction tasks with
  | nil => rfl
  | cons task rest ih =>
    unfold take
    rw [hnext]
    dsimp only
    rw [ih]
    rfl

end Pool

/-! ## What jobs will come to -/

namespace Shift

theorem reply_eq {facts : Facts} (hfacts : facts.Govern platform) (r : Errand.Request) (s : Session τ σ) :
    (Session.answerErrand platform r s).1 = facts.errand s.contents r := by
  cases r with
  | inquiry r => exact hfacts r s.world
  | lookup key => exact Cache.find?_fst s.cache key s.clock

/-- **What jobs will come to** stays the same while workers work. -/
theorem eval_eq {facts : Facts} (hfacts : facts.Govern platform) {jobs jobs' : List Job} {s s' : Session τ σ}
    (hs : s.cache.Lasting) (h : Shift platform jobs s jobs' s') :
    jobs'.map (·.eval (facts.errand s.contents)) = jobs.map (·.eval (facts.errand s.contents)) := by
  induction h with
  | idle => rfl
  | @work before after jobs r next s s' _ ih =>
    obtain ⟨hcontents, hlasting, -⟩ := answerErrand_frame platform hs r
    have hrest := ih hlasting
    rw [hcontents, reply_eq hfacts] at hrest
    rw [hrest, List.map_append, List.map_append]
    rfl
  | @wait _ _ s _ t h _ ih =>
    have hrest := ih hs
    rw [Session.contents_wait h] at hrest
    exact hrest

end Shift

/-- What may become of a batch if the platform does not change its mind: a task that ended came to what the facts
and the contents say. -/
def Facts.Worked (facts : Facts) (c : Contents) (tasks : List Task) (reply : BatchReply) : Prop :=
  ∀ outcomes, reply = .ok outcomes →
    List.Forall₂ (fun task outcome => ∀ x, outcome = .ok x → x = task.eval (facts.errand c)) tasks outcomes

namespace Workshop

namespace Batch

variable {tasks : List Task} {w w' : Workshop τ σ} {reply : BatchReply}

/-- A batch changes nothing that can be seen. -/
theorem contents_eq (hw : w.session.cache.Lasting) (h : Batch platform tasks w reply w') :
    w'.session.contents = w.session.contents ∧ w'.session.cache.Lasting := by
  cases h with
  | @ended _ pool _ _ _ _ shift =>
    have hpool : (w.session.withPool pool).cache.Lasting := hw
    obtain ⟨hcontents, hlasting, -⟩ := shift.contents_eq hpool
    exact ⟨hcontents, hlasting⟩
  | @rejected _ _ pool _ _ shift =>
    have hpool : (w.session.withPool pool).cache.Lasting := hw
    obtain ⟨hcontents, hlasting, -⟩ := shift.contents_eq hpool
    exact ⟨hcontents, hlasting⟩

theorem length_eq {outcomes : List (Except Fault (Option Workload))}
    (h : Batch platform tasks w (.ok outcomes) w') : outcomes.length = tasks.length := by
  cases h with
  | ended taken all _ => rw [all, (Pool.forall₂_take taken).length_eq]

/-- Jobs that have ended came to what they would have come to at the beginning. -/
theorem outcomes_eq {facts : Facts} (hfacts : facts.Govern platform) (hw : w.session.cache.Lasting) {pool : Pool}
    {jobs stray : List Job} {s' : Session τ σ} {outcomes : List (Except Fault (Option Workload))}
    (all : outcomes.length = jobs.length)
    (shift : Shift platform (jobs ++ w.stray) (w.session.withPool pool) (Job.ended outcomes ++ stray) s') :
    outcomes = jobs.map (·.eval (facts.errand w.session.contents)) := by
  have hpool : (w.session.withPool pool).cache.Lasting := hw
  have heval := shift.eval_eq hfacts hpool
  rw [List.map_append, List.map_append] at heval
  have hended : (Job.ended outcomes).map (·.eval (facts.errand w.session.contents)) = outcomes := by
    unfold Job.ended
    rw [List.map_map]
    exact List.map_id outcomes
  have hlength : ((Job.ended outcomes).map (·.eval (facts.errand w.session.contents))).length
      = (jobs.map (·.eval (facts.errand w.session.contents))).length := by
    rw [hended, List.length_map, all]
  exact hended.symm.trans (List.append_inj heval hlength).1

theorem worked {facts : Facts} (hfacts : facts.Govern platform) (hw : w.session.cache.Lasting)
    (h : Batch platform tasks w reply w') : facts.Worked w.session.contents tasks reply := by
  rintro outcomes rfl
  cases h with
  | ended taken all shift =>
    rw [outcomes_eq hfacts hw all shift, List.forall₂_map_right_iff]
    refine (Pool.forall₂_take taken).imp ?_
    rintro task job (rfl | ⟨f, rfl⟩) x hx
    · unfold Task.job at hx
      rw [Program.eval_bind] at hx
      cases hx
      rfl
    · cases hx

/-- A pool that takes everything ends everything. -/
theorem worked_of_working {facts : Facts} (hfacts : facts.Govern platform) (hw : w.session.cache.Lasting)
    (hpool : w.session.pool.refusal = none) (h : Batch platform tasks w reply w') :
    reply = .ok ((tasks.map (·.eval (facts.errand w.session.contents))).map .ok) := by
  cases h with
  | ended taken all shift =>
    rw [outcomes_eq hfacts hw all shift]
    rw [Pool.take_working hpool] at taken
    cases taken
    rw [List.map_map, List.map_map]
    refine congrArg Except.ok (List.map_congr_left ?_)
    intro task _
    exact Program.eval_bind _ task _
  | rejected taken _ =>
    rw [Pool.take_working hpool] at taken
    cases taken

end Batch

/-! ## Faithfulness -/

/-- The keeper is good to go on if what is written or read just now is not past its time. -/
abbrev Lasting (w : Workshop τ σ) : Prop :=
  w.session.cache.Lasting

/-- What the cache of the session shows now. -/
abbrev contents (w : Workshop τ σ) : Contents :=
  w.session.contents

/-- Before a single request is answered, stray work has changed nothing that can be seen. -/
theorem answers_single {r : Keeping.Request} {w w' : Workshop τ σ} {reply : Keeping.Reply r} (hw : w.Lasting)
    (hr : ∀ tasks, r ≠ .batch tasks) (h : Answers platform r w reply w') :
    ∃ m : Session τ σ, m.contents = w.contents ∧ m.cache.Lasting ∧ m.pool = w.session.pool ∧
      Session.answer platform r m = (reply, w'.session) := by
  obtain ⟨m, shift, hanswer⟩ := (answers_iff hr).1 h
  obtain ⟨hcontents, hlasting, hpool⟩ := shift.contents_eq hw
  exact ⟨m, hcontents, hlasting, hpool, hanswer⟩

/-- A request that writes nothing leaves the contents, the expiries and the pool of a session. -/
theorem answer_frame {r : Keeping.Request} {m s' : Session τ σ} {reply : Keeping.Reply r} (hm : m.cache.Lasting)
    (hr : ∀ tasks, r ≠ .batch tasks) (h : Session.answer platform r m = (reply, s')) :
    s'.cache.Lasting ∧ s'.pool = m.pool ∧ (r.isWrite = false → s'.contents = m.contents) := by
  cases r with
  | lookup key =>
    cases h
    exact ⟨hm.find? key m.clock, rfl, fun _ => funext fun other => Cache.peek?_find? hm key other m.clock⟩
  | store key x => cases h; exact ⟨hm, rfl, fun hwrite => nomatch hwrite⟩
  | invalidate key => cases h; exact ⟨hm, rfl, fun hwrite => nomatch hwrite⟩
  | batch tasks => exact absurd rfl (hr tasks)
  | _ => cases h; exact ⟨hm, rfl, fun _ => rfl⟩

/-- An answer that writes nothing leaves what a workshop shows. -/
theorem answers_frame {r : Keeping.Request} {w w' : Workshop τ σ} {reply : Keeping.Reply r} (hw : w.Lasting)
    (h : Answers platform r w reply w') : w'.Lasting ∧ (r.isWrite = false → w'.contents = w.contents) := by
  -- a batch is a shift; any other request is one answer of the session, after a shift
  by_cases hr : ∃ tasks, r = .batch tasks
  · obtain ⟨tasks, rfl⟩ := hr
    obtain ⟨hcontents, hlasting⟩ := Batch.contents_eq hw h
    exact ⟨hlasting, fun _ => hcontents⟩
  · have hsingle : ∀ tasks, r ≠ .batch tasks := fun tasks htasks => hr ⟨tasks, htasks⟩
    obtain ⟨m, hcontents, hm, -, hanswer⟩ := answers_single hw hsingle h
    obtain ⟨hlasting, -, hframe⟩ := answer_frame hm hsingle hanswer
    exact ⟨hlasting, fun hwrite => (hframe hwrite).trans hcontents⟩

/-- **A workshop answers faithfully**, whatever the platform. -/
theorem keeps (platform : Handler Inquiry σ) :
    Keeping.Keeps (@Answers τ σ _ _ _ platform) Lasting contents fun _ tasks reply =>
      ∀ outcomes, reply = .ok outcomes → outcomes.length = tasks.length where
  stays := fun hw h => (answers_frame hw h).1
  frame := fun hw h => (answers_frame hw h).2
  store := by
    intro key x w reply w' hw h
    obtain ⟨m, hcontents, hm, -, hanswer⟩ := answers_single hw (by rintro tasks ⟨⟩) h
    have hsession : { m with cache := m.cache.put key x m.clock } = w'.session := congrArg Prod.snd hanswer
    rw [← hcontents]
    unfold contents
    rw [← hsession]
    exact funext fun other => Cache.peek?_put hm key other x m.clock
  invalidate := by
    intro key w reply w' hw h
    obtain ⟨m, hcontents, -, -, hanswer⟩ := answers_single hw (by rintro tasks ⟨⟩) h
    have hsession : { m with cache := m.cache.invalidate key } = w'.session := congrArg Prod.snd hanswer
    rw [← hcontents]
    unfold contents
    rw [← hsession]
    exact funext fun other => Cache.peek?_invalidate m.cache key other m.clock
  lookup := by
    intro key w reply w' hw h
    obtain ⟨m, hcontents, -, -, hanswer⟩ := answers_single hw (by rintro tasks ⟨⟩) h
    have hreply : (m.cache.find? key m.clock).1 = reply := congrArg Prod.fst hanswer
    rw [← hreply, ← hcontents]
    exact Cache.find?_fst m.cache key m.clock
  keys := by
    intro w reply w' hw h key hkey
    obtain ⟨m, hcontents, -, -, hanswer⟩ := answers_single hw (by rintro tasks ⟨⟩) h
    have hreply : m.cache.keys m.clock = reply := congrArg Prod.fst hanswer
    rw [← hcontents] at hkey
    rw [← hreply]
    exact Cache.mem_keys_of_peek? hkey
  batch := by
    rintro tasks w reply w' - h outcomes rfl
    exact Batch.length_eq h
  length := fun h => h _ rfl

/-- **On a platform that does not change its mind** the keeper knows what tasks come to. -/
theorem keeps_of_govern {facts : Facts} (hfacts : facts.Govern platform) :
    Keeping.Keeps (@Answers τ σ _ _ _ platform) Lasting contents facts.Worked :=
  { keeps platform with
    batch := fun hw h => Batch.worked hfacts hw h
    length := fun h => (h _ rfl).length_eq.symm }

/-- The pool takes everything. -/
def Working (w : Workshop τ σ) : Prop :=
  w.session.pool.refusal = none

/-- A pool that takes everything goes on taking everything. -/
theorem Working.stays {r : Keeping.Request} {w w' : Workshop τ σ} {reply : Keeping.Reply r} (hw : w.Lasting)
    (hpool : w.Working) (h : Answers platform r w reply w') : w'.Working := by
  by_cases hr : ∃ tasks, r = .batch tasks
  · obtain ⟨tasks, rfl⟩ := hr
    have hbatch : Batch platform tasks w reply w' := h
    have hlasting : ∀ pool, (w.session.withPool pool).cache.Lasting := fun _ => hw
    cases hbatch with
    | ended taken _ shift =>
      rw [Pool.take_working hpool] at taken
      cases taken
      exact (congrArg Pool.refusal (shift.contents_eq (hlasting _)).2.2).trans hpool
    | rejected taken _ =>
      rw [Pool.take_working hpool] at taken
      cases taken
  · have hsingle : ∀ tasks, r ≠ .batch tasks := fun tasks htasks => hr ⟨tasks, htasks⟩
    obtain ⟨m, -, hm, hpool', hanswer⟩ := answers_single hw hsingle h
    exact (congrArg Pool.refusal ((answer_frame hm hsingle hanswer).2.1.trans hpool')).trans hpool

/-- **With a pool that takes everything** each task comes to what the facts and the contents say. -/
theorem keeps_of_working {facts : Facts} (hfacts : facts.Govern platform) :
    Keeping.Keeps (@Answers τ σ _ _ _ platform) (fun w => w.Lasting ∧ w.Working) contents fun c tasks reply =>
      reply = .ok ((tasks.map (·.eval (facts.errand c))).map .ok) where
  stays := fun hw h => ⟨(keeps platform).stays hw.1 h, hw.2.stays hw.1 h⟩
  frame := fun hw h => (keeps platform).frame hw.1 h
  store := fun hw h => (keeps platform).store hw.1 h
  invalidate := fun hw h => (keeps platform).invalidate hw.1 h
  lookup := fun hw h => (keeps platform).lookup hw.1 h
  keys := fun hw h => (keeps platform).keys hw.1 h
  batch := fun hw h => Batch.worked_of_working hfacts hw.1 hw.2 h
  length := by
    intro c tasks outcomes h
    cases h
    rw [List.length_map, List.length_map]

end Workshop

end Steward
