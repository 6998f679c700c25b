import Steward.Proofs.Cache.Calm
import Steward.Proofs.Roster.Reconcile

/-!
# The order in which workers work does not show

On a platform that does not change its mind, a keeper is a sequential program after all. As long as nothing expires, its
next answer is a function of what is held, of the pool and of the stopwatch: `Facts.consult`. What workers do meanwhile,
and in which order, plays no part, since all of it is lookups and inquiries, and a batch is committed by its keeper.

So every run of every program of a keeper comes to what it comes to by `Facts.consult`. One of these runs is the one in
which the tasks of a batch are run one after the other, as they are handed out.

## Contents

* `Board`, `Facts.consult` — what matters to a keeper, and its answers by that;
* `Shift.board_eq`, `Workshop.consult_of_answers`, `Workshop.run_consult` — workers leave it, and answers follow it;
* `Workshop.run_eq` — every run of a keeper's program comes to what the sequential one comes to;
* `Roster.refresh_schedules` — cycles;
* `Session.runBackwards` — another order, in which the last task is run first.
-/

namespace Steward

/-! ## Boards -/

/-- **What matters to a keeper**: what is held, in order, the pool and the stopwatch. -/
structure Board where
  held : List (String × Workload)
  pool : Pool
  stopwatch : Number

/-- What a board shows. -/
def Board.contents (b : Board) : Contents :=
  fun key => b.held.lookup key

/-- What becomes of a batch: each job that the pool takes comes to what the facts and the board say. -/
def Facts.handOut (facts : Facts) (tasks : List Task) (b : Board) : BatchReply × Board :=
  match b.pool.take tasks with
  | (jobs, none, pool) => (.ok (jobs.map (·.eval (facts.errand b.contents))), { b with pool })
  | (_, some f, pool) => (.error f, { b with pool })

/-- **The answers to a keeper** on a platform that does not change its mind. -/
def Facts.consult (facts : Facts) : Handler Keeping Board
  | .inquiry r, b => (facts.inquiry r, b)
  | .lookup key, b => (b.contents key, b)
  | .store key w, b => ((), { b with held := Keyed.put b.held key w })
  | .invalidate key, b => (Keyed.holds b.held key, { b with held := Keyed.erase b.held key })
  | .keys, b => (b.held.map (·.1), b)
  | .values, b => (b.held.map (·.2), b)
  | .measure _, b => ((), b)
  | .stopwatch, b => (b.stopwatch, b)
  | .batch tasks, b => facts.handOut tasks b

variable {τ σ : Type} [Sub τ] [LE τ] [DecidableLE τ] {platform : Handler Inquiry σ} {facts : Facts}

/-! ## Sessions -/

namespace Session

omit [Sub τ] [LE τ] [DecidableLE τ] in
/-- What matters of a session to its keeper. -/
def board (s : Session τ σ) : Board :=
  ⟨s.cache.held, s.pool, s.stopwatch⟩

/-- Nothing expires in the cache of a session. -/
abbrev Calm (s : Session τ σ) : Prop :=
  s.cache.Calm s.clock

theorem Calm.contents_eq {s : Session τ σ} (h : s.Calm) : s.contents = s.board.contents :=
  funext h.peek?_eq

/-- A worker's request leaves the board. -/
theorem Calm.answerErrand {s : Session τ σ} (h : s.Calm) (platform : Handler Inquiry σ) (r : Errand.Request) :
    (Session.answerErrand platform r s).2.board = s.board ∧ (Session.answerErrand platform r s).2.Calm := by
  cases r with
  | inquiry r => exact ⟨rfl, h⟩
  | lookup key =>
    refine ⟨?_, h.find? key⟩
    show (⟨(s.cache.find? key s.clock).2.held, s.pool, s.stopwatch⟩ : Board) = _
    rw [h.held_find? key]
    rfl

/-- A session answers a keeper by its board, if it is not about a batch. -/
theorem Calm.answer {s : Session τ σ} (h : s.Calm) (hfacts : facts.Govern platform) {r : Keeping.Request}
    (hr : ∀ tasks, r ≠ .batch tasks) :
    facts.consult r s.board = ((Session.answer platform r s).1, (Session.answer platform r s).2.board) ∧
      (Session.answer platform r s).2.Calm := by
  cases r with
  | inquiry r => exact ⟨congrArg (·, s.board) (hfacts r s.world).symm, h⟩
  | lookup key =>
    have hreply : (s.cache.find? key s.clock).1 = s.board.contents key :=
      (Cache.find?_fst _ _ _).trans (h.peek?_eq key)
    obtain ⟨hboard, hcalm⟩ := h.answerErrand platform (.lookup key)
    exact ⟨Prod.ext hreply.symm hboard.symm, hcalm⟩
  | store key w =>
    refine ⟨Prod.ext rfl ?_, h.put key w⟩
    exact congrArg (Board.mk · s.pool s.stopwatch) (Cache.held_put _ _ _ _).symm
  | invalidate key =>
    refine ⟨Prod.ext (Cache.holds_eq _ _).symm ?_, h.invalidate key⟩
    exact congrArg (Board.mk · s.pool s.stopwatch) (Cache.held_invalidate _ _).symm
  | keys => exact ⟨Prod.ext h.keys_eq.symm rfl, h⟩
  | values => exact ⟨Prod.ext h.values_eq.symm rfl, h⟩
  | measure m => exact ⟨rfl, h⟩
  | stopwatch => exact ⟨rfl, h⟩
  | batch tasks => exact absurd rfl (hr tasks)

end Session

/-- **Whatever workers do, the board stays.** -/
theorem Shift.board_eq {jobs jobs' : List Job} {s s' : Session τ σ} (h : Shift platform jobs s jobs' s')
    (hs : s.Calm) : s'.board = s.board ∧ s'.Calm := by
  induction h with
  | idle => exact ⟨rfl, hs⟩
  | @work _ _ _ r _ s _ _ ih =>
    obtain ⟨hboard, hcalm⟩ := hs.answerErrand platform r
    obtain ⟨hrest, hcalm'⟩ := ih hcalm
    exact ⟨hrest.trans hboard, hcalm'⟩
  | wait t ht _ ih => exact ih (hs.later ht)

/-! ## Workshops -/

namespace Workshop

/-- What matters of a workshop to its keeper. -/
abbrev board (w : Workshop τ σ) : Board :=
  w.session.board

/-- Nothing expires in the cache of a workshop. -/
abbrev Calm (w : Workshop τ σ) : Prop :=
  w.session.Calm

variable {w w' : Workshop τ σ}

/-- A batch comes to what the board says, and leaves what is held. -/
theorem Batch.consult (hfacts : facts.Govern platform) (hw : w.Calm) {tasks : List Task} {reply : BatchReply}
    (h : Batch platform tasks w reply w') :
    facts.consult (.batch tasks) w.board = (reply, w'.board) ∧ w'.Calm := by
  cases h with
  | @ended jobs pool outcomes _ taken all shift =>
    have hpool : (w.session.withPool pool).Calm := hw
    obtain ⟨hboard, hcalm⟩ := shift.board_eq hpool
    have houtcomes := outcomes_eq hfacts hw.lasting all shift
    rw [hw.contents_eq] at houtcomes
    have htaken : w.board.pool.take tasks = (jobs, none, pool) := taken
    refine ⟨?_, hcalm⟩
    show facts.handOut tasks w.board = _
    unfold Facts.handOut
    rw [htaken, houtcomes]
    exact Prod.ext rfl hboard.symm
  | @rejected jobs f pool _ taken shift =>
    have hpool : (w.session.withPool pool).Calm := hw
    obtain ⟨hboard, hcalm⟩ := shift.board_eq hpool
    have htaken : w.board.pool.take tasks = (jobs, some f, pool) := taken
    refine ⟨?_, hcalm⟩
    show facts.handOut tasks w.board = _
    unfold Facts.handOut
    rw [htaken]
    exact Prod.ext rfl hboard.symm

/-- Before a single request is answered, stray work has left the board. -/
theorem answers_calm {r : Keeping.Request} {reply : Keeping.Reply r} (hw : w.Calm) (hr : ∀ tasks, r ≠ .batch tasks)
    (h : Answers platform r w reply w') :
    ∃ m : Session τ σ, m.board = w.board ∧ m.Calm ∧ Session.answer platform r m = (reply, w'.session) := by
  obtain ⟨m, shift, hanswer⟩ := (answers_iff hr).1 h
  obtain ⟨hboard, hm⟩ := shift.board_eq hw
  exact ⟨m, hboard, hm, hanswer⟩

/-- **A workshop answers by its board**, whatever its workers do. -/
theorem consult_of_answers (hfacts : facts.Govern platform) (hw : w.Calm) {r : Keeping.Request}
    {reply : Keeping.Reply r} (h : Answers platform r w reply w') :
    facts.consult r w.board = (reply, w'.board) ∧ w'.Calm := by
  by_cases hr : ∃ tasks, r = .batch tasks
  · obtain ⟨tasks, rfl⟩ := hr
    exact Batch.consult hfacts hw h
  · have hsingle : ∀ tasks, r ≠ .batch tasks := fun tasks htasks => hr ⟨tasks, htasks⟩
    obtain ⟨m, hboard, hm, hanswer⟩ := answers_calm hw hsingle h
    have hconsult := hm.answer hfacts hsingle
    rw [hanswer, hboard] at hconsult
    exact hconsult

/-- **A keeper's program runs by the board.** -/
theorem run_consult {α : Type} (hfacts : facts.Govern platform) {p : Program Keeping α}
    {t : List (Exchange Keeping)} {a : α} (h : p.Runs (Answers platform) w t a w') (hw : w.Calm) :
    p.run facts.consult w.board = (a, w'.board) ∧ w'.Calm := by
  induction h with
  | done a w => exact ⟨rfl, hw⟩
  | ask answer _ ih =>
    obtain ⟨hconsult, hm⟩ := consult_of_answers hfacts hw answer
    rw [Program.run_ask, hconsult]
    exact ih hm

/-- **Every run of a keeper's program** comes to what the run comes to in which tasks are run one after the other, and
leaves the same board. -/
theorem run_eq {α : Type} (hfacts : facts.Govern platform) {p : Program Keeping α} {t : List (Exchange Keeping)}
    {a : α} (h : p.Runs (Answers platform) w t a w') (hw : w.Calm) :
    a = (p.run (Session.answer platform) w.session).1 ∧
      w'.board = (p.run (Session.answer platform) w.session).2.board := by
  obtain ⟨t', left, hsequential⟩ := runs_of_run platform p w.session w.stray
  obtain ⟨hrun, -⟩ := run_consult hfacts h hw
  obtain ⟨hrun', -⟩ := run_consult hfacts hsequential hw
  exact Prod.mk.inj (hrun.symm.trans hrun')

end Workshop

/-! ## Cycles -/

namespace Roster

/-- **The order in which workers work does not show.** On a platform that does not change its mind, and as long as
nothing expires, a cycle ends in one way and leaves one cache, whatever steps its workers, and those who were left
behind by an earlier batch, take in whatever order: it ends as the cycle does that runs one task after the other in
the order of the listing, and leaves the same values under the same keys in the same order. -/
theorem refresh_schedules (hfacts : facts.Govern platform) (r : Roster) (listing : List AppRecord)
    {w : Workshop τ σ} (hw : w.Calm) :
    (∃ t left, Attempt.Runs (Workshop.Answers platform) (r.refresh listing) w t
        ((r.refresh listing).run (Session.answer platform) w.session).1
        ⟨((r.refresh listing).run (Session.answer platform) w.session).2, left⟩) ∧
      ∀ t o w', Attempt.Runs (Workshop.Answers platform) (r.refresh listing) w t o w' →
        o = ((r.refresh listing).run (Session.answer platform) w.session).1 ∧
          w'.session.cache.held = ((r.refresh listing).run (Session.answer platform) w.session).2.cache.held ∧
          w'.contents = ((r.refresh listing).run (Session.answer platform) w.session).2.contents := by
  obtain ⟨t, left, hsequential⟩ :=
    Workshop.runs_of_run platform (r.refresh listing).outcome w.session w.stray
  refine ⟨⟨t, left, hsequential⟩, ?_⟩
  intro t' o w' h
  obtain ⟨ho, hboard⟩ := Workshop.run_eq hfacts h hw
  have hcalm := (Workshop.run_consult hfacts h hw).2
  have hcalm' := (Workshop.run_consult hfacts hsequential hw).2
  exact ⟨ho, congrArg Board.held hboard,
    hcalm.contents_eq.trans ((congrArg Board.contents hboard).trans hcalm'.contents_eq.symm)⟩

end Roster

/-! ## The last task first -/

namespace Session

/-- Runs tasks one after the other, the last one first. -/
def runBackwards (platform : Handler Inquiry σ) :
    List Task → Session τ σ → List (Option Workload) × Session τ σ
  | [], s => ([], s)
  | task :: rest, s =>
    let (results, s) := runBackwards platform rest s
    let (result, s) := task.run (answerErrand platform) s
    (result :: results, s)

/-- Answers a keeper whose pool takes everything, and takes up the last task first. -/
def answerBackwards (platform : Handler Inquiry σ) : Handler Keeping (Session τ σ)
  | .batch tasks, s => (.ok ((s.runBackwards platform tasks).1.map .ok), (s.runBackwards platform tasks).2)
  | r, s => answer platform r s

theorem length_runBackwards (platform : Handler Inquiry σ) (tasks : List Task) (s : Session τ σ) :
    (s.runBackwards platform tasks).1.length = tasks.length := by
  induction tasks with
  | nil => rfl
  | cons task rest ih => exact congrArg Nat.succ ih

/-- The last task first is one of the orders. -/
theorem shift_runBackwards (platform : Handler Inquiry σ) (tasks : List Task) (s : Session τ σ) :
    Shift platform (tasks.map Task.job) s (Job.ended ((s.runBackwards platform tasks).1.map .ok))
      (s.runBackwards platform tasks).2 := by
  induction tasks with
  | nil => exact Shift.idle _ _
  | cons task rest ih =>
    have hrest := ih.frame [task.job] []
    have hfirst := Shift.run_job platform task.job (s.runBackwards platform rest).2
    unfold Task.job at hfirst
    rw [Program.run_bind] at hfirst
    have hall := hfirst.frame [] (Job.ended ((s.runBackwards platform rest).1.map .ok))
    rw [List.append_nil, List.append_nil] at hrest
    exact hrest.trans hall

/-- The last task first is one of the ways to answer a keeper. -/
theorem answers_of_answerBackwards (platform : Handler Inquiry σ) (r : Keeping.Request) {s : Session τ σ}
    (hpool : s.pool.refusal = none) :
    Workshop.Answers platform r ⟨s, []⟩ (s.answerBackwards platform r).1 ⟨(s.answerBackwards platform r).2, []⟩ := by
  cases r with
  | batch tasks =>
    have hshift := (shift_runBackwards platform tasks s).frame [] []
    refine Workshop.Batch.ended (Pool.take_working hpool tasks) ?_ hshift
    rw [List.length_map, List.length_map, length_runBackwards]
  | _ => exact ⟨s, Shift.idle _ _, rfl⟩

/-- A run in which the last task is run first is a run in the workshop. -/
theorem runs_of_runBackwards {α : Type} (platform : Handler Inquiry σ) (p : Program Keeping α) {s : Session τ σ}
    (hlasting : s.cache.Lasting) (hpool : s.pool.refusal = none) :
    ∃ t, p.Runs (Workshop.Answers platform) ⟨s, []⟩ t (p.run (answerBackwards platform) s).1
      ⟨(p.run (answerBackwards platform) s).2, []⟩ := by
  have h := Program.Runs.of_run (answerBackwards platform) p s
  have hsim : ∀ r (s : Session τ σ) reply s' (w : Workshop τ σ), w = ⟨s, []⟩ ∧ w.Lasting ∧ w.Working →
      (answerBackwards platform).answering r s reply s' →
      ∃ w', Workshop.Answers platform r w reply w' ∧ w' = ⟨s', []⟩ ∧ w'.Lasting ∧ w'.Working := by
    rintro r s reply s' _ ⟨rfl, hw, hworking⟩ hanswer
    have hanswer : answerBackwards platform r s = (reply, s') := hanswer
    have hanswers := answers_of_answerBackwards platform r hworking
    rw [hanswer] at hanswers
    exact ⟨_, hanswers, rfl, (Workshop.keeps platform).stays hw hanswers, hworking.stays hw hanswers⟩
  obtain ⟨_, hruns, rfl, -, -⟩ := h.simulate _ hsim ⟨rfl, hlasting, hpool⟩
  exact ⟨_, hruns⟩

end Session

/-- A platform that remembers whose environments it was asked for. -/
def Facts.tracing (facts : Facts) : Handler Inquiry (List String) :=
  fun r trace => (facts.inquiry r, match r with
    | .call (.environment id) => trace ++ [id]
    | _ => trace)

namespace Roster

/-- A session that knows of nothing, on a platform that has not been asked for anything. -/
def tracedSession : Session Nat (List String) :=
  ⟨⟨none, none, []⟩, 0, ⟨"acct", false⟩, .empty, .whole 0, .working, []⟩

/-- A listing of two applications. -/
def webApps : List AppRecord :=
  [webApp "app-1" "STARTED", webApp "app-2" "STOPPED"]

/-- A cycle in which two new applications are put together in the order of the listing, and one in which the second is
put together first, come to the same. -/
theorem refresh_schedules_backwards :
    ∃ t o w t' o' w',
      Attempt.Runs (Workshop.Answers (Facts.alone (webApp "app-1" "STARTED")).tracing) (bare.refresh webApps)
        ⟨tracedSession, []⟩ t o w ∧
      Attempt.Runs (Workshop.Answers (Facts.alone (webApp "app-1" "STARTED")).tracing) (bare.refresh webApps)
        ⟨tracedSession, []⟩ t' o' w' ∧
      w.session.world = ["app-1", "app-2"] ∧ w'.session.world = ["app-2", "app-1"] ∧
      o = o' ∧ w.session.cache.held = w'.session.cache.held := by
  have hfacts : (Facts.alone (webApp "app-1" "STARTED")).Govern (Facts.alone (webApp "app-1" "STARTED")).tracing :=
    fun _ _ => rfl
  have hcalm : (⟨tracedSession, []⟩ : Workshop Nat (List String)).Calm := Cache.calm_of_never rfl rfl _
  obtain ⟨⟨t, left, h⟩, hall⟩ := refresh_schedules hfacts bare webApps hcalm
  obtain ⟨t', h'⟩ := Session.runs_of_runBackwards (Facts.alone (webApp "app-1" "STARTED")).tracing
    (bare.refresh webApps).outcome hcalm.lasting rfl
  have hforwards : ((bare.refresh webApps).run (Session.answer (Facts.alone (webApp "app-1" "STARTED")).tracing)
      tracedSession).2.world = ["app-1", "app-2"] := by
    decide +kernel
  have hbackwards : ((bare.refresh webApps).outcome.run
      (Session.answerBackwards (Facts.alone (webApp "app-1" "STARTED")).tracing) tracedSession).2.world
      = ["app-2", "app-1"] := by
    decide +kernel
  dsimp only at h hall
  generalize (bare.refresh webApps).run (Session.answer (Facts.alone (webApp "app-1" "STARTED")).tracing)
    tracedSession = forwards at h hall hforwards
  generalize (bare.refresh webApps).outcome.run
    (Session.answerBackwards (Facts.alone (webApp "app-1" "STARTED")).tracing) tracedSession = backwards
    at h' hbackwards
  obtain ⟨ho, hheld, -⟩ := hall _ _ _ h'
  exact ⟨t, _, _, t', _, _, h, h', hforwards, hbackwards, ho.symm, hheld.symm⟩

end Roster

end Steward
