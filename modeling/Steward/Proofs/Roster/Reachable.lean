import Steward.Proofs.Roster.Reconcile
import Steward.Proofs.Roster.Upkeep

/-!
# Reachable rosters

A roster serves orders one after another: lookups, changes on the platform, cycles. Meanwhile the platform changes as it
likes, entries expire, and workers that an aborted cycle has left behind go on. `Roster.Reachable` is every state that
comes about in this way, in the midst of an order as well as between two. In all of them whatever the cache holds is
sound and stands under its own identifier, as long as the platform is honest about applications.

## Contents

* `Cache.Sound` — caches with sound entries, by operation;
* `Bustle` — a span of time in which anything may happen but to the cache;
* `Workshop.MayAnswer` — what a keeper may be answered in such times; `Workshop.Answers.mayAnswer` — the calm case;
* `Workshop.Sound` — sound entries, and workers who come to sound workloads; `Workshop.Sound.step` — it lasts;
* `Order`, `Roster.serve`, `Roster.Reachable` — orders, and the states in which they are served;
* `Roster.Reachable.live_sound` — what a reachable cache shows.
-/

namespace Steward

variable {τ σ : Type} {account : String}

/-! ## Sound caches -/

namespace Cache

/-- Every entry is sound under its key, live or not. -/
def Sound (account : String) (c : Cache τ Workload) : Prop :=
  ∀ e ∈ c.entries, e.2.value.Sound account e.1

variable {c : Cache τ Workload} {key : String}

theorem Sound.written (h : c.Sound account) {e : Entry τ Workload} (he : e.value.Sound account key) :
    Cache.Sound account { c with entries := Keyed.put c.entries key e } := by
  intro e' he'
  rcases Keyed.mem_put he' with rfl | hold
  · exact he
  · exact h e' hold

theorem Sound.put (h : c.Sound account) {w : Workload} (hw : w.Sound account key) (now : τ) :
    (c.put key w now).Sound account :=
  h.written hw

theorem Sound.invalidate (h : c.Sound account) (key : String) : (c.invalidate key).Sound account :=
  fun e he => h e (List.mem_of_mem_filter he)

/-- What is found is sound, and so is what stays. -/
theorem Sound.find [Sub τ] [LE τ] [DecidableLE τ] (h : c.Sound account) (key : String) (now : τ) :
    (∀ w, (c.find? key now).1 = some w → w.Sound account key) ∧ (c.find? key now).2.Sound account := by
  unfold Cache.find?
  cases hkey : c.entries.lookup key with
  | none =>
    refine ⟨?_, h⟩
    rintro w ⟨⟩
  | some e =>
    obtain ⟨before, after, hsplit, -⟩ := List.lookup_eq_some_iff.1 hkey
    have hmem : (key, e) ∈ c.entries := hsplit ▸ List.mem_append_right _ List.mem_cons_self
    have he : e.value.Sound account key := h _ hmem
    dsimp only
    split
    · refine ⟨?_, h.invalidate key⟩
      rintro w ⟨⟩
    · refine ⟨?_, h.written he⟩
      rintro _ ⟨⟩
      exact he

end Cache

/-! ## Spans of time -/

variable [Sub τ] [LE τ] [DecidableLE τ] {platform : Handler Inquiry σ}

/-- **A span of time.** Any of the jobs takes its next step, or anything changes but the cache, as often as anybody
likes. Among what changes are the clock, so that entries may expire, and the platform. -/
inductive Bustle (platform : Handler Inquiry σ) : List Job → Session τ σ → List Job → Session τ σ → Prop where
  | idle (jobs : List Job) (s : Session τ σ) : Bustle platform jobs s jobs s
  | work {before after jobs : List Job} {r : Errand.Request} {next : Errand.Reply r → Job}
      {s s' : Session τ σ}
      (rest : Bustle platform (before ++ next (Session.answerErrand platform r s).1 :: after)
        (Session.answerErrand platform r s).2 jobs s') :
      Bustle platform (before ++ Program.ask r next :: after) s jobs s'
  | pass {jobs jobs' : List Job} {s s' : Session τ σ} (m : Session τ σ) (kept : m.cache = s.cache)
      (rest : Bustle platform jobs m jobs' s') : Bustle platform jobs s jobs' s'

/-- A shift is a span in which nothing expires. -/
theorem Shift.bustle {jobs jobs' : List Job} {s s' : Session τ σ} (h : Shift platform jobs s jobs' s') :
    Bustle platform jobs s jobs' s' := by
  induction h with
  | idle => exact Bustle.idle _ _
  | work _ ih => exact Bustle.work ih
  | @wait _ _ s _ t _ _ ih => exact Bustle.pass { s with clock := t } rfl ih

namespace Workshop

/-- What becomes of a batch in such a span: the jobs that were taken are worked on until all have ended, or, if a
submission is rejected, they are left to themselves. -/
inductive Bout (platform : Handler Inquiry σ) (tasks : List Task) (w : Workshop τ σ) :
    Except Fault (List (Except Fault (Option Workload))) → Workshop τ σ → Prop where
  | ended {jobs : List Job} {pool : Pool} {outcomes : List (Except Fault (Option Workload))}
      {w' : Workshop τ σ} (taken : w.session.pool.take tasks = (jobs, none, pool))
      (all : outcomes.length = jobs.length)
      (span : Bustle platform (jobs ++ w.stray) (w.session.withPool pool) (Job.ended outcomes ++ w'.stray)
        w'.session) :
      Bout platform tasks w (.ok outcomes) w'
  | rejected {jobs : List Job} {f : Fault} {pool : Pool} {w' : Workshop τ σ}
      (taken : w.session.pool.take tasks = (jobs, some f, pool))
      (span : Bustle platform (jobs ++ w.stray) (w.session.withPool pool) w'.stray w'.session) :
      Bout platform tasks w (.error f) w'

/-- **What a keeper may be answered** in such times. -/
def MayAnswer (platform : Handler Inquiry σ) : Answering Keeping (Workshop τ σ)
  | .batch tasks, w, reply, w' => Bout platform tasks w reply w'
  | r, w, reply, w' =>
    ∃ m, Bustle platform w.stray w.session w'.stray m ∧ Session.answer platform r m = (reply, w'.session)

/-- What is answered while nothing expires may be answered. -/
theorem Answers.mayAnswer {r : Keeping.Request} {w w' : Workshop τ σ} {reply : Keeping.Reply r}
    (h : Answers platform r w reply w') : MayAnswer platform r w reply w' := by
  cases r with
  | batch tasks =>
    cases h with
    | ended taken all shift => exact Bout.ended taken all shift.bustle
    | rejected taken shift => exact Bout.rejected taken shift.bustle
  | _ =>
    obtain ⟨m, shift, answer⟩ := h
    exact ⟨m, shift.bustle, answer⟩

end Workshop

/-! ## Sound work -/

/-- **The platform is honest** about applications: who asks for one gets that one, if any. -/
def Honest (platform : Handler Inquiry σ) : Prop :=
  ∀ id world record, (platform (.call (.application id)) world).1 = .ok (some record) → record.guid = id

theorem Honest.replies (h : Honest platform) (r : Inquiry.Request) (world : σ) :
    Inquiry.honest.replies r (platform r world).1 := by
  cases r with
  | call c =>
    cases c with
    | application id => exact h id world
    | _ => trivial
  | report e => trivial
  | clock => trivial

/-- The job comes to a sound workload or to nothing, or to no end. -/
def Job.Sound (account : String) (job : Job) : Prop :=
  job.Meets (Errand.honest account) (Attempt.Good (IsSound account))

/-- What is answered to a worker is sound, and leaves the cache sound. -/
theorem Session.answerErrand_sound (honest : Honest platform) (r : Errand.Request) {s : Session τ σ}
    (h : s.cache.Sound account) :
    (Errand.honest account).replies r (answerErrand platform r s).1
      ∧ (answerErrand platform r s).2.cache.Sound account := by
  cases r with
  | inquiry r => exact ⟨honest.replies r s.world, h⟩
  | lookup key => exact h.find key s.clock

/-- A keeper that does its upkeep is answered well, and leaves the cache sound. Batches are for the workers. -/
theorem Session.answer_sound (honest : Honest platform) {r : Keeping.Request}
    (hr : (Keeping.honest account).asks r) (hbatch : ∀ tasks, r ≠ .batch tasks) {s : Session τ σ}
    (h : s.cache.Sound account) :
    (Keeping.honest account).replies r (answer platform r s).1 ∧ (answer platform r s).2.cache.Sound account := by
  cases r with
  | inquiry r => exact ⟨honest.replies r s.world, h⟩
  | lookup key => exact h.find key s.clock
  | store key w => exact ⟨trivial, h.put hr s.clock⟩
  | invalidate key => exact ⟨trivial, h.invalidate key⟩
  | batch tasks => exact absurd rfl (hbatch tasks)
  | _ => exact ⟨trivial, h⟩

/-- **A span of time** keeps the cache sound, and sound jobs sound. -/
theorem Bustle.sound (honest : Honest platform) {jobs jobs' : List Job} {s s' : Session τ σ}
    (h : Bustle platform jobs s jobs' s') (hjobs : ∀ job ∈ jobs, Job.Sound account job)
    (hs : s.cache.Sound account) : (∀ job ∈ jobs', Job.Sound account job) ∧ s'.cache.Sound account := by
  induction h with
  | idle => exact ⟨hjobs, hs⟩
  | @work before after _ r next s _ _ ih =>
    obtain ⟨hbefore, hrest⟩ := List.forall_mem_append.1 hjobs
    obtain ⟨hjob, hafter⟩ := List.forall_mem_cons.1 hrest
    obtain ⟨hreply, hcache⟩ := Session.answerErrand_sound honest r hs
    -- a sound job that is answered well is sound in what is left of it
    cases hjob with
    | ask _ goesOn =>
      exact ih (List.forall_mem_append.2 ⟨hbefore, List.forall_mem_cons.2 ⟨goesOn _ hreply, hafter⟩⟩) hcache
  | pass m kept _ ih =>
    refine ih hjobs ?_
    rw [kept]
    exact hs

/-- The jobs of a batch that a pool takes are as sound as its tasks. -/
theorem Pool.take_sound {tasks : List Task} (h : ∀ task ∈ tasks, task.Meets (Errand.honest account) (IsSound account))
    (p : Pool) : ∀ job ∈ (p.take tasks).1, Job.Sound account job := by
  induction tasks generalizing p with
  | nil => exact List.forall_mem_nil _
  | cons task rest ih =>
    obtain ⟨htask, hrest⟩ := List.forall_mem_cons.1 h
    have hlost : ∀ f, Job.Sound account (.done (.error f)) := fun f => Program.Meets.done (Attempt.good_error f)
    have hrun : Job.Sound account (task.bind fun w => .done (.ok w)) :=
      htask.bind fun w hw => Program.Meets.done (Attempt.good_ok hw)
    unfold take
    split
    · exact List.forall_mem_nil _
    · exact List.forall_mem_cons.2 ⟨hlost _, ih hrest _⟩
    · exact List.forall_mem_cons.2 ⟨hlost _, ih hrest _⟩
    · exact List.forall_mem_cons.2 ⟨hrun, ih hrest _⟩

namespace Workshop

/-- **All is sound**: what the cache holds, and what workers come to who were left behind. -/
structure Sound (account : String) (w : Workshop τ σ) : Prop where
  kept : w.session.cache.Sound account
  stray : ∀ job ∈ w.stray, Job.Sound account job

/-- A batch of sound tasks comes to sound workloads, and leaves all sound. -/
theorem Sound.bout (honest : Honest platform) {tasks : List Task} {w w' : Workshop τ σ}
    {reply : Except Fault (List (Except Fault (Option Workload)))} (h : w.Sound account)
    (htasks : ∀ task ∈ tasks, task.Meets (Errand.honest account) (IsSound account))
    (hbout : Bout platform tasks w reply w') :
    (Keeping.honest account).replies (.batch tasks) reply ∧ w'.Sound account := by
  have htaken : ∀ job ∈ (w.session.pool.take tasks).1 ++ w.stray, Job.Sound account job :=
    List.forall_mem_append.2 ⟨w.session.pool.take_sound htasks, h.stray⟩
  cases hbout with
  | @ended jobs pool outcomes _ taken _ span =>
    rw [taken] at htaken
    obtain ⟨hjobs, hcache⟩ := span.sound honest htaken h.kept
    obtain ⟨hended, hstray⟩ := List.forall_mem_append.1 hjobs
    refine ⟨Attempt.good_ok ?_, hcache, hstray⟩
    intro o ho
    have hjob : Job.Sound account (.done o) := hended _ (List.mem_map.2 ⟨o, ho, rfl⟩)
    cases hjob with
    | done hgood => exact hgood
  | rejected taken span =>
    rw [taken] at htaken
    obtain ⟨hstray, hcache⟩ := span.sound honest htaken h.kept
    exact ⟨Attempt.good_error _, hcache, hstray⟩

/-- **All stays sound** whatever a keeper that does its upkeep is answered, and the answer is a fair one. -/
theorem Sound.step (honest : Honest platform) {r : Keeping.Request}
    {w w' : Workshop τ σ} {reply : Keeping.Reply r} (h : w.Sound account) (hr : (Keeping.honest account).asks r)
    (answer : MayAnswer platform r w reply w') :
    (Keeping.honest account).replies r reply ∧ w'.Sound account := by
  cases r with
  | batch tasks => exact h.bout honest hr answer
  | _ =>
    obtain ⟨m, span, answer⟩ := answer
    obtain ⟨hstray, hcache⟩ := span.sound honest h.stray h.kept
    have hsound := Session.answer_sound honest hr (fun _ hbatch => nomatch hbatch) hcache
    rw [answer] at hsound
    exact ⟨hsound.1, hsound.2, hstray⟩

end Workshop

/-! ## Orders -/

/-- What may be asked of a roster. -/
inductive Order where
  | findById (id : String)
  | findByNameAndSpace (name space : String)
  | findId (name space : String)
  | appState (id : String)
  | create (name : String) (space : Space) (env : Option (List (String × Value))) (lifecycle : Option Lifecycle)
  | delete (id : String)
  | refresh (listing : List AppRecord)
  | all (spaces : Option (List String))

namespace Roster

/-- Serves an order. Whatever it comes to is handed out and not looked at here. -/
def serve (r : Roster) : Order → Attempt Keeping Unit
  | .findById id => Functor.discard (r.findById id)
  | .findByNameAndSpace name space => Functor.discard (r.findByNameAndSpace name space)
  | .findId name space => Functor.discard (r.findId name space)
  | .appState id => Functor.discard (appState id)
  | .create name space env lifecycle => Functor.discard (r.create name space env lifecycle)
  | .delete id => r.delete id
  | .refresh listing => Functor.discard (r.refresh listing)
  | .all spaces => Functor.discard (r.all spaces)

theorem meets_serve (r : Roster) (order : Order) : (r.serve order).Meets (Keeping.honest r.account) fun _ => True := by
  cases order with
  | findById id => exact (r.meets_findById id).map
  | findByNameAndSpace name space => exact (r.meets_findByNameAndSpace name space).map
  | findId name space => exact (r.meets_findId name space).map
  | appState id => exact (r.meets_appState id).map
  | create name space env lifecycle => exact (r.meets_create name space env lifecycle).map
  | delete id => exact r.meets_delete id
  | refresh listing => exact (r.meets_refresh listing).map
  | all spaces => exact (r.meets_all spaces).map

/-- **Reachable states**: a workshop, and what is left of the order that is being served. The cache is empty at first.
Once an order has ended, well or not, the next one may be taken up. -/
inductive Reachable (r : Roster) (platform : Handler Inquiry σ) :
    Workshop τ σ → Program Keeping (Except Fault Unit) → Prop where
  | empty {s : Session τ σ} (h : s.cache.entries = []) : Reachable r platform ⟨s, []⟩ (.done (.ok ()))
  | order {w : Workshop τ σ} {ended : Except Fault Unit} (before : Reachable r platform w (.done ended)) (o : Order) :
      Reachable r platform w (r.serve o).outcome
  | step {w w' : Workshop τ σ} {request : Keeping.Request} {reply : Keeping.Reply request}
      {next : Keeping.Reply request → Program Keeping (Except Fault Unit)}
      (before : Reachable r platform w (.ask request next)) (answer : Workshop.MayAnswer platform request w reply w') :
      Reachable r platform w' (next reply)
  | span {w w' : Workshop τ σ} {left : Program Keeping (Except Fault Unit)} (before : Reachable r platform w left)
      (bustle : Bustle platform w.stray w.session w'.stray w'.session) : Reachable r platform w' left

namespace Reachable

variable {r : Roster} {w w' : Workshop τ σ} {left : Program Keeping (Except Fault Unit)}

/-- All is sound in a reachable state, and what is left of an order does its upkeep. -/
theorem sound (honest : Honest platform) (h : Reachable r platform w left) :
    w.Sound r.account ∧ left.Meets (Keeping.honest r.account) (Attempt.Good fun _ => True) := by
  -- what is left belongs to the invariant: whether a store is sound depends on what was answered before it
  induction h with
  | empty h =>
    have hempty : Cache.Sound r.account _ := fun e he => by rw [h] at he; exact nomatch he
    exact ⟨⟨hempty, List.forall_mem_nil _⟩, Program.Meets.done (Attempt.good_ok trivial)⟩
  | order _ o ih => exact ⟨ih.1, (r.meets_serve o).outcome⟩
  | step _ answer ih =>
    obtain ⟨hsound, hupkeep⟩ := ih
    cases hupkeep with
    | ask hr goesOn =>
      obtain ⟨hreply, hsound'⟩ := hsound.step honest hr answer
      exact ⟨hsound', goesOn _ hreply⟩
  | span _ bustle ih =>
    obtain ⟨hstray, hcache⟩ := bustle.sound honest ih.1.stray ih.1.kept
    exact ⟨⟨hcache, hstray⟩, ih.2⟩

/-- **A reachable cache shows sound workloads only**, each under its own identifier, at any time. In particular no two
replicas of one of them have the same key. -/
theorem live_sound (honest : Honest platform) (h : Reachable r platform w left) (now : τ)
    {e : String × Entry τ Workload} (he : e ∈ w.session.cache.live now) :
    e.2.value.Sound r.account e.1 ∧ (e.2.value.replicas.map (·.key)).Nodup := by
  have hentry : e.2.value.Sound r.account e.1 := (h.sound honest).1.kept e (List.mem_of_mem_filter he)
  refine ⟨hentry, ?_⟩
  rw [List.Nodup, List.pairwise_map]
  exact hentry.ordered.imp fun hbelow => hbelow.ne

/-- Every run of what is left leads to a reachable state. -/
theorem of_runs (h : Reachable r platform w left) {t : List (Exchange Keeping)} {ended : Except Fault Unit}
    (hruns : left.Runs (Workshop.MayAnswer platform) w t ended w') : Reachable r platform w' (.done ended) := by
  induction hruns with
  | done => exact h
  | ask answer _ ih => exact ih (h.step answer)

/-- A run under the handler of keepers is such a run. -/
theorem of_run {s : Session τ σ} {stray : List Job} (h : Reachable r platform ⟨s, stray⟩ left) :
    ∃ stray', Reachable r platform ⟨(left.run (Session.answer platform) s).2, stray'⟩
      (.done (left.run (Session.answer platform) s).1) := by
  obtain ⟨t, stray', hruns⟩ := Workshop.runs_of_run platform left s stray
  obtain ⟨w, hruns, rfl⟩ := hruns.simulate (B := Workshop.MayAnswer platform) Eq
    (fun _ _ _ w' _ hw answer => ⟨w', hw ▸ answer.mayAnswer, rfl⟩) rfl
  exact ⟨stray', h.of_runs hruns⟩

end Reachable

/-- An application in a space. -/
def shopRecord : AppRecord :=
  { webApp "app-1" "STARTED" with links := [("space", ⟨none, some "space-1"⟩)] }

/-- A platform that knows one application, with a droplet and an instance of it. -/
def shopFacts : Facts where
  call
    | .application id => .ok (if id = "app-1" then some shopRecord else none)
    | .space id => .ok (some ⟨id, some "dev", none⟩)
    | .droplet _ => .ok (some ⟨"droplet-1", none, none, none, []⟩)
    | .instances _ => .ok (some (.ofList [("0", ⟨"RUNNING", 5, none, none⟩)]))
    | .process _ | .packages _ => .ok none
    | _ => .error .cancelled
  clock := .whole 100

/-- The session in which the application has been looked up, and then a cycle has run. -/
def shopSession : Session Nat Unit :=
  ((bare.serve (.refresh [shopRecord])).outcome.run (Session.answer shopFacts.platform)
    ((bare.serve (.findById "app-1")).outcome.run (Session.answer shopFacts.platform) bareSession).2).2

/-- What is cached after an application was looked up and listed, with its replica and its droplet. -/
theorem Reachable.live_sound_shop :
    Honest shopFacts.platform ∧
      ∃ e ∈ shopSession.cache.live 0, (e.2.value.replicas ≠ [] ∧ e.2.value.droplet.isSome = true) ∧
        e.2.value.Sound bare.account e.1 ∧ (e.2.value.replicas.map (·.key)).Nodup := by
  have honest : Honest shopFacts.platform := by
    intro id world record h
    have hanswer : (if id = "app-1" then some shopRecord else none) = some record := Except.ok.inj h
    split at hanswer
    case isTrue hid =>
      cases hanswer
      exact hid.symm
    case isFalse => cases hanswer
  have hnew : Reachable bare shopFacts.platform ⟨bareSession, []⟩ (.done (.ok ())) := .empty rfl
  obtain ⟨stray, hfound⟩ := (hnew.order (.findById "app-1")).of_run
  obtain ⟨stray', hlisted⟩ := (hfound.order (.refresh [shopRecord])).of_run
  have hshop : Reachable bare shopFacts.platform ⟨shopSession, stray'⟩ _ := hlisted
  have hentry : ∃ e ∈ shopSession.cache.live 0, e.2.value.replicas ≠ [] ∧ e.2.value.droplet.isSome = true := by
    decide +kernel
  obtain ⟨e, he, hfull⟩ := hentry
  exact ⟨honest, e, he, hfull, hshop.live_sound honest 0 he⟩

end Roster

end Steward
