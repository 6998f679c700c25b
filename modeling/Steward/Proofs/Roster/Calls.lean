import Steward.Proofs.Program.Requests
import Steward.Proofs.Roster.Faithful

/-!
# What workers call

On a platform that does not change its mind, which calls a task makes is settled when its batch is handed out, as is
what it comes to. Workers that take turns in any order make these calls in any order, and no others: what was called,
with what is still to be called, is the same at the end of a shift as at its beginning, but for the order.

## Contents

* `Handler.logging`, `Session.log` — a platform that remembers what it was called for;
* `Facts.callsOf` — the calls of a worker's program; `callsOf_remapTask`, `callsOf_evaluateTask` — of a cycle's tasks;
* `Facts.calls_bind` — the calls of two programs in a row; `Facts.calls_evaluate`, `Facts.calls_map` — of reading health
  and of mapping, in closed form; `Facts.mem_calls_map` — a call of mapping;
* `Shift.log_perm` — shifts; `Workshop.Batch.log_perm` — batches whose tasks all ended;
* `Workshop.answers_log` — a keeper's requests.
-/

namespace Steward

/-! ## Calls -/

/-- The call that an inquiry makes, if it makes one. -/
def Inquiry.Request.calls : Inquiry.Request → List Call
  | .call c => [c]
  | _ => []

/-- The call that a worker's request makes, if it makes one. -/
def Errand.Request.calls : Errand.Request → List Call
  | .inquiry r => r.calls
  | .lookup _ => []

/-- The platform that remembers, besides what it remembers anyway, what it was called for. -/
def Handler.logging {σ : Type} (platform : Handler Inquiry σ) : Handler Inquiry (σ × List Call) :=
  fun r world => ((platform r world.1).1, (platform r world.1).2, world.2 ++ r.calls)

/-- What the platform of a session was called for. -/
def Session.log {τ σ : Type} (s : Session τ (σ × List Call)) : List Call :=
  s.world.2

theorem Facts.Govern.logging {facts : Facts} {σ : Type} {platform : Handler Inquiry σ} (h : facts.Govern platform) :
    facts.Govern platform.logging :=
  fun r world => h r world.1

namespace Facts

variable (facts : Facts) {α : Type}

/-- The calls of a program, in order. -/
def calls (p : Attempt Inquiry α) : List Call :=
  (p.requests facts.inquiry).flatMap Inquiry.Request.calls

/-- The calls of a worker's program, in order, while the cache shows this. -/
def callsOf (c : Contents) (p : Program Errand α) : List Call :=
  (p.requests (facts.errand c)).flatMap Errand.Request.calls

variable (c : Contents)

theorem callsOf_ask (r : Errand.Request) (next : Errand.Reply r → Program Errand α) :
    facts.callsOf c (.ask r next) = r.calls ++ facts.callsOf c (next (facts.errand c r)) := by
  unfold callsOf
  rw [Program.requests_ask, List.flatMap_cons]

theorem callsOf_bind {β : Type} (p : Program Errand α) (f : α → Program Errand β) :
    facts.callsOf c (p >>= f) = facts.callsOf c p ++ facts.callsOf c (f (p.eval (facts.errand c))) := by
  unfold callsOf
  rw [Program.requests_monad_bind, List.flatMap_append]

/-- To make a job of a task takes no call. -/
theorem callsOf_job (task : Task) : facts.callsOf c task.job = facts.callsOf c task :=
  (facts.callsOf_bind c task _).trans (List.append_nil _)

/-- A worker that inquires makes the calls of the inquiry. -/
theorem callsOf_inquire (p : Attempt Inquiry α) : facts.callsOf c (Errand.inquire p).outcome = facts.calls p := by
  have hrequests : (Errand.inquire p).outcome.requests (facts.errand c)
      = (p.requests facts.inquiry).flatMap fun r => [Errand.Request.inquiry r] :=
    Program.requests_lift facts.inquiry (facts.errand c) _ (fun _ => rfl) p.outcome
  unfold callsOf calls
  rw [hrequests, List.flatMap_assoc]
  simp [Errand.Request.calls]

/-- Fields bound around events make no difference to what is called. -/
theorem callsOf_under (fields : List (String × Value)) (p : Program Errand α) :
    facts.callsOf c (Errand.under fields p) = facts.callsOf c p := by
  have heval : ∀ r, (Errand.requestUnder fields r).eval (facts.errand c) = facts.errand c r := by
    intro r
    unfold Errand.requestUnder
    split
    · rfl
    · rfl
  have hcalls : ∀ r, ((Errand.requestUnder fields r).requests (facts.errand c)).flatMap Errand.Request.calls
      = r.calls := by
    intro r
    unfold Errand.requestUnder
    split
    · rfl
    · exact List.append_nil _
  unfold callsOf Errand.under
  rw [Program.requests_lift (facts.errand c) (facts.errand c) _ heval p, List.flatMap_assoc]
  simp only [hcalls]

/-! ## Tasks -/

/-- To report a fault takes no call. -/
theorem callsOf_orNothing (text : String) (record : AppRecord) (p : Attempt Inquiry (Option Workload)) :
    facts.callsOf c (Roster.orNothing text record (Errand.inquire p)) = facts.calls p := by
  unfold Roster.orNothing
  rw [callsOf_bind, callsOf_inquire]
  cases (Errand.inquire p).outcome.eval (facts.errand c) with
  | ok w => exact List.append_nil _
  | error f => exact List.append_nil _

theorem callsOf_remapTask (r : Roster) (record : AppRecord) :
    facts.callsOf c (r.remapTask record) = facts.calls (r.mapper.map record) :=
  facts.callsOf_orNothing c _ record _

/-- What is not cached is not called for. -/
theorem callsOf_evaluateTask (record : AppRecord) :
    facts.callsOf c (Roster.evaluateTask record)
      = (c record.guid).toList.flatMap fun w => facts.calls (w.evaluate record) := by
  unfold Roster.evaluateTask
  rw [callsOf_bind]
  have hlookup : facts.callsOf c (Errand.lookup record.guid) = [] := rfl
  have heval : (Errand.lookup record.guid).eval (facts.errand c) = c record.guid := rfl
  rw [hlookup, heval, List.nil_append]
  cases c record.guid with
  | none => rfl
  | some w =>
    have hmap : facts.calls (some <$> w.evaluate record) = facts.calls (w.evaluate record) := by
      unfold calls
      rw [Attempt.requests_map]
    simpa [hmap] using facts.callsOf_orNothing c "Failed to evaluate health" record (some <$> w.evaluate record)

end Facts

/-! ## Reading health -/

/-- Whether a record says that its application is started. -/
def AppRecord.isStarted (record : AppRecord) : Bool :=
  match RunState.parse record.state with
  | .ok .started => true
  | _ => false

namespace Facts

variable (facts : Facts)

variable {α β : Type} {p : Attempt Inquiry α} {f : α → Attempt Inquiry β}

/-- **The calls of two programs in a row** are those of the first, and those of the second if the first ends well. -/
theorem calls_bind :
    facts.calls (p >>= f) = facts.calls p ++
      match p.eval facts.inquiry with
      | .ok a => facts.calls (f a)
      | .error _ => [] := by
  unfold calls
  cases h : p.eval facts.inquiry with
  | ok a => rw [Attempt.requests_bind_of_ok h, List.flatMap_append]
  | error e => rw [Attempt.requests_bind_of_error h, List.append_nil]

/-- What follows may make no call. -/
theorem calls_bind_quiet (h : ∀ a, facts.calls (f a) = []) : facts.calls (p >>= f) = facts.calls p := by
  rw [calls_bind]
  cases p.eval facts.inquiry with
  | ok a => exact (congrArg _ (h a)).trans (List.append_nil _)
  | error e => exact List.append_nil _

theorem calls_ofExcept (e : Except Fault α) : facts.calls (.ofExcept e : Attempt Inquiry α) = [] := by
  unfold calls
  rw [Attempt.requests_ofExcept]
  rfl

theorem calls_settle : facts.calls p.settle = facts.calls p := by
  unfold calls
  rw [Attempt.requests_settle]

theorem calls_report_bind (level : Level) (text : String) (fields : List (String × Value)) (a : α) :
    facts.calls (do Inquiry.report level text fields; return a) = [] :=
  facts.calls_bind_quiet fun _ => rfl

theorem calls_readReplicas (w : Workload) : facts.calls w.readReplicas = [.instances w.id] := by
  have hclock : facts.calls Workload.nowMillis = [] := by
    refine (facts.calls_bind_quiet ?_).trans rfl
    intro seconds
    split
    · rfl
    · rfl
    · rfl
  refine (facts.calls_bind_quiet ?_).trans rfl
  intro reports
  exact (facts.calls_bind_quiet fun _ => rfl).trans hclock

/-- **Reading health** calls for the instances of a started application, once, and for nothing else. -/
theorem calls_evaluate (w : Workload) (record : AppRecord) :
    facts.calls (w.evaluate record) = if record.isStarted then [.instances w.id] else [] := by
  unfold Workload.evaluate AppRecord.isStarted
  cases RunState.parse record.state with
  | error f => rfl
  | ok state =>
    rw [Attempt.ofExcept_ok_bind]
    cases state with
    | stopped => exact (facts.calls_bind_quiet fun replicas => facts.calls_ofExcept _).trans rfl
    | started =>
      refine (facts.calls_bind_quiet fun replicas => facts.calls_ofExcept _).trans ?_
      refine (facts.calls_bind_quiet ?_).trans (facts.calls_settle.trans (facts.calls_readReplicas w))
      rintro (f | replicas)
      · exact facts.calls_report_bind _ _ _ _
      · exact facts.calls_report_bind _ _ _ _

/-! ## Putting together -/

/-- The space is called for if the record names one. -/
theorem calls_spaceOf (record : AppRecord) :
    facts.calls (Steward.spaceOf record) = record.namedSpace.toList.map .space := by
  rw [spaceOf_eq]
  cases record.namedSpace with
  | none => rfl
  | some id => rfl

theorem calls_environmentOf (record : AppRecord) :
    facts.calls (Steward.environmentOf record) = [.environment record.guid] := by
  refine (facts.calls_bind_quiet ?_).trans (facts.calls_settle.trans rfl)
  rintro (f | environment)
  · by_cases hrefusal : f.isRefusal = true
    · simp only [hrefusal, if_true]
      exact facts.calls_report_bind _ _ _ _
    · simp only [hrefusal]
      exact facts.calls_report_bind _ _ _ _
  · rfl

/-- The droplet is called for after the packages, unless these cannot be read. -/
theorem calls_dropletOf (record : AppRecord) (space : Option Space) :
    facts.calls (Steward.dropletOf record space)
      = .packages record.guid ::
        if (facts.call (.packages record.guid)).isOk then [.droplet (some record.guid)] else [] := by
  have hquiet : facts.calls (Steward.dropletOf record space) = facts.calls (readDroplet record space) := by
    refine (facts.calls_bind_quiet ?_).trans facts.calls_settle
    rintro (f | droplet)
    · exact facts.calls_report_bind _ _ _ _
    · rfl
  have hpackages : (Inquiry.call (.packages record.guid)).eval facts.inquiry = facts.call (.packages record.guid) := rfl
  rw [hquiet]
  unfold readDroplet
  rw [calls_bind, hpackages]
  cases facts.call (.packages record.guid) with
  | error f => rfl
  | ok packages => exact congrArg _ (facts.calls_bind_quiet fun droplet => rfl)

/-- **The calls of mapping in closed form.** -/
theorem calls_map (m : Mapper) (record : AppRecord) :
    facts.calls (m.map record) =
      match RunState.parse record.state with
      | .error _ => []
      | .ok state => record.namedSpace.toList.map .space ++
        match facts.spaceOf record with
        | .error _ => []
        | .ok space => .environment record.guid ::
          match facts.environmentOf record with
          | .refused => []
          | .read environment => .process record.guid ::
            match facts.call (.process record.guid) with
            | .error _ => []
            | .ok process => .packages record.guid ::
              ((if (facts.call (.packages record.guid)).isOk then [.droplet (some record.guid)] else []) ++
                match m.assemble record (facts.findings record state space environment process) with
                | .error _ => []
                | .ok w => if record.isStarted then [.instances w.id] else []) := by
  unfold Mapper.map
  rw [calls_bind, calls_ofExcept, Attempt.eval_ofExcept, List.nil_append]
  cases RunState.parse record.state with
  | error f => rfl
  | ok state =>
    dsimp only
    rw [calls_bind, calls_spaceOf, eval_spaceOf]
    cases facts.spaceOf record with
    | error f => rfl
    | ok space =>
      dsimp only
      rw [calls_bind, calls_environmentOf, eval_environmentOf]
      cases facts.environmentOf record with
      | refused => rfl
      | read environment =>
        have hprocess : (Inquiry.call (.process record.guid)).eval facts.inquiry
            = facts.call (.process record.guid) := rfl
        dsimp only
        rw [calls_bind, hprocess]
        cases facts.call (.process record.guid) with
        | error f => rfl
        | ok process =>
          dsimp only
          rw [calls_bind, calls_dropletOf, eval_dropletOf]
          dsimp only
          rw [calls_bind, calls_ofExcept, Attempt.eval_ofExcept, List.nil_append]
          unfold findings
          cases m.assemble record _ with
          | error f => rfl
          | ok w =>
            dsimp only
            rw [facts.calls_bind_quiet fun x => rfl, calls_evaluate]
            rfl

end Facts

/-- What may be called for to put a workload together, besides the instances. -/
def AppRecord.reads (record : AppRecord) : List Call :=
  record.spaceGuid.toList.map .space ++
    [.environment record.guid, .process record.guid, .packages record.guid, .droplet (some record.guid)]

namespace Facts

variable (facts : Facts)

/-- **To put a workload together** takes reads that belong to the record; if more is called for, it does not fail. -/
theorem mem_calls_map {m : Mapper} {record : AppRecord} {call : Call} (h : call ∈ facts.calls (m.map record)) :
    call ∈ record.reads ∨ (facts.remapped m record).isSome := by
  unfold remapped
  rw [calls_map] at h
  rw [mapped_eq]
  cases hstate : RunState.parse record.state with
  | error f =>
    rw [hstate] at h
    cases h
  | ok state =>
    rw [hstate] at h
    rcases List.mem_append.1 h with h | h
    · obtain ⟨id, hid, rfl⟩ := List.mem_map.1 h
      have hguid : record.spaceGuid = some id := (Option.filter_eq_some_iff.1 (Option.mem_toList.1 hid)).1
      simp [AppRecord.reads, hguid]
    cases hspace : facts.spaceOf record with
    | error f =>
      rw [hspace] at h
      cases h
    | ok space =>
      rw [hspace] at h
      rcases List.mem_cons.1 h with rfl | h
      · simp [AppRecord.reads]
      cases henvironment : facts.environmentOf record with
      | refused =>
        rw [henvironment] at h
        cases h
      | read environment =>
        rw [henvironment] at h
        rcases List.mem_cons.1 h with rfl | h
        · simp [AppRecord.reads]
        cases hprocess : facts.call (.process record.guid) with
        | error f =>
          rw [hprocess] at h
          cases h
        | ok process =>
          rw [hprocess] at h
          rcases List.mem_cons.1 h with rfl | h
          · simp [AppRecord.reads]
          rcases List.mem_append.1 h with h | h
          · split at h
            · simp [AppRecord.reads, List.mem_singleton.1 h]
            · cases h
          -- what was assembled can be evaluated, since the run state is known
          cases hassembled : m.assemble record (facts.findings record state space environment process) with
          | error f =>
            rw [hassembled] at h
            cases h
          | ok w =>
            right
            show (kept (m.assemble record (facts.findings record state space environment process) >>= _)).isSome = true
            rw [hassembled]
            rfl

end Facts

/-! ## Shifts -/

variable {τ σ : Type} [Sub τ] [LE τ] [DecidableLE τ] {platform : Handler Inquiry σ} {facts : Facts}

/-- A worker's request is remembered if it is a call. -/
theorem Session.log_answerErrand (r : Errand.Request) (s : Session τ (σ × List Call)) :
    (Session.answerErrand platform.logging r s).2.log = s.log ++ r.calls := by
  cases r with
  | inquiry r => rfl
  | lookup key => exact (List.append_nil _).symm

/-- **What was called and what is still to be called** is the same at the end of a shift, but for the order. -/
theorem Shift.log_perm (hfacts : facts.Govern platform) {jobs jobs' : List Job} {s s' : Session τ (σ × List Call)}
    (h : Shift platform.logging jobs s jobs' s') (hs : s.cache.Lasting) :
    (s'.log ++ jobs'.flatMap (facts.callsOf s.contents)).Perm (s.log ++ jobs.flatMap (facts.callsOf s.contents)) := by
  induction h with
  | idle => exact List.Perm.refl _
  | @work before after jobs r next s s' _ ih =>
    obtain ⟨hcontents, hlasting, -⟩ := answerErrand_frame platform.logging hs r
    have hrest := ih hlasting
    rw [hcontents, Session.log_answerErrand, reply_eq hfacts.logging] at hrest
    refine hrest.trans ?_
    -- the call goes from what is to be called to what was called
    simp only [List.flatMap_append, List.flatMap_cons, Facts.callsOf_ask, List.append_assoc, List.perm_append_left_iff]
    exact List.perm_append_comm_assoc _ _ _
  | @wait _ _ s _ t ht _ ih =>
    have hrest := ih hs
    rw [Session.contents_wait ht] at hrest
    exact hrest

/-! ## Batches -/

/-- A reply to a batch of which every task has ended. -/
def BatchReply.Ended (reply : BatchReply) : Prop :=
  ∃ results : List (Option Workload), reply = .ok (results.map .ok)

/-- If every job of a batch has come to something, the pool has lost none. -/
theorem Pool.take_of_ended {p pool : Pool} {tasks : List Task} {jobs : List Job} {reply : Replies Errand}
    {results : List (Option Workload)} (h : p.take tasks = (jobs, none, pool))
    (hended : jobs.map (·.eval reply) = results.map .ok) : jobs = tasks.map Task.job := by
  have hall := Pool.forall₂_take h
  clear h
  induction hall generalizing results with
  | nil => rfl
  | @cons task job tasks jobs hfirst _ ih =>
    cases results with
    | nil => cases hended
    | cons result rest =>
      obtain ⟨hhead, htail⟩ := List.cons.inj hended
      rcases hfirst with rfl | ⟨f, rfl⟩
      · rw [List.map_cons, ih htail]
      · cases hhead

namespace Workshop

/-- A batch that ended leaves as much undone as there was. -/
theorem Batch.length_stray {tasks : List Task} {w w' : Workshop τ σ}
    {outcomes : List (Except Fault (Option Workload))} (h : Batch platform tasks w (.ok outcomes) w') :
    w'.stray.length = w.stray.length := by
  cases h with
  | ended taken all shift =>
    have hlength := shift.length_eq
    rw [List.length_append, List.length_append, Job.ended, List.length_map] at hlength
    omega

/-- As long as batches end, nothing is left undone. -/
theorem answers_stray {r : Keeping.Request} {reply : Keeping.Reply r} {w w' : Workshop τ σ} (hstray : w.stray = [])
    (h : Answers platform r w reply w') (hended : ∀ answered ∈ batchReplies [⟨r, reply⟩], BatchReply.Ended answered) :
    w'.stray = [] := by
  have hlength : w'.stray.length = w.stray.length := by
    cases r with
    | batch tasks =>
      obtain ⟨results, rfl⟩ := hended reply (List.mem_singleton.2 rfl)
      exact Batch.length_stray h
    | _ =>
      obtain ⟨m, shift, -⟩ := h
      exact shift.length_eq
  rw [hstray] at hlength
  exact List.length_eq_zero_iff.1 hlength

/-- **A batch whose tasks all ended** has made their calls, in some order. -/
theorem Batch.log_perm (hfacts : facts.Govern platform) {tasks : List Task} {w w' : Workshop τ (σ × List Call)}
    {reply : BatchReply} (hw : w.Lasting) (hstray : w.stray = []) (h : Batch platform.logging tasks w reply w')
    (hended : reply.Ended) :
    reply = .ok (tasks.map fun task => .ok (task.eval (facts.errand w.contents))) ∧
      w'.session.log.Perm (w.session.log ++ tasks.flatMap (facts.callsOf w.contents)) := by
  obtain ⟨results, rfl⟩ := hended
  have hleft : w'.stray = [] := List.length_eq_zero_iff.1 (h.length_stray.trans (by rw [hstray]; rfl))
  cases h with
  | @ended jobs pool _ _ taken all shift =>
    have hpool : (w.session.withPool pool).cache.Lasting := hw
    have houtcomes := outcomes_eq hfacts.logging hw all shift
    have hjobs : jobs = tasks.map Task.job := Pool.take_of_ended taken houtcomes.symm
    constructor
    · rw [houtcomes, hjobs, List.map_map]
      refine congrArg Except.ok (List.map_congr_left ?_)
      intro task _
      exact Program.eval_bind _ task _
    · have hlog : (w'.session.log ++ (Job.ended (results.map .ok) ++ w'.stray).flatMap (facts.callsOf w.contents)).Perm
          (w.session.log ++ (jobs ++ w.stray).flatMap (facts.callsOf w.contents)) := shift.log_perm hfacts hpool
      -- what has ended makes no call any more
      have hnothing : (Job.ended (results.map .ok)).flatMap (facts.callsOf w.contents) = [] := by
        rw [Job.ended, List.flatMap_eq_nil_iff]
        intro job hjob
        obtain ⟨outcome, -, rfl⟩ := List.mem_map.1 hjob
        rfl
      rw [hleft, hstray, List.append_nil, List.append_nil, hnothing, List.append_nil, hjobs, List.flatMap_map] at hlog
      simpa only [Facts.callsOf_job] using hlog

end Workshop

/-- The calls that a keeper's request takes, those of its workers among them. -/
def Facts.callsFor (facts : Facts) (c : Contents) : Keeping.Request → List Call
  | .inquiry r => r.calls
  | .batch tasks => tasks.flatMap (facts.callsOf c)
  | _ => []

/-- **A keeper's request** takes these calls, as long as batches end. -/
theorem Workshop.answers_log (hfacts : facts.Govern platform) {r : Keeping.Request} {reply : Keeping.Reply r}
    {w w' : Workshop τ (σ × List Call)} (hw : w.Lasting) (hstray : w.stray = [])
    (h : Answers platform.logging r w reply w')
    (hended : ∀ answered ∈ batchReplies [⟨r, reply⟩], BatchReply.Ended answered) :
    w'.session.log.Perm (w.session.log ++ facts.callsFor w.contents r) := by
  by_cases hr : ∃ tasks, r = .batch tasks
  · obtain ⟨tasks, rfl⟩ := hr
    exact (Batch.log_perm hfacts hw hstray h (hended reply (List.mem_singleton.2 rfl))).2
  · obtain ⟨m, shift, hanswer⟩ := (Workshop.answers_iff fun tasks htasks => hr ⟨tasks, htasks⟩).1 h
    have hleft := answers_stray hstray h hended
    have hlog := shift.log_perm hfacts hw
    rw [hstray, hleft, List.flatMap_nil, List.append_nil, List.append_nil] at hlog
    have hsame : w'.session.log = m.log ++ facts.callsFor w.contents r := by
      have hsession : (Session.answer platform.logging r m).2 = w'.session := congrArg Prod.snd hanswer
      rw [← hsession]
      cases r with
      | inquiry r => rfl
      | batch tasks => exact absurd ⟨tasks, rfl⟩ hr
      | _ => exact (List.append_nil _).symm
    rw [hsame]
    exact hlog.append_right _

end Steward
