import Mathlib.Data.List.Forall2
import Steward.Proofs.Program.Contract
import Steward.Proofs.Roster.Faithful

/-!
# What the work of a cycle comes to

Nobody knows what a platform replies, and it may change its mind from call to call. Something can be said of the work of
a cycle nevertheless. A workload that is put together has the identifier and the time of its record, whatever was read
for it; and reading the health of a cached workload fails only if the run state of the record is not known, since
replicas that cannot be read are none.

What workers look up stays the same while they work. So a task that meets the contract `Errand.showing` before the batch
has met it when the batch ends, in whatever order its steps were taken.

## Contents

* `Errand.showing` — lookups give what is shown, and anything else may be replied;
* `AppRecord.Maps`, `AppRecord.Evaluates` — what putting together and reading health come to;
* `Mapper.meets_map_of_assembled`, `Mapper.maps`, `Workload.evaluates`, `Roster.maps_remapTask`,
  `Roster.evaluates_evaluateTask` — that they do;
* `Shift.meets`, `Workshop.keeps_showing` — in a workshop.
-/

namespace Steward

open Attempt

/-! ## Contracts -/

/-- A worker that looks something up is replied what is shown. -/
def Errand.showing (c : Contents) : Contract Errand where
  asks _ := True
  replies
    | .inquiry _, _ => True
    | .lookup key, reply => reply = c key

variable {α : Type} {post : α → Prop} {c : Contents}

/-- A worker inquires as anybody does. -/
theorem Errand.meets_inquire_showing {p : Attempt Inquiry α} {post : Except Fault α → Prop}
    (h : Program.Meets (Contract.any Inquiry) post p.outcome) :
    Program.Meets (Errand.showing c) post (Errand.inquire p).outcome :=
  h.lift fun _ _ => Program.Meets.ask trivial fun _ _ => Program.Meets.done trivial

/-- Fields bound around events make no difference. -/
theorem Errand.meets_under_showing {p : Program Errand α} (h : p.Meets (Errand.showing c) post)
    (fields : List (String × Value)) : (Errand.under fields p).Meets (Errand.showing c) post := by
  refine h.lift fun r _ => ?_
  unfold Errand.requestUnder
  split
  · exact Program.Meets.ask trivial fun _ _ => Program.Meets.done trivial
  · exact Program.Meets.ask trivial fun _ hreply => Program.Meets.done hreply

/-! ## Reading health -/

/-- What reading the health of an entry by a record comes to: the entry with the run state of the record and some
replicas, none unless it is started; or nothing, if there is no entry or the run state is not known. -/
def AppRecord.Evaluates (record : AppRecord) (old result : Option Workload) : Prop :=
  match old, RunState.parse record.state with
  | some w, .ok state => ∃ replicas, result = some { w with state, replicas } ∧ (state = .stopped → replicas = [])
  | _, _ => result = none

namespace Workload

/-- Replicas that cannot be read are none. -/
theorem delivers_replicasOrNone (w : Workload) (record : AppRecord) :
    (w.replicasOrNone record).Delivers (Contract.any Inquiry) fun _ => True := by
  have hreport : ∀ level text fields,
      (Inquiry.report level text fields).Delivers (Contract.any Inquiry) fun _ => True :=
    fun _ _ _ => delivers_ofProgram (Program.meets_of_asks (fun _ => trivial) _)
  unfold replicasOrNone
  refine (delivers_settle (fun _ => trivial) w.readReplicas).bind fun replicas _ => ?_
  cases replicas with
  | ok replicas => exact (hreport _ _ _).bind fun _ _ => delivers_pure trivial
  | error f => exact (hreport _ _ _).bind fun _ _ => delivers_pure trivial

/-- **Reading health** fails only if the run state of the record is not known. -/
theorem delivers_evaluate (w : Workload) {record : AppRecord} {state : RunState}
    (h : RunState.parse record.state = .ok state) :
    (w.evaluate record).Delivers (Contract.any Inquiry) fun x =>
      ∃ replicas, x = { w with state, replicas } ∧ (state = .stopped → replicas = []) := by
  unfold evaluate
  rw [h, ofExcept_ok_bind]
  cases state with
  | started =>
    refine (delivers_replicasOrNone w record).bind fun replicas _ => ?_
    dsimp only
    rw [Facts.withHealth_started]
    exact delivers_ofExcept ⟨replicas, rfl, fun h => nomatch h⟩
  | stopped =>
    show (Attempt.ofExcept (w.withHealth .stopped []) : Attempt Inquiry Workload).Delivers _ _
    rw [Facts.withHealth_stopped]
    exact delivers_ofExcept ⟨[], rfl, fun _ => rfl⟩

theorem meets_evaluate (w : Workload) {record : AppRecord} {state : RunState}
    (h : RunState.parse record.state = .ok state) :
    (w.evaluate record).Meets (Contract.any Inquiry) fun x => ∃ replicas, x = { w with state, replicas } := by
  refine ⟨(w.delivers_evaluate h).outcome.mono ?_⟩
  rintro _ ⟨x, rfl, replicas, rfl, -⟩
  exact good_ok ⟨replicas, rfl⟩

theorem evaluates (w : Workload) (record : AppRecord) :
    Program.Meets (Contract.any Inquiry) (fun o => record.Evaluates (some w) (Facts.kept o))
      (some <$> w.evaluate record : Attempt Inquiry (Option Workload)).outcome := by
  refine outcome_map ?_
  unfold AppRecord.Evaluates
  cases hstate : RunState.parse record.state with
  | ok state =>
    refine (w.delivers_evaluate hstate).outcome.mono ?_
    rintro _ ⟨x, rfl, replicas, rfl, hreplicas⟩
    exact ⟨replicas, rfl, hreplicas⟩
  | error f =>
    unfold evaluate
    rw [hstate, ofExcept_error_bind]
    exact Program.Meets.done rfl

end Workload

/-! ## Putting together -/

/-- What putting a workload together comes to: one that has the identifier and the time of its record, or nothing. -/
def AppRecord.Maps (record : AppRecord) (result : Option Workload) : Prop :=
  ∀ w, result = some w → w.id = record.guid ∧ record.updatedMillis = .ok w.updatedTime

theorem Inquiry.meets_any (p : Attempt Inquiry α) : p.Meets (Contract.any Inquiry) fun _ => True :=
  meets_of_asks (fun _ => trivial) p

/-- What every assembled workload has, and what does not depend on its health, every mapped workload has. -/
theorem Mapper.meets_map_of_assembled (m : Mapper) {record : AppRecord} {post : Workload → Prop}
    (hassembled : ∀ found x, m.assemble record found = .ok x → post x)
    (hread : ∀ x state replicas, post x → post { x with state, replicas }) :
    (m.map record).Meets (Contract.any Inquiry) fun result => ∀ x, result = some x → post x := by
  unfold Mapper.map
  cases hstate : RunState.parse record.state with
  | error f => exact meets_throw f
  | ok state =>
    rw [ofExcept_ok_bind]
    refine (Inquiry.meets_any _).bind fun space _ => (Inquiry.meets_any _).bind fun environment _ => ?_
    cases environment with
    | refused => exact meets_pure fun w hw => nomatch hw
    | read environment =>
      refine (Inquiry.meets_any _).bind fun process _ => (Inquiry.meets_any _).bind fun droplet _ => ?_
      have hpost : (Attempt.ofExcept (m.assemble record ⟨state, space, environment, process, droplet⟩) :
          Attempt Inquiry Workload).Meets (Contract.any Inquiry) post := meets_ofExcept (hassembled _)
      refine hpost.bind fun x hx => (x.meets_evaluate hstate).bind fun y hy => meets_pure ?_
      obtain ⟨replicas, rfl⟩ := hy
      rintro _ ⟨⟩
      exact hread x state replicas hx

/-- **A workload that is put together** has the identifier and the time of its record. -/
theorem Mapper.maps (m : Mapper) (record : AppRecord) : (m.map record).Meets (Contract.any Inquiry) record.Maps :=
  m.meets_map_of_assembled (fun _ _ hx => Facts.assemble_eq_ok hx) fun _ _ _ hx => hx

/-! ## Tasks -/

namespace Roster

/-- A fault comes to nothing. -/
theorem meets_orNothing {post : Option Workload → Prop} {text : String} {record : AppRecord}
    {p : Attempt Errand (Option Workload)}
    (h : Program.Meets (Errand.showing c) (fun o => post (Facts.kept o)) p.outcome) :
    (orNothing text record p).Meets (Errand.showing c) post := by
  unfold orNothing
  refine h.bind fun o ho => ?_
  cases o with
  | ok x => exact Program.Meets.done ho
  | error f =>
    refine (Program.meets_of_asks (fun _ => trivial) _).bind fun reported _ => ?_
    cases reported with
    | ok | error => exact Program.Meets.done ho

theorem meets_remapTask (r : Roster) {record : AppRecord} {post : Workload → Prop}
    (h : (r.mapper.map record).Meets (Contract.any Inquiry) fun result => ∀ x, result = some x → post x) :
    (r.remapTask record).Meets (Errand.showing c) fun result => ∀ x, result = some x → post x := by
  refine meets_orNothing (Errand.meets_inquire_showing (h.outcome.mono ?_))
  intro o ho
  cases o with
  | ok x => exact ho x rfl
  | error f =>
    intro w hw
    cases hw

theorem maps_remapTask (r : Roster) (record : AppRecord) :
    (r.remapTask record).Meets (Errand.showing c) record.Maps :=
  r.meets_remapTask (r.mapper.maps record)

theorem evaluates_evaluateTask (record : AppRecord) :
    (evaluateTask record).Meets (Errand.showing c) (record.Evaluates (c record.guid)) := by
  unfold evaluateTask
  have hlookup : (Errand.lookup record.guid).Meets (Errand.showing c) fun found => found = c record.guid :=
    Program.Meets.ask trivial fun _ hreply => Program.Meets.done hreply
  refine hlookup.bind fun found hfound => ?_
  rw [← hfound]
  cases found with
  | none => exact Program.Meets.done rfl
  | some w => exact meets_orNothing (Errand.meets_inquire_showing (w.evaluates record))

end Roster

/-! ## Workshops -/

/-- What may become of a batch: a task that ended came to something that it had to come to. -/
def Errand.Came (c : Contents) (tasks : List Task) (reply : BatchReply) : Prop :=
  ∀ outcomes, reply = .ok outcomes →
    List.Forall₂ (fun task outcome => ∀ post, Program.Meets (Errand.showing c) post task → Good post outcome)
      tasks outcomes

/-- Lists that belong together one by one, through a third. -/
theorem forall₂_comp {α β γ : Type} {R : α → β → Prop} {S : β → γ → Prop} {T : α → γ → Prop}
    (hcomp : ∀ {x y z}, R x y → S y z → T x z) {l₁ : List α} {l₂ : List β} {l₃ : List γ} (h₁ : List.Forall₂ R l₁ l₂)
    (h₂ : List.Forall₂ S l₂ l₃) : List.Forall₂ T l₁ l₃ := by
  induction h₁ generalizing l₃ with
  | nil =>
    cases h₂
    exact List.Forall₂.nil
  | cons hfirst _ ih =>
    cases h₂ with
    | cons hnext hrest => exact List.Forall₂.cons (hcomp hfirst hnext) (ih hrest)

/-- Of what belongs to the elements of a list one by one, each of them has some. -/
theorem forall₂_exists_right {α β : Type} {R : α → β → Prop} {l : List α} {l' : List β} (h : List.Forall₂ R l l')
    {a : α} (ha : a ∈ l) : ∃ b ∈ l', R a b := by
  induction h with
  | nil => cases ha
  | cons hfirst _ ih =>
    rcases List.mem_cons.1 ha with rfl | hrest
    · exact ⟨_, List.mem_cons_self, hfirst⟩
    · obtain ⟨b, hb, hab⟩ := ih hrest
      exact ⟨b, List.mem_cons_of_mem _ hb, hab⟩

/-- And all of it belongs to some of them. -/
theorem forall₂_exists_left {α β : Type} {R : α → β → Prop} {l : List α} {l' : List β} (h : List.Forall₂ R l l')
    {b : β} (hb : b ∈ l') : ∃ a ∈ l, R a b :=
  forall₂_exists_right (List.Forall₂.flip h) hb

/-- **What the tasks of a step came to**, record by record, whatever fields were bound around their events. -/
theorem Errand.Came.forall₂ {fields : List (String × Value)} {records : List AppRecord} {task : AppRecord → Task}
    {post : AppRecord → Option Workload → Prop} {results : List (Option Workload)}
    (h : Errand.Came c ((records.map task).map (Errand.under fields)) (.ok (results.map .ok)))
    (htask : ∀ record, (task record).Meets (Errand.showing c) (post record)) : List.Forall₂ post records results := by
  have hall := h _ rfl
  rw [List.forall₂_map_left_iff, List.forall₂_map_left_iff, List.forall₂_map_right_iff] at hall
  exact hall.imp fun record result hmeets => hmeets _ (Errand.meets_under_showing (htask record) fields) result rfl

variable {τ σ : Type} [Sub τ] [LE τ] [DecidableLE τ] {platform : Handler Inquiry σ}

/-- **Jobs go on to meet the contract** while workers work. -/
theorem Shift.meets {jobs jobs' : List Job} {s s' : Session τ σ} (h : Shift platform jobs s jobs' s')
    (hs : s.cache.Lasting) :
    List.Forall₂ (fun job job' => ∀ post, Program.Meets (Errand.showing s.contents) post job →
      Program.Meets (Errand.showing s.contents) post job') jobs jobs' := by
  induction h with
  | idle => exact List.forall₂_same.2 fun _ _ _ => id
  | @work before after jobs r next s s' _ ih =>
    obtain ⟨hcontents, hlasting, -⟩ := answerErrand_frame platform hs r
    have hrest := ih hlasting
    rw [hcontents] at hrest
    -- the job that takes a step is replied what is shown
    have hreply : (Errand.showing s.contents).replies r (Session.answerErrand platform r s).1 := by
      cases r with
      | inquiry r => trivial
      | lookup key => exact Cache.find?_fst s.cache key s.clock
    have hstep : List.Forall₂ (fun job job' => ∀ post, Program.Meets (Errand.showing s.contents) post job →
        Program.Meets (Errand.showing s.contents) post job') (before ++ Program.ask r next :: after)
        (before ++ next (Session.answerErrand platform r s).1 :: after) := by
      refine List.rel_append (List.forall₂_same.2 fun _ _ _ => id)
        (List.Forall₂.cons ?_ (List.forall₂_same.2 fun _ _ _ => id))
      intro post hjob
      cases hjob with
      | ask _ goesOn => exact goesOn _ hreply
    refine forall₂_comp ?_ hstep hrest
    intro _ _ _ hfirst hnext post hx
    exact hnext post (hfirst post hx)
  | @wait _ _ s _ t ht _ ih =>
    have hrest := ih hs
    rw [Session.contents_wait ht] at hrest
    exact hrest

namespace Workshop

theorem Batch.came {tasks : List Task} {w w' : Workshop τ σ} {reply : BatchReply} (hw : w.session.cache.Lasting)
    (h : Batch platform tasks w reply w') : Errand.Came w.session.contents tasks reply := by
  rintro outcomes rfl
  cases h with
  | @ended jobs pool _ _ taken all shift =>
    have hpool : (w.session.withPool pool).cache.Lasting := hw
    have hall := List.forall₂_take jobs.length (shift.meets hpool)
    rw [List.take_left' rfl, List.take_left' (by rw [Job.ended, List.length_map, all]), Job.ended,
      List.forall₂_map_right_iff] at hall
    refine forall₂_comp ?_ (Pool.forall₂_take taken) hall
    -- what the pool has kept goes on to meet what its task meets, and what it has lost comes to no end
    rintro task job outcome (rfl | ⟨f, rfl⟩) hmeets post htask
    · have hjob : Program.Meets (Errand.showing w.session.contents) (Good post) (Task.job task) :=
        htask.bind fun x hx => Program.Meets.done (good_ok hx)
      cases hmeets _ hjob with
      | done h => exact h
    · cases hmeets (Good post) (Program.Meets.done (good_error f)) with
      | done h => exact h

/-- **A workshop answers faithfully**, and work comes to what it has to come to, whatever the platform. -/
theorem keeps_showing (platform : Handler Inquiry σ) :
    Keeping.Keeps (@Answers τ σ _ _ _ platform) Lasting contents Errand.Came :=
  { keeps platform with
    batch := fun hw h => Batch.came hw h
    length := fun h => (h _ rfl).length_eq.symm }

end Workshop

end Steward
