import Steward.Proofs.Roster.Calls
import Steward.Proofs.Roster.Schedules
import Steward.Proofs.Roster.Abort

/-!
# Cycles that change nothing

A keeper changes nothing that is held if it stores only what is there already, and drops only what is not there. While
that is so, each of its requests has one reply, and takes certain calls: what the keeper comes to, and what the platform
is called for, can be read off the program. `Keeping.Idles` says so of a program, and it holds of a whole run, whatever
its workers do in between.

A cycle is such a program if all that is held is listed, no stale record can be put together, and reading health comes
to what is held.

## Contents

* `Facts.repose`, `Contents.Spares` — the replies to a keeper that changes nothing, and its requests;
* `Workshop.Rests` — a workshop at rest; `Rests.step`, `Rests.run` — it stays at rest, and what is called meanwhile;
* `Keeping.Idles` — programs that change nothing, with a lemma for each step of a cycle;
* `Roster.idles_refresh` — cycles.
-/

namespace Steward

/-! ## Boards at rest -/

/-- The board with a pool that takes everything. -/
def Board.willing (b : Board) : Board :=
  { b with pool := .working }

theorem Board.held_of_willing {b b' : Board} (h : b.willing = b'.willing) : b.held = b'.held :=
  (Board.mk.inj h).1

theorem Board.contents_of_willing {b b' : Board} (h : b.willing = b'.willing) : b.contents = b'.contents := by
  unfold Board.contents
  rw [Board.held_of_willing h]

/-- The request changes nothing that is held. -/
def Contents.Spares (c : Contents) : Keeping.Request → Prop
  | .store key w => c key = some w
  | .invalidate key => c key = none
  | _ => True

namespace Facts

/-- The replies to a keeper that changes nothing, if batches end. -/
def repose (facts : Facts) (b : Board) : Replies Keeping :=
  fun r => (facts.consult r b.willing).1

variable {facts : Facts} {b : Board}

/-- A pool that takes everything ends everything. -/
theorem repose_batch (tasks : List Task) :
    facts.repose b (.batch tasks) = .ok (tasks.map fun task => .ok (task.eval (facts.errand b.contents))) := by
  show (facts.handOut tasks b.willing).1 = _
  unfold handOut
  have htaken : b.willing.pool.take tasks = (tasks.map Task.job, none, b.willing.pool) := Pool.take_working rfl tasks
  rw [htaken]
  dsimp only
  rw [List.map_map]
  refine congrArg Except.ok (List.map_congr_left ?_)
  intro task _
  exact Program.eval_bind _ task _

/-- A request that changes nothing gets its reply, and leaves the board. -/
theorem consult_of_spares {r : Keeping.Request} (h : b.contents.Spares r) (hr : ∀ tasks, r ≠ .batch tasks) :
    facts.consult r b = (facts.repose b r, b) := by
  cases r with
  | store key w =>
    have hput : Keyed.put b.held key w = b.held := Keyed.put_of_lookup h
    exact Prod.ext rfl (congrArg (Board.mk · b.pool b.stopwatch) hput)
  | invalidate key =>
    have herase : Keyed.erase b.held key = b.held := Keyed.erase_of_lookup h
    exact Prod.ext rfl (congrArg (Board.mk · b.pool b.stopwatch) herase)
  | batch tasks => exact absurd rfl (hr tasks)
  | _ => rfl

theorem handOut_willing (tasks : List Task) : (facts.handOut tasks b).2.willing = b.willing := by
  unfold handOut
  split
  · rfl
  · rfl

end Facts

/-! ## Workshops at rest -/

namespace Workshop

variable {τ σ : Type} [Sub τ] [LE τ] [DecidableLE τ] {platform : Handler Inquiry σ} {facts : Facts} {b : Board}

/-- **A workshop at rest**: nothing expires, nothing is left undone, and the board is this one, whatever the pool. -/
structure Rests (w : Workshop τ σ) (b : Board) : Prop where
  calm : w.Calm
  done : w.stray = []
  board : w.board.willing = b.willing

namespace Rests

variable {w w' : Workshop τ (σ × List Call)}

theorem contents_eq (h : w.Rests b) : w.contents = b.contents :=
  h.calm.contents_eq.trans (Board.contents_of_willing h.board)

theorem repose_eq (h : w.Rests b) : facts.repose w.board = facts.repose b := by
  unfold Facts.repose
  rw [h.board]

/-- **A request that changes nothing** gets its reply and takes its calls, if batches end, and leaves the workshop at
rest. -/
theorem step (hfacts : facts.Govern platform) {r : Keeping.Request} {reply : Keeping.Reply r} (h : w.Rests b)
    (hspares : b.contents.Spares r) (answer : Answers platform.logging r w reply w')
    (hended : ∀ answered ∈ batchReplies [⟨r, reply⟩], BatchReply.Ended answered) :
    reply = facts.repose b r ∧ w'.Rests b ∧
      w'.session.log.Perm (w.session.log ++ facts.callsFor b.contents r) := by
  have hlog := answers_log hfacts h.calm.lasting h.done answer hended
  have hdone := answers_stray h.done answer hended
  obtain ⟨hconsult, hcalm⟩ := consult_of_answers hfacts.logging h.calm answer
  rw [h.contents_eq] at hlog
  by_cases hr : ∃ tasks, r = .batch tasks
  · obtain ⟨tasks, rfl⟩ := hr
    have hboard : (facts.handOut tasks w.board).2 = w'.board := congrArg Prod.snd hconsult
    have hreply := (Batch.log_perm hfacts h.calm.lasting h.done answer (hended reply (List.mem_singleton.2 rfl))).1
    rw [h.contents_eq, ← Facts.repose_batch] at hreply
    exact ⟨hreply, ⟨hcalm, hdone, by rw [← hboard, Facts.handOut_willing, h.board]⟩, hlog⟩
  · have hcontents : w.board.contents = b.contents := Board.contents_of_willing h.board
    rw [← hcontents] at hspares
    rw [Facts.consult_of_spares hspares fun tasks htasks => hr ⟨tasks, htasks⟩, h.repose_eq] at hconsult
    obtain ⟨hreply, hboard⟩ := Prod.mk.inj hconsult
    exact ⟨hreply.symm, ⟨hcalm, hdone, by rw [← hboard, h.board]⟩, hlog⟩

/-- **A program that changes nothing** comes to what its replies come to, and takes the calls of its requests. -/
theorem run {α : Type} (hfacts : facts.Govern platform) {p : Program Keeping α} {t : List (Exchange Keeping)} {a : α}
    (runs : p.Runs (Answers platform.logging) w t a w') (h : w.Rests b)
    (hspares : ∀ r ∈ p.requests (facts.repose b), b.contents.Spares r)
    (hended : ∀ answered ∈ batchReplies t, BatchReply.Ended answered) :
    a = p.eval (facts.repose b) ∧ w'.Rests b ∧
      w'.session.log.Perm
        (w.session.log ++ (p.requests (facts.repose b)).flatMap (facts.callsFor b.contents)) := by
  induction runs with
  | done a w =>
    refine ⟨rfl, h, ?_⟩
    rw [Program.requests_done, List.flatMap_nil, List.append_nil]
  | @ask r next w m w' reply t a answer _ ih =>
    rw [Program.requests_ask] at hspares ⊢
    obtain ⟨hfirst, hothers⟩ := List.forall_mem_cons.1 hspares
    rw [Keeping.batchReplies_cons] at hended
    obtain ⟨rfl, hm, hlog⟩ := h.step hfacts hfirst answer fun answered hmem =>
      hended answered (List.mem_append_left _ hmem)
    obtain ⟨ha, hw', hlog'⟩ := ih hm hothers fun answered hmem => hended answered (List.mem_append_right _ hmem)
    refine ⟨ha, hw', hlog'.trans ?_⟩
    rw [List.flatMap_cons, ← List.append_assoc]
    exact hlog.append_right _

end Rests

/-- As long as batches end, a run leaves nothing undone. -/
theorem stray_of_runs {α : Type} {p : Program Keeping α} {t : List (Exchange Keeping)} {a : α} {w w' : Workshop τ σ}
    (runs : p.Runs (Answers platform) w t a w') (hdone : w.stray = [])
    (hended : ∀ answered ∈ batchReplies t, BatchReply.Ended answered) : w'.stray = [] := by
  induction runs with
  | done a w => exact hdone
  | @ask r next w m w' reply t a answer _ ih =>
    rw [Keeping.batchReplies_cons] at hended
    refine ih (answers_stray hdone answer ?_) ?_
    · exact fun answered hmem => hended answered (List.mem_append_left _ hmem)
    · exact fun answered hmem => hended answered (List.mem_append_right _ hmem)

end Workshop

/-! ## Programs that change nothing -/

/-- **A keeper's program that changes nothing** on a board, comes to this result and takes these calls. -/
abbrev Keeping.Idles {α : Type} (facts : Facts) (b : Board) (p : Attempt Keeping α) (a : α) (calls : List Call) :
    Prop :=
  p.Performs (facts.repose b) b.contents.Spares (facts.callsFor b.contents) a calls

/-- What reading the health of a record's entry comes to. -/
def Facts.reread (facts : Facts) (c : Contents) (record : AppRecord) : Option Workload :=
  (c record.guid).bind fun w => (facts.evaluated w record).toOption

namespace Roster

open Keeping Attempt

variable {facts : Facts} {b : Board} {listing : List AppRecord}

theorem idles_ask {r : Keeping.Request} (h : b.contents.Spares r) :
    Idles facts b (ask r) (facts.repose b r) (facts.callsFor b.contents r) :=
  performs_request h

/-- A report changes nothing and takes no call. -/
theorem idles_report (level : Level) (text : String) (fields : List (String × Value)) :
    Idles facts b (Keeping.report level text fields) () [] := by
  rw [report_eq]
  exact idles_ask (r := .inquiry _) trivial

/-- If all that is held is listed, nothing is evicted. -/
theorem idles_evict (h : ∀ key ∈ b.held.map (·.1), listing.any (·.guid = key) = true) :
    Idles facts b (evict listing) [] [] := by
  have hgone : (b.held.map (·.1)).filter (fun key => !listing.any (·.guid = key)) = [] := by
    rw [List.filter_eq_nil_iff]
    intro key hkey
    simp [h key hkey]
  have hkeys : Idles facts b (ask .keys) (b.held.map (·.1)) [] := idles_ask (r := .keys) trivial
  unfold evict
  refine hkeys.next ?_
  rw [hgone]
  exact (performs_pure ()).next (performs_pure [])

/-- To tell whether a record is stale changes nothing. -/
theorem idles_isStale {record : AppRecord}
    (h : ∀ w f, b.contents record.guid = some w → record.updatedMillis ≠ .error f) :
    Idles facts b (isStale record) (record.isStale (b.contents record.guid)) [] := by
  have hlookup : Idles facts b (ask (.lookup record.guid)) (b.contents record.guid) [] :=
    idles_ask (r := .lookup record.guid) trivial
  unfold isStale
  refine hlookup.next ?_
  cases hfound : b.contents record.guid with
  | none => exact (idles_report _ _ _).next (performs_pure true)
  | some w =>
    cases hmillis : record.updatedMillis with
    | error f => exact absurd hmillis (h w f hfound)
    | ok millis =>
      refine (performs_ofExcept millis).next ?_
      rw [AppRecord.isStale_some hmillis]
      by_cases hsame : w.updatedTime = millis
      · rw [if_pos hsame, decide_eq_false (not_not_intro hsame)]
        exact performs_pure false
      · rw [if_neg hsame, decide_eq_true hsame]
        exact (idles_report _ _ _).next (performs_pure true)

theorem idles_staleOf (h : b.contents.Tells listing) :
    Idles facts b (staleOf listing) (b.contents.stale listing) [] := by
  induction listing with
  | nil => exact performs_pure []
  | cons record rest ih =>
    obtain ⟨hfirst, hrest⟩ := List.forall_mem_cons.1 h
    unfold staleOf Contents.stale
    rw [List.filter_cons]
    exact (idles_isStale hfirst).next ((ih hrest).next (performs_pure _))

/-- A batch takes the calls of its tasks. -/
theorem idles_fanOut (tasks : List Task) :
    Idles facts b (fanOut tasks) (tasks.map (·.eval (facts.errand b.contents)))
      (tasks.flatMap (facts.callsOf b.contents)) := by
  have hresults : resultsOf (tasks.map fun task => .ok (task.eval (facts.errand b.contents)))
      = .ok (tasks.map (·.eval (facts.errand b.contents))) := by
    rw [resultsOf_eq_ok, List.map_map]
    rfl
  have hbatch : Idles facts b (ask (.batch tasks)) (facts.repose b (.batch tasks))
      (tasks.flatMap (facts.callsOf b.contents)) := idles_ask trivial
  unfold fanOut
  refine hbatch.bind_free ?_
  rw [Facts.repose_batch]
  dsimp only
  rw [hresults]
  exact performs_ofExcept _

/-- If no record has come to a workload, nothing is stored. -/
theorem idles_commitRemapped {pairs : List (AppRecord × Option Workload)} (h : ∀ pair ∈ pairs, pair.2 = none) :
    Idles facts b (commitRemapped pairs) ([], pairs.map (·.1.guid)) [] := by
  induction pairs with
  | nil => exact performs_pure _
  | cons pair rest ih =>
    obtain ⟨record, result⟩ := pair
    obtain ⟨hfirst, hrest⟩ := List.forall_mem_cons.1 h
    obtain rfl : result = none := hfirst
    unfold commitRemapped
    exact (ih hrest).next (performs_pure _)

/-- What is there already may be stored. -/
theorem idles_commitEvaluated {results : List (Option Workload)}
    (h : ∀ w, some w ∈ results → b.contents w.id = some w) :
    Idles facts b (commitEvaluated results) ((results.filterMap id).map (·.id)) [] := by
  induction results with
  | nil => exact performs_pure _
  | cons result rest ih =>
    have hrest := ih fun w hw => h w (List.mem_cons_of_mem _ hw)
    cases result with
    | none =>
      unfold commitEvaluated
      simpa using hrest
    | some w =>
      have hstore : b.contents.Spares (.store w.id w) := h w List.mem_cons_self
      unfold commitEvaluated
      exact (idles_ask hstore).next (hrest.next (performs_pure _))

/-! ## Steps of a cycle -/

variable (r : Roster)

/-- If no stale record can be put together, all are skipped. -/
theorem idles_remap {stale : List AppRecord} (h : ∀ record ∈ stale, facts.remapped r.mapper record = none) :
    Idles facts b (r.remap stale) ([], stale.map (·.guid))
      (stale.flatMap fun record => facts.calls (r.mapper.map record)) := by
  have hresults : (stale.map r.remapTask).map (·.eval (facts.errand b.contents))
      = stale.map fun _ => (none : Option Workload) := by
    rw [List.map_map]
    refine List.map_congr_left ?_
    intro record hrecord
    simp only [Function.comp_apply, Facts.eval_remapTask, h record hrecord]
  have hcalls : (stale.map r.remapTask).flatMap (facts.callsOf b.contents)
      = stale.flatMap fun record => facts.calls (r.mapper.map record) := by
    rw [List.flatMap_map]
    simp only [Facts.callsOf_remapTask]
  have hnone : ∀ pair ∈ stale.map (fun record => (record, (none : Option Workload))), pair.2 = none := by
    intro pair hpair
    obtain ⟨_, -, rfl⟩ := List.mem_map.1 hpair
    rfl
  have hskipped : (stale.map fun record => (record, (none : Option Workload))).map (·.1.guid) = stale.map (·.guid) := by
    rw [List.map_map]
    rfl
  have hbatch : Idles facts b (fanOut (stale.map r.remapTask)) (stale.map fun _ => none)
      (stale.flatMap fun record => facts.calls (r.mapper.map record)) := by
    rw [← hresults, ← hcalls]
    exact idles_fanOut _
  have hcommit : Idles facts b (commitRemapped (stale.zip (stale.map fun _ => none))) ([], stale.map (·.guid)) [] := by
    rw [← List.map_prod_left_eq_zip, ← hskipped]
    exact idles_commitRemapped hnone
  unfold remap
  refine hbatch.bind_free (hcommit.next ?_)
  exact (idles_ask (r := .measure _) trivial).next ((idles_ask (r := .measure _) trivial).next (performs_pure _))

/-- Reading health may come to what is held. -/
theorem idles_evaluateAll
    (h : ∀ record ∈ listing, ∀ w, facts.reread b.contents record = some w → b.contents w.id = some w) :
    Idles facts b (evaluateAll listing) ((listing.filterMap (facts.reread b.contents)).map (·.id))
      (listing.flatMap fun record => facts.callsOf b.contents (evaluateTask record)) := by
  have hresults : (listing.map evaluateTask).map (·.eval (facts.errand b.contents))
      = listing.map (facts.reread b.contents) := by
    rw [List.map_map]
    refine List.map_congr_left ?_
    intro record _
    simp only [Function.comp_apply, Facts.eval_evaluateTask]
    rfl
  have hbatch : Idles facts b (fanOut (listing.map evaluateTask)) (listing.map (facts.reread b.contents))
      (listing.flatMap fun record => facts.callsOf b.contents (evaluateTask record)) := by
    rw [← hresults, ← List.flatMap_map (f := evaluateTask)]
    exact idles_fanOut _
  have hcommit : Idles facts b (commitEvaluated (listing.map (facts.reread b.contents)))
      ((listing.filterMap (facts.reread b.contents)).map (·.id)) [] := by
    have hheld : ∀ w, some w ∈ listing.map (facts.reread b.contents) → b.contents w.id = some w := by
      intro w hw
      obtain ⟨record, hrecord, hsome⟩ := List.mem_map.1 hw
      exact h record hrecord w hsome
    have hall : Idles facts b (commitEvaluated (listing.map (facts.reread b.contents)))
        (((listing.map (facts.reread b.contents)).filterMap id).map (·.id)) [] := idles_commitEvaluated hheld
    rw [List.filterMap_map, Function.id_comp] at hall
    exact hall
  unfold evaluateAll
  refine hbatch.bind_free (hcommit.next ?_)
  exact (idles_ask (r := .measure _) trivial).next (performs_pure _)

/-! ## Cycles -/

/-- What a cycle calls for that changes nothing. -/
def idleCalls (facts : Facts) (r : Roster) (listing : List AppRecord) (c : Contents) : List Call :=
  ((c.stale listing).flatMap fun record => facts.calls (r.mapper.map record)) ++
    listing.flatMap fun record => facts.callsOf c (evaluateTask record)

/-- A cycle that changes nothing, without the fields bound around it. -/
theorem idles_refreshUnbound (hlisted : ∀ key ∈ b.held.map (·.1), listing.any (·.guid = key) = true)
    (htells : b.contents.Tells listing)
    (hmap : ∀ record ∈ b.contents.stale listing, facts.remapped r.mapper record = none)
    (hread : ∀ record ∈ listing, ∀ w, facts.reread b.contents record = some w → b.contents w.id = some w) :
    Idles facts b (r.refreshUnbound listing)
      ⟨[], [], (b.contents.stale listing).map (·.guid), (listing.filterMap (facts.reread b.contents)).map (·.id)⟩
      (idleCalls facts r listing b.contents) := by
  have hpooled : Idles facts b (r.pooledSteps listing (b.contents.stale listing))
      (([], (b.contents.stale listing).map (·.guid)), (listing.filterMap (facts.reread b.contents)).map (·.id))
      (idleCalls facts r listing b.contents) := by
    unfold pooledSteps idleCalls
    refine (idles_remap r hmap).bind ?_
    exact (idles_evaluateAll hread).bind_free (performs_pure _)
  have hstart : Idles facts b (ask .stopwatch) b.stopwatch [] := idles_ask (r := .stopwatch) trivial
  unfold refreshUnbound
  refine hstart.next ((idles_evict hlisted).next ?_)
  refine (idles_ask (r := .measure _) trivial).next ((idles_report _ _ _).next ?_)
  refine (idles_staleOf htells).next ?_
  refine hpooled.settle.bind_free ?_
  exact hstart.next ((idles_ask (r := .measure _) trivial).next ((idles_report _ _ _).next (performs_pure _)))

/-- Fields bound around events make no difference. -/
theorem idles_under {α : Type} {p : Attempt Keeping α} {a : α} {calls : List Call} (h : Idles facts b p a calls)
    (fields : List (String × Value)) : Idles facts b (Keeping.under fields p) a calls := by
  have hbatch : ∀ tasks : List Task, facts.repose b (.batch (tasks.map (Errand.under fields)))
      = facts.repose b (.batch tasks) := by
    intro tasks
    rw [Facts.repose_batch, Facts.repose_batch, List.map_map]
    refine congrArg Except.ok (List.map_congr_left ?_)
    intro task _
    exact congrArg Except.ok (Facts.eval_under facts b.contents fields task)
  have hcalls : ∀ tasks : List Task, (tasks.map (Errand.under fields)).flatMap (facts.callsOf b.contents)
      = tasks.flatMap (facts.callsOf b.contents) := by
    intro tasks
    rw [List.flatMap_map]
    simp only [Facts.callsOf_under]
  refine h.lift ?_ ?_ ?_
  · intro q
    unfold requestUnder
    split
    · rfl
    · exact hbatch _
    · rfl
  · intro q hq
    unfold requestUnder
    split
    · exact List.forall_mem_singleton.2 trivial
    · exact List.forall_mem_singleton.2 trivial
    · exact List.forall_mem_singleton.2 hq
  · intro q
    unfold requestUnder
    split
    · rfl
    · exact (List.append_nil _).trans (hcalls _)
    · exact List.append_nil _

/-- **A cycle that changes nothing.** -/
theorem idles_refresh (hlisted : ∀ key ∈ b.held.map (·.1), listing.any (·.guid = key) = true)
    (htells : b.contents.Tells listing)
    (hmap : ∀ record ∈ b.contents.stale listing, facts.remapped r.mapper record = none)
    (hread : ∀ record ∈ listing, ∀ w, facts.reread b.contents record = some w → b.contents w.id = some w) :
    Idles facts b (r.refresh listing)
      ⟨[], [], (b.contents.stale listing).map (·.guid), (listing.filterMap (facts.reread b.contents)).map (·.id)⟩
      (idleCalls facts r listing b.contents) :=
  idles_under (idles_refreshUnbound r hlisted htells hmap hread) _

end Roster

end Steward
