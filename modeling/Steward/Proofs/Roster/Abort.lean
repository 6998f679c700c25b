import Steward.Proofs.Roster.Reconcile

/-!
# Cycles that the pool aborts

A pool may reject a submission at any point of a cycle, with other submissions of the same batch already at work.
A batch that is rejected is rejected as a whole: nothing of its step is stored. What an earlier step has stored
stays, and does no harm: the next cycle finds the workloads that were put together up to date, and those that
could not be put together fail again. A cycle is aborted by a rejection with a runtime error. Any other fault with
which a submission is rejected is passed on, and what it leaves is the same.

## Contents

* `Cycle.of_rejected` — what an aborted cycle has stored;
* `Facts.remap_remap` — putting workloads together twice is putting them together once;
* `Roster.refresh_working` — with a pool that takes everything a cycle ends well;
* `Roster.refusals` — why submissions were rejected;
* `Roster.refresh_aborted` — aborted cycles are atomic per step, and do no harm.
-/

namespace Steward

/-! ## Atomicity -/

/-- What an aborted cycle has stored: nothing if the first batch was rejected, and what the first batch put
together if the second one was. -/
inductive Aborted (listing : List AppRecord) (f : Fault) (old : Contents) : List BatchReply → Contents → Prop where
  | mapping : Aborted listing f old [.error f] (old.within listing)
  | evaluating {mapped : List (Option Workload)} (all : mapped.length = (old.stale listing).length) :
    Aborted listing f old [.ok (mapped.map .ok), .error f] ((old.within listing).putAll (mapped.filterMap id))

/-- **A cycle with a rejected batch** ends with what is made of that fault, and has stored all of a step or nothing. -/
theorem Cycle.of_rejected {worked : Contents → List Task → BatchReply → Prop} {r : Roster}
    {listing : List AppRecord} {old new : Contents} {replies : List BatchReply} {o : Except Fault Refresh} {f : Fault}
    (hlength : ∀ {c tasks outcomes}, worked c tasks (.ok outcomes) → outcomes.length = tasks.length)
    (h : Cycle worked r listing old replies o new) (hf : .error f ∈ replies) :
    o = .error (Roster.rejection f) ∧ Aborted listing f old replies new := by
  cases h with
  | unreadable => cases hf
  | @unmapped reply f' tells mapping failed =>
    cases List.mem_singleton.1 hf
    cases failed
    exact ⟨rfl, Aborted.mapping⟩
  | @unevaluated mapped reply f' tells mapping evaluating failed =>
    have hall : mapped.length = (old.stale listing).length := by
      simpa using hlength mapping
    rcases List.mem_cons.1 hf with hfirst | hf
    · cases hfirst
    · cases List.mem_singleton.1 hf
      cases failed
      exact ⟨rfl, Aborted.evaluating hall⟩
  | finished =>
    simp at hf

/-- A cycle whose batches all end well ends well itself, if its listing tells what is stale. -/
theorem Cycle.of_ended {worked : Contents → List Task → BatchReply → Prop} {r : Roster} {listing : List AppRecord}
    {old new : Contents} {replies : List BatchReply} {o : Except Fault Refresh} (htells : old.Tells listing)
    (hended : ∀ {c tasks reply}, worked c tasks reply →
      ∃ results : List (Option Workload), reply = .ok (results.map .ok))
    (h : Cycle worked r listing old replies o new) : ∃ done, o = .ok done := by
  have hfanned : ∀ {results : List (Option Workload)}, Roster.fanned (.ok (results.map .ok)) = .ok results :=
    Roster.resultsOf_eq_ok.2 rfl
  cases h with
  | unreadable listed cached unread => exact absurd unread (htells _ listed _ _ cached)
  | unmapped _ mapping failed =>
    obtain ⟨results, rfl⟩ := hended mapping
    rw [hfanned] at failed
    cases failed
  | unevaluated _ _ evaluating failed =>
    obtain ⟨results, rfl⟩ := hended evaluating
    rw [hfanned] at failed
    cases failed
  | finished => exact ⟨_, rfl⟩

/-- A cycle that went beyond its start could tell what is stale. -/
theorem Cycle.tells {worked : Contents → List Task → BatchReply → Prop} {r : Roster} {listing : List AppRecord}
    {old new : Contents} {replies : List BatchReply} {o : Except Fault Refresh} (hreplies : replies ≠ [])
    (h : Cycle worked r listing old replies o new) : old.Tells listing := by
  cases h with
  | unreadable => exact absurd rfl hreplies
  | unmapped tells _ _ => exact tells
  | unevaluated tells _ _ _ => exact tells
  | finished tells _ _ => exact tells

/-! ## Doing it again -/

namespace Contents

theorem within_within (c : Contents) (listing : List AppRecord) :
    (c.within listing).within listing = c.within listing := by
  funext key
  unfold within
  by_cases h : listing.any (·.guid = key) = true
  · rw [if_pos h]
  · rw [if_neg h, if_neg h]

theorem Tells.within {c : Contents} {listing : List AppRecord} (h : c.Tells listing) :
    (c.within listing).Tells listing := by
  intro record hrecord x f hx
  rw [within_of_mem c hrecord] at hx
  exact h record hrecord x f hx

end Contents

namespace Facts

variable {facts : Facts} {m : Mapper} {listing : List AppRecord}

/-- What is not listed does not matter. -/
theorem remap_within (c : Contents) : facts.remap m listing (c.within listing) = facts.remap m listing c := by
  unfold remap
  rw [Contents.within_within, Contents.stale_within]

/-- In a listing without duplicates a record is the only one with its identifier. -/
theorem filter_guid_eq (hdistinct : (listing.map (·.guid)).Nodup) {record : AppRecord} (hrecord : record ∈ listing) :
    listing.filter (·.guid = record.guid) = [record] := by
  induction listing with
  | nil => cases hrecord
  | cons first rest ih =>
    rw [List.map_cons, List.nodup_cons] at hdistinct
    obtain ⟨hfirst, hrest⟩ := hdistinct
    rcases List.mem_cons.1 hrecord with rfl | hrecord
    · have hnone : rest.filter (·.guid = record.guid) = [] := by
        rw [List.filter_eq_nil_iff]
        intro other hother hguid
        refine hfirst (List.mem_map.2 ⟨other, hother, ?_⟩)
        simpa using hguid
      rw [List.filter_cons_of_pos (by simp), hnone]
    · have hne : first.guid ≠ record.guid := by
        intro hguid
        exact hfirst (List.mem_map.2 ⟨record, hrecord, hguid.symm⟩)
      rw [List.filter_cons_of_neg (by simpa using hne)]
      exact ih hrest hrecord

/-- What one record makes of the entry of its application. -/
theorem remap_of_listed (hdistinct : (listing.map (·.guid)).Nodup) (c : Contents) {record : AppRecord}
    (hrecord : record ∈ listing) : facts.remap m listing c record.guid = facts.base m (c record.guid) [record] := by
  have hlisted : listing.any (·.guid = record.guid) = true :=
    List.any_eq_true.2 ⟨record, hrecord, by simp⟩
  rw [remap_apply, if_pos hlisted, filter_guid_eq hdistinct hrecord]

theorem base_singleton (old : Option Workload) (record : AppRecord) :
    facts.base m old [record] = if record.isStale old then (facts.remapped m record).or old else old := by
  unfold base
  by_cases hstale : record.isStale old = true
  · have hone : [record].filter (·.isStale old) = [record] := by simp [hstale]
    rw [if_pos hstale, hone]
    cases hmapped : facts.remapped m record with
    | none => simp [hmapped]
    | some w => simp [hmapped]
  · have hnone : [record].filter (·.isStale old) = [] := by simp [hstale]
    rw [if_neg hstale, hnone]
    rfl

/-- What was put together is up to date. -/
theorem not_isStale_of_remapped {record : AppRecord} {w : Workload} (h : facts.remapped m record = some w) :
    record.isStale (some w) = false := by
  unfold AppRecord.isStale
  rw [(remapped_eq_some h).2]
  simp [Except.toOption]

/-- A record that is still stale cannot be put together. -/
theorem remapped_of_stale {old : Option Workload} {record : AppRecord}
    (h : record.isStale (facts.base m old [record]) = true) : facts.remapped m record = none := by
  rw [base_singleton] at h
  cases hmapped : facts.remapped m record with
  | none => rfl
  | some w =>
    rw [hmapped] at h
    by_cases hstale : record.isStale old = true
    · rw [if_pos hstale, Option.some_or, not_isStale_of_remapped hmapped] at h
      cases h
    · rw [if_neg hstale] at h
      exact absurd h hstale

/-- **Putting workloads together twice** is putting them together once: what is still stale fails again. -/
theorem remap_remap (hdistinct : (listing.map (·.guid)).Nodup) (c : Contents) :
    facts.remap m listing (facts.remap m listing c) = facts.remap m listing c := by
  have hnone : ((facts.remap m listing c).stale listing).filterMap (facts.remapped m) = [] := by
    rw [List.filterMap_eq_nil_iff]
    intro record hrecord
    obtain ⟨hlisted, hstale⟩ := List.mem_filter.1 hrecord
    rw [remap_of_listed hdistinct c hlisted] at hstale
    exact remapped_of_stale hstale
  have hwithin : (facts.remap m listing c).within listing = facts.remap m listing c := by
    funext key
    unfold Contents.within
    by_cases hlisted : listing.any (·.guid = key) = true
    · rw [if_pos hlisted]
    · rw [if_neg hlisted, remap_apply, if_neg hlisted]
  show ((facts.remap m listing c).within listing).putAll
    (((facts.remap m listing c).stale listing).filterMap (facts.remapped m)) = _
  rw [hnone, hwithin]
  rfl

/-- Of what was put together it can be told whether it is stale. -/
theorem tells_remap {c : Contents} (h : c.Tells listing) (hdistinct : (listing.map (·.guid)).Nodup) :
    (facts.remap m listing c).Tells listing := by
  intro record hrecord x f hx
  rw [remap_of_listed hdistinct c hrecord, base_singleton] at hx
  have hold : c record.guid = some x → record.updatedMillis ≠ .error f := h record hrecord x f
  by_cases hstale : record.isStale (c record.guid) = true
  · rw [if_pos hstale] at hx
    rcases Option.or_eq_some_iff.1 hx with hmapped | ⟨-, hx⟩
    · rw [(remapped_eq_some hmapped).2]
      intro hf
      cases hf
    · exact hold hx
  · rw [if_neg hstale] at hx
    exact hold hx

/-- **What an aborted cycle leaves is as good as what it found**: putting workloads together comes to the same. -/
theorem remap_of_rejected {r : Roster} {fields : List (String × Value)} {old new : Contents}
    {replies : List BatchReply} {o : Except Fault Refresh} {f : Fault} (hdistinct : (listing.map (·.guid)).Nodup)
    (h : Cycle (fun c tasks => facts.Worked c (tasks.map (Errand.under fields))) r listing old replies o new)
    (hf : .error f ∈ replies) :
    facts.remap r.mapper listing new = facts.remap r.mapper listing old ∧ new.Tells listing := by
  cases h with
  | unreadable => cases hf
  | unmapped tells _ _ => exact ⟨remap_within old, tells.within⟩
  | @unevaluated mapped _ _ tells mapping _ _ =>
    have hmapped : (old.within listing).putAll (mapped.filterMap id) = facts.remap r.mapper listing old := by
      rw [mapping.mapped_eq, List.filterMap_map, Function.id_comp]
      rfl
    rw [hmapped]
    exact ⟨remap_remap hdistinct old, tells_remap tells hdistinct⟩
  | finished => simp at hf

end Facts

/-! ## Aborted cycles -/

/-- The workshop with another pool. -/
def Workshop.withPool {τ σ : Type} (w : Workshop τ σ) (pool : Pool) : Workshop τ σ :=
  ⟨w.session.withPool pool, w.stray⟩

namespace Roster

variable {τ σ : Type} [Sub τ] [LE τ] [DecidableLE τ] {platform : Handler Inquiry σ} {facts : Facts}

/-- With a pool that takes everything, a cycle over a listing that tells ends well. -/
theorem refresh_working (hfacts : facts.Govern platform) {r : Roster} {listing : List AppRecord}
    {w w' : Workshop τ σ} {t : List (Exchange Keeping)} {o : Except Fault Refresh} (hw : w.Lasting)
    (hpool : w.Working) (htells : w.contents.Tells listing)
    (h : Attempt.Runs (Workshop.Answers platform) (r.refresh listing) w t o w') : ∃ done, o = .ok done := by
  obtain ⟨-, hcycle⟩ := refresh_cycle (Workshop.keeps_of_working hfacts) r ⟨hw, hpool⟩ h
  exact hcycle.of_ended htells fun hreply => ⟨_, hreply⟩

/-- **An aborted cycle is atomic and harmless.** If the pool rejects a submission with a runtime error, the cycle is
aborted; any other fault is passed on. In both cases it has stored all of a step or nothing of it (`Aborted`). If the
listing is without duplicates and the platform does not change its mind, doing the cycle again with a pool that takes
everything ends well, and comes to the same contents as any cycle from the start that ended well. -/
theorem refresh_aborted (platform : Handler Inquiry σ) (r : Roster) {listing : List AppRecord}
    {w w' : Workshop τ σ} {t : List (Exchange Keeping)} {o : Except Fault Refresh} {f : Fault} (hw : w.Lasting)
    (h : Attempt.Runs (Workshop.Answers platform) (r.refresh listing) w t o w') (hf : .error f ∈ batchReplies t) :
    (f.isRuntime = true → o = .error (.poolRejected f)) ∧ (f.isRuntime = false → o = .error f) ∧
      Aborted listing f w.contents (batchReplies t) w'.contents ∧
      ∀ facts : Facts, facts.Govern platform → (listing.map (·.guid)).Nodup → ∀ pool : Pool, pool.refusal = none →
        (∃ t₁ o₁ w₁, Attempt.Runs (Workshop.Answers platform) (r.refresh listing) (w'.withPool pool) t₁ o₁ w₁) ∧
        (∃ t₂ done₂ w₂,
          Attempt.Runs (Workshop.Answers platform) (r.refresh listing) (w.withPool pool) t₂ (.ok done₂) w₂) ∧
        ∀ t₁ o₁ w₁,
          Attempt.Runs (Workshop.Answers platform) (r.refresh listing) (w'.withPool pool) t₁ o₁ w₁ →
            (∃ done₁, o₁ = .ok done₁) ∧ ∀ other t₂ done₂ w₂,
              Attempt.Runs (Workshop.Answers platform) (r.refresh listing) (w.withPool other) t₂ (.ok done₂) w₂ →
                w₁.contents = w₂.contents := by
  -- that the cycle is atomic holds on any platform
  obtain ⟨hw', hcycle⟩ := refresh_cycle (Workshop.keeps platform) r hw h
  have hlength : ∀ {c : Contents} {tasks : List Task} {outcomes : List (Except Fault (Option Workload))},
      (∀ outcomes', (Except.ok outcomes : BatchReply) = .ok outcomes' → outcomes'.length =
        (tasks.map (Errand.under (correlation (some r.account) none))).length) →
      outcomes.length = tasks.length := by
    intro c tasks outcomes hall
    rw [hall _ rfl, List.length_map]
  obtain ⟨ho, haborted⟩ := hcycle.of_rejected (fun hall => @hlength w.contents _ _ hall) hf
  refine ⟨?_, ?_, haborted, ?_⟩
  · intro hruntime
    rw [ho, rejection_of_isRuntime hruntime]
  · intro hother
    rw [ho, rejection_of_not_isRuntime hother]
  -- that it does no harm takes a platform that does not change its mind
  intro facts hfacts hdistinct pool hpool
  obtain ⟨-, hcycle⟩ := refresh_cycle (Workshop.keeps_of_govern hfacts) r hw h
  have htells := hcycle.tells (List.ne_nil_of_mem hf)
  obtain ⟨hsame, htells'⟩ := Facts.remap_of_rejected hdistinct hcycle hf
  have hlast : ∀ p, (w.withPool p).Lasting := fun _ => hw
  have hlast' : ∀ p, (w'.withPool p).Lasting := fun _ => hw'
  have hworking : (w.withPool pool).Working := hpool
  have hworking' : (w'.withPool pool).Working := hpool
  refine ⟨?_, ?_, ?_⟩
  · obtain ⟨t₁, left, h₁⟩ :=
      Workshop.runs_of_run platform (r.refresh listing).outcome (w'.session.withPool pool) w'.stray
    exact ⟨t₁, _, _, h₁⟩
  · obtain ⟨t₂, left, h₂⟩ :=
      Workshop.runs_of_run platform (r.refresh listing).outcome (w.session.withPool pool) w.stray
    obtain ⟨done₂, hdone⟩ := refresh_working hfacts (hlast pool) hworking htells h₂
    rw [hdone] at h₂
    exact ⟨t₂, done₂, _, h₂⟩
  · intro t₁ o₁ w₁ h₁
    obtain ⟨done₁, rfl⟩ := refresh_working hfacts (hlast' pool) hworking' htells' h₁
    refine ⟨⟨done₁, rfl⟩, ?_⟩
    intro other t₂ done₂ w₂ h₂
    rw [contents_of_refresh hfacts (hlast' pool) h₁, contents_of_refresh hfacts (hlast other) h₂]
    exact congrArg (facts.overlay listing) hsame

/-- The faults with which submissions were rejected in a run, in order. -/
def refusals (t : List (Exchange Keeping)) : List Fault :=
  (batchReplies t).filterMap fun reply =>
    match reply with
    | .error f => some f
    | .ok _ => none

theorem mem_refusals {t : List (Exchange Keeping)} {f : Fault} (h : f ∈ refusals t) : .error f ∈ batchReplies t := by
  obtain ⟨reply, hreply, hf⟩ := List.mem_filterMap.1 h
  cases reply with
  | error e =>
    cases hf
    exact hreply
  | ok outcomes => cases hf

/-- A session whose pool takes one submission. -/
def choosySession : Session Nat Unit :=
  bareSession.withPool (fullAfter 1)

/-- A cycle over two new applications whose second submission is rejected is aborted, and can be made up for. -/
theorem refresh_aborted_second :
    ∃ t o w' f, Attempt.Runs (Workshop.Answers (Facts.alone (webApp "app-1" "STARTED")).platform)
        (bare.refresh [webApp "app-1" "STARTED", webApp "app-2" "STARTED"]) ⟨choosySession, []⟩ t o w' ∧
      f.isRuntime = true ∧ o = .error (.poolRejected f) ∧ ∃ t₁ o₁ w₁ t₂ done₂ w₂,
        Attempt.Runs (Workshop.Answers (Facts.alone (webApp "app-1" "STARTED")).platform)
          (bare.refresh [webApp "app-1" "STARTED", webApp "app-2" "STARTED"]) (w'.withPool .working) t₁ o₁ w₁ ∧
        Attempt.Runs (Workshop.Answers (Facts.alone (webApp "app-1" "STARTED")).platform)
          (bare.refresh [webApp "app-1" "STARTED", webApp "app-2" "STARTED"])
          (Workshop.withPool ⟨choosySession, []⟩ .working) t₂ (.ok done₂) w₂ ∧
        w₁.contents = w₂.contents := by
  obtain ⟨left, h⟩ := Workshop.runs_exchanged (Facts.alone (webApp "app-1" "STARTED")).platform
    (bare.refresh [webApp "app-1" "STARTED", webApp "app-2" "STARTED"]).outcome choosySession []
  have hlasting : (⟨choosySession, []⟩ : Workshop Nat Unit).Lasting := lasting_of_never rfl rfl
  have hrejected : (refusals ((bare.refresh [webApp "app-1" "STARTED", webApp "app-2" "STARTED"]).outcome.exchanged
      (Session.answer (Facts.alone (webApp "app-1" "STARTED")).platform) choosySession)).any Fault.isRuntime = true := by
    decide +kernel
  obtain ⟨f, hf, hruntime⟩ := List.any_eq_true.1 hrejected
  obtain ⟨haborted, -, -, hagain⟩ := refresh_aborted _ bare hlasting h (mem_refusals hf)
  obtain ⟨⟨t₁, o₁, w₁, h₁⟩, ⟨t₂, done₂, w₂, h₂⟩, hsame⟩ :=
    hagain _ (Facts.govern_platform _) (by decide) .working rfl
  exact ⟨_, _, _, f, h, hruntime, haborted hruntime, t₁, o₁, w₁, t₂, done₂, w₂, h₁, h₂,
    (hsame t₁ o₁ w₁ h₁).2 _ t₂ done₂ w₂ h₂⟩

end Roster

end Steward
