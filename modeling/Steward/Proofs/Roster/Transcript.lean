import Steward.Roster.Refresh
import Steward.Proofs.Roster.Keeper

/-!
# What a cycle exchanges

`Roster.refresh` is taken apart here, once, whoever answers it. What it exchanges comes in stretches: evictions, looks at
what is cached, a batch with the stores after it. A stretch is known from what was replied in it, and so is what the
cycle goes on with. `Roster.Transcript` lists how a cycle can go after it has looked. What a cycle counts, drops, stores
and leaves behind is read off its exchanges elsewhere.

## Contents

* `AppRecord.isStale`, `AppRecord.Tells` — staleness, and whether it can be told;
* `Roster.evictions`, `looks`, `stores` — stretches of exchanges; `runs_evict`, `runs_staleOf`, `runs_commitRemapped`,
  `runs_commitEvaluated` — the steps that exchange them;
* `Roster.fanned` — what a keeper learns of a batch; `isAbort_of_fanned`, `runs_fanOut`;
* `Roster.PooledTranscript`, `runs_pooledSteps` — the steps that need the pool;
* `Roster.Transcript`, `runs_refreshUnbound` — cycles.
-/

namespace Steward

/-! ## Single exchanges -/

namespace Keeping

/-- An event that was reported. -/
abbrev reported (level : Level) (text : String) (fields : List (String × Value)) : Exchange Keeping :=
  ⟨.inquiry (.report ⟨level, text, fields⟩), ()⟩

/-- A count that was taken. -/
abbrev counted (m : Measure) : Exchange Keeping :=
  ⟨.measure m, ()⟩

/-- What is exchanged when a key is dropped that was held, or was not. -/
def dropping (key : String) (held : Bool) : List (Exchange Keeping) :=
  ⟨.invalidate key, held⟩ :: if held then [reported .debug "Invalidated cache entry" [("key", .text key)]] else []

variable {ω : Type} {A : Answering Keeping ω} {w w' : ω} {t : List (Exchange Keeping)}

theorem runs_report {level : Level} {text : String} {fields : List (String × Value)} {o : Except Fault Unit}
    (h : Attempt.Runs A (report level text fields) w t o w') : o = .ok () ∧ t = [reported level text fields] := by
  rw [report_eq] at h
  obtain ⟨⟨⟩, ho, h⟩ := Attempt.runs_ofProgram.1 h
  obtain ⟨rfl, -⟩ := Program.runs_request.1 h
  exact ⟨ho, rfl⟩

theorem runs_drop {key : String} {o : Except Fault Unit} (h : Attempt.Runs A (drop key) w t o w') :
    o = .ok () ∧ ∃ held, t = dropping key held := by
  unfold drop at h
  obtain ⟨held, m, rest, rfl, -, hrest⟩ := runs_ask_bind.1 h
  cases held with
  | true =>
    obtain ⟨ho, rfl⟩ := runs_report hrest
    exact ⟨ho, true, rfl⟩
  | false =>
    obtain ⟨rfl, ho, -⟩ := Attempt.runs_pure.1 hrest
    exact ⟨ho, false, rfl⟩

end Keeping

/-! ## Staleness -/

namespace AppRecord

/-- Whether a record has no workload, or one of another time. -/
def isStale (record : AppRecord) (old : Option Workload) : Bool :=
  old.all fun w => record.updatedMillis.toOption ≠ some w.updatedTime

/-- A record whose time is known is stale if its entry has another. -/
theorem isStale_some {record : AppRecord} {w : Workload} {millis : Int}
    (h : record.updatedMillis = .ok millis) : record.isStale (some w) = decide (w.updatedTime ≠ millis) := by
  unfold isStale
  rw [h]
  simp [Except.toOption, eq_comm]

/-- Of the record it can be told whether it is stale: it has no entry, or its time can be read. -/
def Tells (record : AppRecord) (old : Option Workload) : Prop :=
  ∀ w f, old = some w → record.updatedMillis ≠ .error f

end AppRecord

namespace Roster

open Keeping

variable {ω : Type} {A : Answering Keeping ω} {w w' : ω} {t : List (Exchange Keeping)}

/-! ## Evictions -/

/-- What is exchanged when workloads are evicted, each of which was held or was not. -/
def evictions (gone : List (String × Bool)) : List (Exchange Keeping) :=
  gone.flatMap fun key => reported .debug "Evicting application" [("appId", .text key.1)] :: dropping key.1 key.2

theorem evictions_cons (key : String × Bool) (rest : List (String × Bool)) :
    evictions (key :: rest)
      = reported .debug "Evicting application" [("appId", .text key.1)] :: (dropping key.1 key.2 ++ evictions rest) :=
  rfl

theorem runs_dropAll {keys : List String} {o : Except Fault Unit} (h : Attempt.Runs A (dropAll keys) w t o w') :
    o = .ok () ∧ ∃ gone, gone.map (·.1) = keys ∧ t = evictions gone := by
  induction keys generalizing w t with
  | nil =>
    obtain ⟨rfl, ho, -⟩ := Attempt.runs_pure.1 h
    exact ⟨ho, [], rfl, rfl⟩
  | cons key rest ih =>
    unfold dropAll at h
    rw [report_eq] at h
    obtain ⟨⟨⟩, m, t₁, rfl, -, h⟩ := runs_ask_bind.1 h
    obtain ⟨t₂, _, m', t₃, rfl, hdrop, hrest⟩ := Attempt.runs_bind_of_ok (fun he => ⟨_, (runs_drop he).1⟩) h
    obtain ⟨-, held, rfl⟩ := runs_drop hdrop
    obtain ⟨ho, gone, rfl, rfl⟩ := ih hrest
    exact ⟨ho, (key, held) :: gone, rfl, rfl⟩

/-- **Eviction** drops what is not listed, and says so. -/
theorem runs_evict {listing : List AppRecord} {o : Except Fault (List String)}
    (h : Attempt.Runs A (evict listing) w t o w') :
    ∃ keys gone, gone.map (·.1) = keys.filter (fun key => !listing.any (·.guid = key)) ∧
      o = .ok (gone.map (·.1)) ∧ t = ⟨.keys, keys⟩ :: evictions gone := by
  unfold evict at h
  obtain ⟨keys, m, t₁, rfl, -, h⟩ := runs_ask_bind.1 h
  obtain ⟨t₂, _, m', t₃, rfl, hdrop, hrest⟩ := Attempt.runs_bind_of_ok (fun he => ⟨_, (runs_dropAll he).1⟩) h
  obtain ⟨-, gone, hgone, rfl⟩ := runs_dropAll hdrop
  obtain ⟨rfl, ho, -⟩ := Attempt.runs_pure.1 hrest
  rw [List.append_nil]
  exact ⟨keys, gone, hgone, ho.trans (congrArg _ hgone.symm), rfl⟩

/-! ## Looks -/

/-- What is reported of a record when this was found for it: why it is stale, if it is. -/
def remarks (record : AppRecord) (found : Option Workload) : List (Exchange Keeping) :=
  match found, record.updatedMillis with
  | none, _ => [reported .debug "Application not cached" [("app", .text record.name)]]
  | some _, .error _ => []
  | some w, .ok millis =>
    if w.updatedTime = millis then []
    else [reported .debug "Cached application is out of date" [("app", .text record.name)]]

/-- What is exchanged when records are looked up, with what was found for each. -/
def looks (seen : List (AppRecord × Option Workload)) : List (Exchange Keeping) :=
  seen.flatMap fun look => ⟨.lookup look.1.guid, look.2⟩ :: remarks look.1 look.2

theorem looks_cons (look : AppRecord × Option Workload) (rest : List (AppRecord × Option Workload)) :
    looks (look :: rest) = ⟨.lookup look.1.guid, look.2⟩ :: (remarks look.1 look.2 ++ looks rest) :=
  rfl

theorem looks_append (seen seen' : List (AppRecord × Option Workload)) :
    looks (seen ++ seen') = looks seen ++ looks seen' :=
  List.flatMap_append

/-- To remark on something is to report it. -/
theorem forall_mem_remarks {P : Exchange Keeping → Prop} (h : ∀ level text fields, P (reported level text fields))
    (record : AppRecord) (found : Option Workload) : ∀ e ∈ remarks record found, P e := by
  unfold remarks
  split
  · exact List.forall_mem_singleton.2 (h _ _ _)
  · exact List.forall_mem_nil _
  · split
    · exact List.forall_mem_nil _
    · exact List.forall_mem_singleton.2 (h _ _ _)

theorem forall_mem_looks {P : Exchange Keeping → Prop} (hlookup : ∀ key found, P ⟨.lookup key, found⟩)
    (hreport : ∀ level text fields, P (reported level text fields)) (seen : List (AppRecord × Option Workload)) :
    ∀ e ∈ looks seen, P e := by
  intro e he
  obtain ⟨look, -, he⟩ := List.mem_flatMap.1 he
  exact List.forall_mem_cons.2 ⟨hlookup _ _, forall_mem_remarks hreport _ _⟩ e he

/-- A record is looked up once, and is stale by what was found, unless that cannot be told. -/
theorem runs_isStale {record : AppRecord} {o : Except Fault Bool} (h : Attempt.Runs A (isStale record) w t o w') :
    ∃ found, t = looks [(record, found)] ∧
      (record.Tells found ∧ o = .ok (record.isStale found) ∨
        ∃ x f, found = some x ∧ record.updatedMillis = .error f ∧ o = .error f) := by
  unfold isStale at h
  obtain ⟨found, m, t₁, rfl, -, h⟩ := runs_ask_bind.1 h
  -- both kinds of stale records are reported as what they are
  have hstale : ∀ {text}, Attempt.Runs A (do report .debug text [("app", .text record.name)]; return true) m t₁ o w' →
      t₁ = [reported .debug text [("app", .text record.name)]] ∧ o = .ok true := by
    intro text h
    rw [report_eq] at h
    obtain ⟨⟨⟩, m', t₂, rfl, -, h⟩ := runs_ask_bind.1 h
    obtain ⟨rfl, ho, -⟩ := Attempt.runs_pure.1 h
    exact ⟨rfl, ho⟩
  refine ⟨found, ?_⟩
  rw [looks_cons]
  unfold remarks
  cases found with
  | none =>
    obtain ⟨rfl, ho⟩ := hstale h
    exact ⟨rfl, Or.inl ⟨fun _ _ hnone => (nomatch hnone), ho⟩⟩
  | some x =>
    cases hmillis : record.updatedMillis with
    | error f =>
      rw [hmillis] at h
      dsimp only at h
      rw [Attempt.ofExcept_error_bind] at h
      obtain ⟨rfl, ho, -⟩ := Attempt.runs_throw.1 h
      exact ⟨rfl, Or.inr ⟨x, f, rfl, rfl, ho⟩⟩
    | ok millis =>
      rw [hmillis] at h
      dsimp only at h ⊢
      rw [Attempt.ofExcept_ok_bind] at h
      have htells : record.Tells (some x) := fun _ f _ hf => nomatch hmillis.symm.trans hf
      rw [AppRecord.isStale_some hmillis]
      by_cases hsame : x.updatedTime = millis
      · rw [if_pos hsame] at h ⊢
        obtain ⟨rfl, ho, -⟩ := Attempt.runs_pure.1 h
        rw [decide_eq_false fun hne => hne hsame]
        exact ⟨rfl, Or.inl ⟨htells, ho⟩⟩
      · rw [if_neg hsame] at h ⊢
        obtain ⟨rfl, ho⟩ := hstale h
        rw [decide_eq_true hsame]
        exact ⟨rfl, Or.inl ⟨htells, ho⟩⟩

/-- The records that are stale by what was found for them. -/
def staleSeen (seen : List (AppRecord × Option Workload)) : List AppRecord :=
  (seen.filter fun look => look.1.isStale look.2).map (·.1)

/-- **Every record is looked up once**, in the order of the listing, up to one of which it cannot be told whether it is
stale. -/
theorem runs_staleOf {listing : List AppRecord} {o : Except Fault (List AppRecord)}
    (h : Attempt.Runs A (staleOf listing) w t o w') :
    ∃ seen, t = looks seen ∧
      (seen.map (·.1) = listing ∧ (∀ look ∈ seen, look.1.Tells look.2) ∧ o = .ok (staleSeen seen) ∨
        seen.map (·.1) <+: listing ∧
          ∃ record x f, (record, some x) ∈ seen ∧ record.updatedMillis = .error f ∧ o = .error f) := by
  induction listing generalizing w w' t o with
  | nil =>
    obtain ⟨rfl, ho, -⟩ := Attempt.runs_pure.1 h
    exact ⟨[], rfl, Or.inl ⟨rfl, List.forall_mem_nil _, ho⟩⟩
  | cons record rest ih =>
    unfold staleOf at h
    -- the first record of which it cannot be told ends the search, here or in the rest
    rcases Attempt.runs_bind.1 h with ⟨e, rfl, he⟩ | ⟨t₁, stale, m, t₂, rfl, hfirst, h⟩
    · obtain ⟨found, rfl, ⟨-, ho⟩ | ⟨x, f, rfl, hf, ho⟩⟩ := runs_isStale he
      · cases ho
      · cases ho
        exact ⟨[(record, some x)], rfl, Or.inr ⟨⟨rest, rfl⟩, record, x, _, List.mem_singleton.2 rfl, hf, rfl⟩⟩
    obtain ⟨found, rfl, ⟨htells, hstale⟩ | ⟨_, _, _, _, ho⟩⟩ := runs_isStale hfirst
    · cases hstale
      rcases Attempt.runs_bind.1 h with ⟨e, rfl, he⟩ | ⟨t₃, others, m', t₄, rfl, hothers, h⟩
      · obtain ⟨seen, rfl, ⟨-, -, ho⟩ | ⟨hlooked, record', x, f, hmem, hf, ho⟩⟩ := ih he
        · cases ho
        · cases ho
          exact ⟨(record, found) :: seen, (looks_append [(record, found)] seen).symm, Or.inr
            ⟨(List.prefix_cons_inj record).2 hlooked, record', x, _, List.mem_cons_of_mem _ hmem, hf, rfl⟩⟩
      · obtain ⟨seen, rfl, ⟨rfl, hall, ho⟩ | ⟨_, _, _, _, _, _, ho⟩⟩ := ih hothers
        · cases ho
          obtain ⟨rfl, ho, -⟩ := Attempt.runs_pure.1 h
          rw [List.append_nil]
          refine ⟨(record, found) :: seen, (looks_append [(record, found)] seen).symm, ?_⟩
          refine Or.inl ⟨rfl, List.forall_mem_cons.2 ⟨htells, hall⟩, ho.trans ?_⟩
          unfold staleSeen
          rw [List.filter_cons]
          split
          · rw [List.map_cons]
          · rfl
        · cases ho
    · cases ho

/-! ## Batches -/

/-- What a batch came to, to a keeper. -/
def fanned : BatchReply → Except Fault (List (Option Workload))
  | .error f => .error (rejection f)
  | .ok outcomes => resultsOf outcomes

/-- Every worker came to its end. -/
theorem resultsOf_eq_ok {outcomes : List (Except Fault (Option Workload))} {results : List (Option Workload)} :
    resultsOf outcomes = .ok results ↔ outcomes = results.map .ok := by
  induction outcomes generalizing results with
  | nil => cases results <;> simp [resultsOf]
  | cons outcome rest ih =>
    cases outcome with
    | error f => cases results <;> simp [resultsOf]
    | ok x =>
      unfold resultsOf
      cases hrest : resultsOf rest with
      | error f =>
        cases results with
        | nil => simp [Except.map]
        | cons y ys =>
          have hne : rest ≠ ys.map .ok := fun h => by
            rw [ih.2 h] at hrest
            cases hrest
          simp [Except.map, hne]
      | ok xs =>
        obtain rfl := ih.1 hrest
        cases results with
        | nil => simp [Except.map]
        | cons y ys => simp [Except.map, List.map_inj_right]

theorem fanned_eq_ok {reply : BatchReply} {results : List (Option Workload)} (h : fanned reply = .ok results) :
    reply = .ok (results.map .ok) := by
  cases reply with
  | error f => cases h
  | ok outcomes => rw [resultsOf_eq_ok.1 h]

theorem isAbort_of_resultsOf {outcomes : List (Except Fault (Option Workload))} {f : Fault}
    (h : resultsOf outcomes = .error f) : f.isAbort = true := by
  induction outcomes with
  | nil => cases h
  | cons first rest ih =>
    cases first with
    | error f =>
      cases h
      rfl
    | ok x =>
      unfold resultsOf at h
      cases hrest : resultsOf rest with
      | ok results =>
        rw [hrest] at h
        cases h
      | error f' =>
        rw [hrest] at h
        cases h
        exact ih hrest

/-- A runtime error is taken for a failure of the pool. -/
theorem rejection_of_isRuntime {f : Fault} (h : f.isRuntime = true) : rejection f = .poolRejected f :=
  if_pos h

/-- Anything else is passed on. -/
theorem rejection_of_not_isRuntime {f : Fault} (h : f.isRuntime = false) : rejection f = f :=
  if_neg (by rw [h]; decide)

/-- A batch that fails aborts the cycle, unless it was rejected with anything but a runtime error, which is passed
on. -/
theorem isAbort_of_fanned {reply : BatchReply} {f : Fault} (h : fanned reply = .error f) :
    f.isAbort = true ∨ reply = .error f ∧ f.isRuntime = false := by
  cases reply with
  | error e =>
    obtain rfl : rejection e = f := Except.error.inj h
    cases he : e.isRuntime with
    | true =>
      rw [rejection_of_isRuntime he]
      exact Or.inl rfl
    | false =>
      rw [rejection_of_not_isRuntime he]
      exact Or.inr ⟨rfl, he⟩
  | ok outcomes => exact Or.inl (isAbort_of_resultsOf h)

/-- **A batch** is handed out, and what the keeper learns is what became of it. -/
theorem runs_fanOut {tasks : List Task} {o : Except Fault (List (Option Workload))}
    (h : Attempt.Runs A (fanOut tasks) w t o w') : ∃ reply, t = [⟨.batch tasks, reply⟩] ∧ o = fanned reply := by
  unfold fanOut at h
  obtain ⟨reply, m, rest, rfl, -, hrest⟩ := runs_ask_bind.1 h
  cases reply with
  | error f =>
    obtain ⟨rfl, ho, -⟩ := Attempt.runs_throw.1 hrest
    exact ⟨_, rfl, ho⟩
  | ok outcomes =>
    obtain ⟨rfl, ho, -⟩ := Attempt.runs_ofExcept.1 hrest
    exact ⟨_, rfl, ho⟩

/-! ## Commits -/

/-- What is exchanged when workloads are stored, each under its own identifier. -/
def stores (ws : List Workload) : List (Exchange Keeping) :=
  ws.map fun w => ⟨.store w.id w, ()⟩

/-- The identifiers of the workloads that records came to. -/
def remappedOf (pairs : List (AppRecord × Option Workload)) : List String :=
  (pairs.filterMap (·.2)).map (·.id)

/-- The records that came to no workload, by identifier. -/
def skippedOf (pairs : List (AppRecord × Option Workload)) : List String :=
  (pairs.filter (·.2.isNone)).map (·.1.guid)

/-- The identifiers of the workloads whose health was read. -/
def evaluatedOf (results : List (Option Workload)) : List String :=
  (results.filterMap id).map (·.id)

/-- What records came to is stored in their order. -/
theorem runs_commitRemapped {pairs : List (AppRecord × Option Workload)} {o : Except Fault (List String × List String)}
    (h : Attempt.Runs A (commitRemapped pairs) w t o w') :
    o = .ok (remappedOf pairs, skippedOf pairs) ∧ t = stores (pairs.filterMap (·.2)) := by
  induction pairs generalizing w w' t o with
  | nil =>
    obtain ⟨rfl, ho, -⟩ := Attempt.runs_pure.1 h
    exact ⟨ho, rfl⟩
  | cons pair rest ih =>
    obtain ⟨record, result⟩ := pair
    cases result with
    | none =>
      unfold commitRemapped at h
      obtain ⟨t₁, _, m, t₂, rfl, hrest, h⟩ := Attempt.runs_bind_of_ok (fun he => ⟨_, (ih he).1⟩) h
      obtain ⟨hresults, rfl⟩ := ih hrest
      cases hresults
      obtain ⟨rfl, ho, -⟩ := Attempt.runs_pure.1 h
      exact ⟨ho, List.append_nil _⟩
    | some x =>
      unfold commitRemapped at h
      obtain ⟨⟨⟩, m, t₁, rfl, -, h⟩ := runs_ask_bind.1 h
      obtain ⟨t₂, _, m', t₃, rfl, hrest, h⟩ := Attempt.runs_bind_of_ok (fun he => ⟨_, (ih he).1⟩) h
      obtain ⟨hresults, rfl⟩ := ih hrest
      cases hresults
      obtain ⟨rfl, ho, -⟩ := Attempt.runs_pure.1 h
      exact ⟨ho, congrArg (List.cons _) (List.append_nil _)⟩

/-- Health that was read is stored in the order of the results. -/
theorem runs_commitEvaluated {results : List (Option Workload)} {o : Except Fault (List String)}
    (h : Attempt.Runs A (commitEvaluated results) w t o w') :
    o = .ok (evaluatedOf results) ∧ t = stores (results.filterMap id) := by
  induction results generalizing w w' t o with
  | nil =>
    obtain ⟨rfl, ho, -⟩ := Attempt.runs_pure.1 h
    exact ⟨ho, rfl⟩
  | cons result rest ih =>
    cases result with
    | none =>
      unfold commitEvaluated at h
      exact ih h
    | some x =>
      unfold commitEvaluated at h
      obtain ⟨⟨⟩, m, t₁, rfl, -, h⟩ := runs_ask_bind.1 h
      obtain ⟨t₂, _, m', t₃, rfl, hrest, h⟩ := Attempt.runs_bind_of_ok (fun he => ⟨_, (ih he).1⟩) h
      obtain ⟨hresults, rfl⟩ := ih hrest
      cases hresults
      obtain ⟨rfl, ho, -⟩ := Attempt.runs_pure.1 h
      exact ⟨ho, congrArg (List.cons _) (List.append_nil _)⟩

/-! ## The steps that need the pool -/

/-- The measures of the step that puts workloads together. -/
def remapMeasures (pairs : List (AppRecord × Option Workload)) : List Measure :=
  [.remapped (.whole (remappedOf pairs).length), .skipped "remap" (.whole (skippedOf pairs).length)]

/-- The measures of the step that reads health. -/
def evaluateMeasures (results : List (Option Workload)) : List Measure :=
  [.skipped "health" (.whole (results.length - (evaluatedOf results).length : Nat))]

/-- What is exchanged when stale records are put together again and come to this. -/
def remapping (r : Roster) (stale : List AppRecord) (mapped : List (Option Workload)) : List (Exchange Keeping) :=
  ⟨.batch (stale.map r.remapTask), .ok (mapped.map .ok)⟩ ::
    (stores ((stale.zip mapped).filterMap (·.2)) ++ (remapMeasures (stale.zip mapped)).map counted)

/-- What is exchanged when health is read and comes to this. -/
def evaluating (listing : List AppRecord) (results : List (Option Workload)) : List (Exchange Keeping) :=
  ⟨.batch (listing.map evaluateTask), .ok (results.map .ok)⟩ ::
    (stores (results.filterMap id) ++ (evaluateMeasures results).map counted)

/-- The step that puts workloads together hands out a batch, and ends there if that fails. -/
theorem runs_remap {r : Roster} {stale : List AppRecord} {o : Except Fault (List String × List String)}
    (h : Attempt.Runs A (r.remap stale) w t o w') :
    (∃ reply f, fanned reply = .error f ∧ o = .error f ∧ t = [⟨.batch (stale.map r.remapTask), reply⟩]) ∨
      ∃ mapped, o = .ok (remappedOf (stale.zip mapped), skippedOf (stale.zip mapped)) ∧
        t = r.remapping stale mapped := by
  unfold remap at h
  rcases Attempt.runs_bind.1 h with ⟨e, rfl, he⟩ | ⟨t₁, mapped, m, t₂, rfl, hbatch, hrest⟩
  · obtain ⟨reply, rfl, ho⟩ := runs_fanOut he
    exact Or.inl ⟨reply, e, ho.symm, rfl, rfl⟩
  obtain ⟨reply, rfl, ho⟩ := runs_fanOut hbatch
  obtain rfl := fanned_eq_ok ho.symm
  obtain ⟨t₃, _, m', t₄, rfl, hcommit, h⟩ :=
    Attempt.runs_bind_of_ok (fun he => ⟨_, (runs_commitRemapped he).1⟩) hrest
  obtain ⟨hresults, rfl⟩ := runs_commitRemapped hcommit
  cases hresults
  obtain ⟨⟨⟩, m₁, t₅, rfl, -, h⟩ := runs_ask_bind.1 h
  obtain ⟨⟨⟩, m₂, t₆, rfl, -, h⟩ := runs_ask_bind.1 h
  obtain ⟨rfl, ho, -⟩ := Attempt.runs_pure.1 h
  exact Or.inr ⟨mapped, ho, rfl⟩

/-- So does the step that reads health. -/
theorem runs_evaluateAll {listing : List AppRecord} {o : Except Fault (List String)}
    (h : Attempt.Runs A (evaluateAll listing) w t o w') :
    (∃ reply f, fanned reply = .error f ∧ o = .error f ∧ t = [⟨.batch (listing.map evaluateTask), reply⟩]) ∨
      ∃ results, o = .ok (evaluatedOf results) ∧ t = evaluating listing results := by
  unfold evaluateAll at h
  rcases Attempt.runs_bind.1 h with ⟨e, rfl, he⟩ | ⟨t₁, results, m, t₂, rfl, hbatch, hrest⟩
  · obtain ⟨reply, rfl, ho⟩ := runs_fanOut he
    exact Or.inl ⟨reply, e, ho.symm, rfl, rfl⟩
  obtain ⟨reply, rfl, ho⟩ := runs_fanOut hbatch
  obtain rfl := fanned_eq_ok ho.symm
  obtain ⟨t₃, _, m', t₄, rfl, hcommit, h⟩ :=
    Attempt.runs_bind_of_ok (fun he => ⟨_, (runs_commitEvaluated he).1⟩) hrest
  obtain ⟨hresults, rfl⟩ := runs_commitEvaluated hcommit
  cases hresults
  obtain ⟨⟨⟩, m₁, t₅, rfl, -, h⟩ := runs_ask_bind.1 h
  obtain ⟨rfl, ho, -⟩ := Attempt.runs_pure.1 h
  exact Or.inr ⟨results, ho, rfl⟩

/-- **The ways of the steps that need the pool.** One of them fails, or both are carried out. -/
inductive PooledTranscript (r : Roster) (listing stale : List AppRecord) :
    List (Exchange Keeping) → Except Fault ((List String × List String) × List String) → Prop where
  | unmapped {reply : BatchReply} {f : Fault} (failed : fanned reply = .error f) :
      PooledTranscript r listing stale [⟨.batch (stale.map r.remapTask), reply⟩] (.error f)
  | unevaluated {mapped : List (Option Workload)} {reply : BatchReply} {f : Fault} (failed : fanned reply = .error f) :
      PooledTranscript r listing stale (r.remapping stale mapped ++ [⟨.batch (listing.map evaluateTask), reply⟩])
        (.error f)
  | finished {mapped results : List (Option Workload)} :
      PooledTranscript r listing stale (r.remapping stale mapped ++ evaluating listing results)
        (.ok ((remappedOf (stale.zip mapped), skippedOf (stale.zip mapped)), evaluatedOf results))

theorem runs_pooledSteps {r : Roster} {listing stale : List AppRecord}
    {o : Except Fault ((List String × List String) × List String)}
    (h : Attempt.Runs A (r.pooledSteps listing stale) w t o w') : PooledTranscript r listing stale t o := by
  unfold pooledSteps at h
  rcases Attempt.runs_bind.1 h with ⟨e, rfl, he⟩ | ⟨t₁, changes, m, t₂, rfl, hremap, h⟩
  · rcases runs_remap he with ⟨reply, f, hfailed, ho, rfl⟩ | ⟨_, ho, -⟩
    · cases ho
      exact PooledTranscript.unmapped hfailed
    · cases ho
  rcases runs_remap hremap with ⟨_, _, -, ho, -⟩ | ⟨mapped, ho, rfl⟩
  · cases ho
  cases ho
  rcases Attempt.runs_bind.1 h with ⟨e, rfl, he⟩ | ⟨t₃, names, m', t₄, rfl, hevaluate, h⟩
  · rcases runs_evaluateAll he with ⟨reply, f, hfailed, ho, rfl⟩ | ⟨_, ho, -⟩
    · cases ho
      exact PooledTranscript.unevaluated hfailed
    · cases ho
  rcases runs_evaluateAll hevaluate with ⟨_, _, -, ho, -⟩ | ⟨results, ho, rfl⟩
  · cases ho
  cases ho
  obtain ⟨rfl, rfl, -⟩ := Attempt.runs_pure.1 h
  rw [List.append_nil]
  exact PooledTranscript.finished

/-! ## Cycles -/

/-- What is exchanged up to the looks, when these keys were shown and these workloads evicted. -/
def opening (began : Number) (keys : List String) (gone : List (String × Bool)) : List (Exchange Keeping) :=
  ⟨.stopwatch, began⟩ :: ⟨.keys, keys⟩ :: (evictions gone ++
    [counted (.evicted (.whole (gone.map (·.1)).length)),
     reported .debug "Evicted applications no longer on the platform" [("count", .int (gone.map (·.1)).length)]])

/-- What is exchanged at the end of a cycle, when the stopwatch is read again. -/
def closing (status : String) (began ended : Number) : List (Exchange Keeping) :=
  [⟨.stopwatch, ended⟩, counted (.cycle status (ended - began))]

/-- What is exchanged at the end of a cycle that failed with this: an abort is counted, and nothing else is. -/
def failing (f : Fault) (began ended : Number) : List (Exchange Keeping) :=
  if f.isAbort then closing "aborted" began ended else []

theorem forall_mem_failing {P : Exchange Keeping → Prop} {began ended : Number}
    (h : ∀ e ∈ closing "aborted" began ended, P e) (f : Fault) : ∀ e ∈ failing f began ended, P e := by
  unfold failing
  split
  · exact h
  · exact List.forall_mem_nil _

/-- What is reported of a cycle. -/
def summary (listing : List AppRecord) (done : Refresh) : Exchange Keeping :=
  reported .info "Refreshed applications"
    [("listed", .int listing.length), ("evicted", .int done.evicted.length), ("remapped", .int done.remapped.length),
     ("skipped", .int done.skipped.length)]

/-- **The ways of a cycle after it has looked.** It began at a time, evicted some workloads and found these for the
records; what it exchanges after that, and how it ends. -/
inductive Transcript (r : Roster) (listing : List AppRecord) (began : Number) (gone : List String)
    (seen : List (AppRecord × Option Workload)) : List (Exchange Keeping) → Except Fault Refresh → Prop where
  /-- It could not be told whether some record is stale. -/
  | unreadable {record : AppRecord} {x : Workload} {f : Fault} (looked : seen.map (·.1) <+: listing)
      (cached : (record, some x) ∈ seen) (unread : record.updatedMillis = .error f) :
      Transcript r listing began gone seen [] (.error f)
  /-- The pool failed. -/
  | broken {t : List (Exchange Keeping)} {f : Fault} {ended : Number} (looked : seen.map (·.1) = listing)
      (tells : ∀ look ∈ seen, look.1.Tells look.2)
      (pooled : PooledTranscript r listing (staleSeen seen) t (.error f)) :
      Transcript r listing began gone seen (t ++ failing f began ended) (.error f)
  /-- Both steps were carried out. -/
  | finished {t : List (Exchange Keeping)} {remapped skipped evaluated : List String} {ended : Number}
      (looked : seen.map (·.1) = listing) (tells : ∀ look ∈ seen, look.1.Tells look.2)
      (pooled : PooledTranscript r listing (staleSeen seen) t (.ok ((remapped, skipped), evaluated))) :
      Transcript r listing began gone seen
        (t ++ (closing "success" began ended ++ [summary listing ⟨gone, remapped, skipped, evaluated⟩]))
        (.ok ⟨gone, remapped, skipped, evaluated⟩)

/-- **What a cycle exchanges**, without the fields bound around it. -/
theorem runs_refreshUnbound {r : Roster} {listing : List AppRecord} {o : Except Fault Refresh}
    (h : Attempt.Runs A (r.refreshUnbound listing) w t o w') :
    ∃ began keys gone seen rest, gone.map (·.1) = keys.filter (fun key => !listing.any (·.guid = key)) ∧
      t = opening began keys gone ++ (looks seen ++ rest) ∧
      Transcript r listing began (gone.map (·.1)) seen rest o := by
  unfold refreshUnbound at h
  obtain ⟨began, m₁, t₁, rfl, -, h⟩ := runs_ask_bind.1 h
  obtain ⟨t₂, _, m₂, t₃, rfl, hevict, h⟩ := Attempt.runs_bind_of_ok
    (fun he => let ⟨_, _, _, ho, _⟩ := runs_evict he; ⟨_, ho⟩) h
  obtain ⟨keys, gone, hgone, ho, rfl⟩ := runs_evict hevict
  cases ho
  obtain ⟨⟨⟩, m₃, t₄, rfl, -, h⟩ := runs_ask_bind.1 h
  rw [report_eq] at h
  obtain ⟨⟨⟩, m₄, t₅, rfl, -, h⟩ := runs_ask_bind.1 h
  suffices hrest : ∃ seen rest, t₅ = looks seen ++ rest ∧ Transcript r listing began (gone.map (·.1)) seen rest o by
    obtain ⟨seen, rest, rfl, htranscript⟩ := hrest
    refine ⟨began, keys, gone, seen, rest, hgone, ?_, htranscript⟩
    unfold opening
    simp only [List.cons_append, List.append_assoc, List.nil_append]
  rcases Attempt.runs_bind.1 h with ⟨e, rfl, he⟩ | ⟨t₆, stale, m₅, t₇, rfl, hstale, h⟩
  · obtain ⟨seen, rfl, ⟨-, -, ho⟩ | ⟨hlooked, record, x, f, hmem, hf, ho⟩⟩ := runs_staleOf he
    · cases ho
    · cases ho
      exact ⟨seen, [], (List.append_nil _).symm, Transcript.unreadable hlooked hmem hf⟩
  obtain ⟨seen, rfl, ⟨hlooked, htells, ho⟩ | ⟨-, _, _, _, -, -, ho⟩⟩ := runs_staleOf hstale
  · cases ho
    obtain ⟨t₈, settled, m₆, t₉, rfl, hruns, h⟩ := Attempt.runs_settle_bind.1 h
    have hpooled := runs_pooledSteps hruns
    refine ⟨seen, _, rfl, ?_⟩
    cases settled with
    | error f =>
      suffices hfailing : o = .error f ∧ ∃ ended, t₉ = failing f began ended by
        obtain ⟨rfl, ended, rfl⟩ := hfailing
        exact Transcript.broken hlooked htells hpooled
      dsimp only at h
      unfold failing
      -- only an abort is counted
      cases habort : f.isAbort with
      | true =>
        rw [if_pos habort] at h
        obtain ⟨ended, m₇, t₁₀, rfl, -, h⟩ := runs_ask_bind.1 h
        obtain ⟨⟨⟩, m₈, t₁₁, rfl, -, h⟩ := runs_ask_bind.1 h
        obtain ⟨rfl, ho, -⟩ := Attempt.runs_throw.1 h
        exact ⟨ho, ended, (if_pos rfl).symm⟩
      | false =>
        rw [if_neg (by rw [habort]; decide)] at h
        obtain ⟨rfl, ho, -⟩ := Attempt.runs_throw.1 h
        exact ⟨ho, 0, (if_neg (by decide)).symm⟩
    | ok names =>
      obtain ⟨⟨remapped, skipped⟩, evaluated⟩ := names
      obtain ⟨ended, m₇, t₁₀, rfl, -, h⟩ := runs_ask_bind.1 h
      obtain ⟨⟨⟩, m₈, t₁₁, rfl, -, h⟩ := runs_ask_bind.1 h
      rw [report_eq] at h
      obtain ⟨⟨⟩, m₉, t₁₂, rfl, -, h⟩ := runs_ask_bind.1 h
      obtain ⟨rfl, rfl, -⟩ := Attempt.runs_pure.1 h
      exact Transcript.finished hlooked htells hpooled
  · cases ho

end Roster

end Steward
