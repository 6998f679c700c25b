import Steward.Proofs.Roster.Metering

/-!
# The ledger of cycles

The counters of an account say what became of its cycles, whatever they listed, whatever the platform and the cache
held, and wherever the pool failed. A cycle is charged for its end, for what it evicted, and for what each step that it
carried out did and left out. Whole rows of cycles add up to what the counters say.

## Contents

* `Charges` — what a cycle is charged for; `Charges.columns` — the counters of it;
* `Round`, `Round.Ran` — a cycle that was carried out; `Round.raises`, `Round.charges` — how far it raises counters;
* `Round.Breaks` — a batch that failed; `Round.Balances` — how charges go with the end of a cycle;
  `Round.Ran.balances` — every cycle;
* `Round.Ran.value_after` — what a counter says after a cycle;
* `Ledger` — cycles in a row; `Ledger.value_after` — what a counter says after all of them;
* `Roster.refresh_balances` — all of it, with meters that count and with others;
* `Round.handled` — the cycle that the handler of keepers makes of a listing.
-/

namespace Steward

open Keeping

/-! ## Charges -/

/-- **What a cycle is charged for**, counter by counter. -/
structure Charges where
  /-- Cycles that ended well. -/
  successes : Nat
  /-- Cycles that were aborted. -/
  aborts : Nat
  evicted : Nat
  /-- Workloads that were put together again. -/
  remapped : Nat
  /-- Workloads that were left out when they were to be put together again. -/
  unmapped : Nat
  /-- Workloads that were left out when their health was to be read. -/
  unread : Nat
  deriving DecidableEq

namespace Charges

/-- What some measures charge an account for. -/
def of (account : String) (ms : List Measure) : Charges where
  successes := Measure.raised account ((Measure.cycle "success" 0).series account) ms
  aborts := Measure.raised account ((Measure.cycle "aborted" 0).series account) ms
  evicted := Measure.raised account ((Measure.evicted 0).series account) ms
  remapped := Measure.raised account ((Measure.remapped 0).series account) ms
  unmapped := Measure.raised account ((Measure.skipped "remap" 0).series account) ms
  unread := Measure.raised account ((Measure.skipped "health" 0).series account) ms

/-- The counters of charges. -/
def columns (account : String) : List Series :=
  [Measure.cycle "success" 0, .cycle "aborted" 0, .evicted 0, .remapped 0, .skipped "remap" 0,
    .skipped "health" 0].map (Measure.series account)

end Charges

/-! ## The ways of a cycle -/

namespace Roster

variable {account : String} {listing : List AppRecord} {gone : List String} {seen : List (String × Option Workload)}
  {replies : List (Nat × BatchReply)} {o : Except Fault Refresh} {ms : List Measure}

/-- Whatever a cycle measures is among these measures, in this order. -/
theorem Charged.sublist (h : Charged listing gone seen replies o ms) :
    ∃ (remapped unmapped unread : Nat) (status : String) (duration : Number),
      (status = "success" ∨ status = "aborted") ∧
        ms.Sublist [.evicted (.whole gone.length), .remapped (.whole remapped), .skipped "remap" (.whole unmapped),
          .skipped "health" (.whole unread), .cycle status duration] := by
  -- a cycle that fails measures its end if it is aborted
  have hlast : ∀ f duration, (lastMeasures f duration).Sublist [.cycle "aborted" duration] := by
    intro f duration
    unfold lastMeasures
    split
    · exact List.Sublist.refl _
    · exact List.nil_sublist _
  cases h with
  | unreadable => exact ⟨0, 0, 0, "success", 0, Or.inl rfl, (List.nil_sublist _).cons_cons _⟩
  | @unmapped _ f duration =>
    exact ⟨0, 0, 0, "aborted", duration, Or.inr rfl, ((((hlast f duration).cons _).cons _).cons _).cons_cons _⟩
  | @unevaluated _ _ f duration =>
    exact ⟨_, _, 0, "aborted", duration, Or.inr rfl, ((((hlast f duration).cons _).cons_cons _).cons_cons _).cons_cons _⟩
  | finished => exact ⟨_, _, _, "success", _, Or.inl rfl, List.Sublist.refl _⟩

theorem Charged.isCount (h : Charged listing gone seen replies o ms) : ∀ m ∈ ms, m.IsCount := by
  obtain ⟨remapped, unmapped, unread, status, duration, -, hms⟩ := h.sublist
  have hall : ∀ m ∈ [Measure.evicted (.whole gone.length), .remapped (.whole remapped), .skipped "remap" (.whole unmapped),
      .skipped "health" (.whole unread), .cycle status duration], m.IsCount := by
    simp [Measure.IsCount]
  exact fun m hm => hall m (hms.subset hm)

/-- A cycle measures nothing twice. -/
theorem Charged.nodup (h : Charged listing gone seen replies o ms) (account : String) :
    (ms.map (Measure.series account)).Nodup := by
  obtain ⟨_, _, _, _, _, -, hms⟩ := h.sublist
  refine List.Nodup.sublist (hms.map _) ?_
  simp [Measure.series]

/-- A cycle measures nothing else. -/
theorem Charged.series_mem (h : Charged listing gone seen replies o ms) (account : String) :
    ∀ m ∈ ms, m.series account ∈ Charges.columns account := by
  obtain ⟨_, _, _, _, _, hstatus, hms⟩ := h.sublist
  refine fun m hm => List.forall_mem_map.1 ?_ m (hms.subset hm)
  rcases hstatus with rfl | rfl <;> simp [Measure.series, Charges.columns]

/-- Every record of a step came to a workload or was left out. -/
theorem length_remappedOf_add (pairs : List (AppRecord × Option Workload)) :
    (remappedOf pairs).length + (skippedOf pairs).length = pairs.length := by
  unfold remappedOf skippedOf
  rw [List.length_map, List.length_map]
  induction pairs with
  | nil => rfl
  | cons pair rest ih =>
    obtain ⟨record, x⟩ := pair
    cases x with
    | none =>
      rw [List.filterMap_cons_none rfl, List.filter_cons_of_pos rfl, List.length_cons, List.length_cons, ← ih]
      rfl
    | some x =>
      have hkept : ((record, some x) :: rest).filterMap (·.2) = x :: rest.filterMap (·.2) :=
        List.filterMap_cons_some rfl
      rw [hkept, List.filter_cons_of_neg (by simp), List.length_cons, List.length_cons, ← ih]
      exact Nat.add_right_comm _ _ _

/-- What a batch for some records came to, and how many of them were left out. -/
theorem length_remappedOf_zip {records : List AppRecord} {mapped : List (Option Workload)}
    (h : mapped.length = records.length) :
    (remappedOf (records.zip mapped)).length = (mapped.filterMap id).length ∧
      (remappedOf (records.zip mapped)).length + (skippedOf (records.zip mapped)).length = records.length := by
  constructor
  · have hsecond : (records.zip mapped).map (·.2) = mapped := List.map_snd_zip (Nat.le_of_eq h)
    have hsplit : (records.zip mapped).filterMap (·.2) = ((records.zip mapped).map (·.2)).filterMap id := by
      rw [List.filterMap_map]
      rfl
    unfold remappedOf
    rw [List.length_map, hsplit, hsecond]
  · rw [length_remappedOf_add, List.length_zip, h, Nat.min_self]

theorem length_evaluatedOf_le (results : List (Option Workload)) : (evaluatedOf results).length ≤ results.length := by
  unfold evaluatedOf
  rw [List.length_map]
  exact List.length_filterMap_le _ _

/-! ### What each way is charged for -/

theorem charges_unreadable (account : String) (gone : List String) :
    Charges.of account [.evicted (.whole gone.length)]
      = { successes := 0, aborts := 0, evicted := gone.length, remapped := 0, unmapped := 0, unread := 0 } := by
  simp [Charges.of, Measure.raised_cons, Measure.series, Measure.count]

theorem charges_unmapped (account : String) (gone : List String) (f : Fault) (duration : Number) :
    Charges.of account (.evicted (.whole gone.length) :: lastMeasures f duration)
      = { successes := 0, aborts := f.isAbort.toNat, evicted := gone.length, remapped := 0, unmapped := 0,
          unread := 0 } := by
  cases habort : f.isAbort <;>
    simp [Charges.of, lastMeasures, habort, Measure.raised_cons, Measure.series, Measure.count]

theorem charges_unevaluated (account : String) (gone : List String) (pairs : List (AppRecord × Option Workload))
    (f : Fault) (duration : Number) :
    Charges.of account (.evicted (.whole gone.length) :: (remapMeasures pairs ++ lastMeasures f duration))
      = { successes := 0, aborts := f.isAbort.toNat, evicted := gone.length, remapped := (remappedOf pairs).length,
          unmapped := (skippedOf pairs).length, unread := 0 } := by
  cases habort : f.isAbort <;>
    simp [Charges.of, lastMeasures, remapMeasures, habort, Measure.raised_cons, Measure.series, Measure.count]

theorem charges_finished (account : String) (gone : List String) (pairs : List (AppRecord × Option Workload))
    (unread : Nat) (duration : Number) :
    Charges.of account (.evicted (.whole gone.length) :: (remapMeasures pairs ++ [.skipped "health" (.whole unread)]
        ++ [.cycle "success" duration]))
      = { successes := 1, aborts := 0, evicted := gone.length, remapped := (remappedOf pairs).length,
          unmapped := (skippedOf pairs).length, unread := unread } := by
  simp [Charges.of, remapMeasures, Measure.raised_cons, Measure.series, Measure.count]

/-- A time that cannot be read does not abort a cycle. -/
theorem isAbort_of_updatedMillis {record : AppRecord} {f : Fault} (h : record.updatedMillis = .error f) :
    f.isAbort = false := by
  unfold AppRecord.updatedMillis AppRecord.millisOf at h
  split at h
  · cases h
  · cases h
    rfl

/-- A cycle that ended well. -/
theorem Charged.of_ok {done : Refresh} (h : Charged listing gone seen replies (.ok done) ms)
    (hreplies : ∀ n outcomes, (n, .ok outcomes) ∈ replies → outcomes.length = n) (account : String) :
    seen.map (·.1) = listing.map (·.guid) ∧ done.evicted = gone ∧
      done.remapped.length + done.skipped.length = (staleAmong listing seen).length ∧
      done.evaluated.length ≤ listing.length ∧ Charges.of account ms =
        { successes := 1, aborts := 0, evicted := done.evicted.length, remapped := done.remapped.length,
          unmapped := done.skipped.length, unread := listing.length - done.evaluated.length } := by
  cases h with
  | @finished mapped evaluated duration looked =>
    have hmapped := hreplies _ _ List.mem_cons_self
    have hevaluated := hreplies _ _ (List.mem_cons_of_mem _ List.mem_cons_self)
    rw [List.length_map] at hmapped hevaluated
    rw [← hevaluated]
    exact ⟨looked, rfl, (length_remappedOf_zip hmapped).2, length_evaluatedOf_le evaluated,
      charges_finished account gone _ _ duration⟩

/-- A cycle that failed: the time of a record could not be read, or a batch failed. It is charged for an abort if it was
aborted. -/
theorem Charged.of_error {f : Fault} (h : Charged listing gone seen replies (.error f) ms)
    (hreplies : ∀ n outcomes, (n, .ok outcomes) ∈ replies → outcomes.length = n) (account : String) :
    (∃ record ∈ listing, record.updatedMillis = .error f) ∧ Charges.of account ms =
        { successes := 0, aborts := 0, evicted := gone.length, remapped := 0, unmapped := 0, unread := 0 } ∨
      seen.map (·.1) = listing.map (·.guid) ∧
        ((∃ reply, replies = [((staleAmong listing seen).length, reply)] ∧ fanned reply = .error f ∧
            Charges.of account ms =
              { successes := 0, aborts := f.isAbort.toNat, evicted := gone.length, remapped := 0, unmapped := 0,
                unread := 0 }) ∨
          ∃ (mapped : List (Option Workload)) (reply : BatchReply),
            replies = [((staleAmong listing seen).length, .ok (mapped.map .ok)), (listing.length, reply)] ∧
            fanned reply = .error f ∧ mapped.length = (staleAmong listing seen).length ∧ Charges.of account ms =
              { successes := 0, aborts := f.isAbort.toNat, evicted := gone.length,
                remapped := (mapped.filterMap id).length,
                unmapped := (staleAmong listing seen).length - (mapped.filterMap id).length, unread := 0 }) := by
  cases h with
  | @unreadable record _ listed unread => exact Or.inl ⟨⟨record, listed, unread⟩, charges_unreadable account gone⟩
  | @unmapped reply _ duration looked failed =>
    exact Or.inr ⟨looked, Or.inl ⟨reply, rfl, failed, charges_unmapped account gone f duration⟩⟩
  | @unevaluated mapped reply _ duration looked failed =>
    have hmapped := hreplies _ _ List.mem_cons_self
    rw [List.length_map] at hmapped
    obtain ⟨hremapped, hall⟩ := length_remappedOf_zip hmapped
    refine Or.inr ⟨looked, Or.inr ⟨mapped, reply, rfl, failed, hmapped, ?_⟩⟩
    rw [charges_unevaluated, ← hall, hremapped, Nat.add_sub_cancel_left]

end Roster

/-! ## Rounds -/

/-- A cycle among others: what was listed, what there was before and after, what was exchanged, and how it ended. -/
structure Round (τ σ : Type) where
  listing : List AppRecord
  before : Workshop τ σ
  exchanges : List (Exchange Keeping)
  outcome : Except Fault Refresh
  after : Workshop τ σ

namespace Round

variable {τ σ : Type}

/-- The cycle was carried out, and nobody else touched the counters meanwhile. -/
def Ran [Sub τ] [LE τ] [DecidableLE τ] (platform : Handler Inquiry σ) (r : Roster) (c : Round τ σ) : Prop :=
  Attempt.Runs (Workshop.Counting platform) (r.refresh c.listing) c.before c.exchanges c.outcome c.after

/-- How far the cycle raises a counter. -/
def raises (account : String) (c : Round τ σ) (s : Series) : Nat :=
  Measure.raised account s (measured c.exchanges)

/-- What the cycle is charged for. -/
def charges (account : String) (c : Round τ σ) : Charges :=
  .of account (measured c.exchanges)

/-- The records that were stale by what was looked up for them. -/
def stale (c : Round τ σ) : List AppRecord :=
  Roster.staleAmong c.listing (found c.exchanges)

/-- Each record was looked up under its identifier, once. -/
def Looked (c : Round τ σ) : Prop :=
  (found c.exchanges).map (·.1) = c.listing.map (·.guid)

/-- The one batch that was handed out, for the stale records, failed with this for the cycle. -/
def FailsMapping (c : Round τ σ) (f : Fault) : Prop :=
  ∃ reply, batched c.exchanges = [(c.stale.length, reply)] ∧ Roster.fanned reply = .error f

/-- The batch for the stale records came to these workloads, and the batch for the whole listing failed with this for
the cycle. -/
def FailsReading (c : Round τ σ) (mapped : List (Option Workload)) (f : Fault) : Prop :=
  ∃ reply, batched c.exchanges = [(c.stale.length, .ok (mapped.map .ok)), (c.listing.length, reply)] ∧
    Roster.fanned reply = .error f

/-- A batch failed with this for the cycle, which is charged for so many aborts, for what it dropped, and for the step
before the one that failed. -/
def Breaks (account : String) (c : Round τ σ) (f : Fault) (aborts : Nat) : Prop :=
  c.Looked ∧
    (c.FailsMapping f ∧ c.charges account =
        { successes := 0, aborts, evicted := (dropped c.exchanges).length, remapped := 0, unmapped := 0, unread := 0 } ∨
      ∃ mapped, c.FailsReading mapped f ∧ mapped.length = c.stale.length ∧ c.charges account =
        { successes := 0, aborts, evicted := (dropped c.exchanges).length, remapped := (mapped.filterMap id).length,
          unmapped := c.stale.length - (mapped.filterMap id).length, unread := 0 })

/-- **A cycle is accounted for** by what an account is charged. -/
structure Balances (account : String) (c : Round τ σ) : Prop where
  /-- A cycle that ended well is charged for what it says. -/
  succeeded : ∀ done, c.outcome = .ok done → c.Looked ∧ done.evicted = dropped c.exchanges ∧
    done.remapped.length + done.skipped.length = c.stale.length ∧ done.evaluated.length ≤ c.listing.length ∧
    c.charges account =
      { successes := 1, aborts := 0, evicted := done.evicted.length, remapped := done.remapped.length,
        unmapped := done.skipped.length, unread := c.listing.length - done.evaluated.length }
  /-- One that was aborted is charged for that, for what it dropped, and for the step before the one that failed. -/
  aborted : ∀ f, c.outcome = .error f → f.category = .refreshAborted → c.Breaks account f 1
  /-- One that failed but was not aborted is charged for no end. It came upon a time that cannot be read, or the pool
  rejected a submission with that very fault, which is no runtime error. -/
  halted : ∀ f, c.outcome = .error f → f.category ≠ .refreshAborted →
    (∃ record ∈ c.listing, record.updatedMillis = .error f) ∧ c.charges account =
        { successes := 0, aborts := 0, evicted := (dropped c.exchanges).length, remapped := 0, unmapped := 0,
          unread := 0 } ∨
      f.isRuntime = false ∧ (∃ n, (n, .error f) ∈ batched c.exchanges) ∧ c.Breaks account f 0
  /-- Nothing else is counted. -/
  otherwise : ∀ s, s ∉ Charges.columns account → c.raises account s = 0

/-- A batch that failed with what aborts no cycle was rejected with it. -/
theorem Breaks.rejected {c : Round τ σ} {account : String} {f : Fault} {aborts : Nat} (h : c.Breaks account f aborts)
    (hf : f.isAbort = false) : f.isRuntime = false ∧ ∃ n, (n, .error f) ∈ batched c.exchanges := by
  have hreply : ∀ {reply : BatchReply}, Roster.fanned reply = .error f → reply = .error f ∧ f.isRuntime = false := by
    intro reply hfailed
    rcases Roster.isAbort_of_fanned hfailed with habort | hrejected
    · rw [hf] at habort
      cases habort
    · exact hrejected
  obtain ⟨-, ⟨⟨reply, hbatched, hfailed⟩, -⟩ | ⟨mapped, ⟨reply, hbatched, hfailed⟩, -⟩⟩ := h
  · obtain ⟨rfl, hruntime⟩ := hreply hfailed
    exact ⟨hruntime, _, hbatched ▸ List.mem_cons_self⟩
  · obtain ⟨rfl, hruntime⟩ := hreply hfailed
    exact ⟨hruntime, _, hbatched ▸ List.mem_cons_of_mem _ List.mem_cons_self⟩

variable [Sub τ] [LE τ] [DecidableLE τ] {platform : Handler Inquiry σ} {r : Roster} {c : Round τ σ}

theorem Ran.charged (h : c.Ran platform r) :
    Roster.Charged c.listing (dropped c.exchanges) (found c.exchanges) (batched c.exchanges) c.outcome
      (measured c.exchanges) :=
  Roster.refresh_charged h

/-- A cycle that failed came upon a time that cannot be read, or a batch failed. -/
theorem Ran.fails (h : c.Ran platform r) (account : String) {f : Fault} (hf : c.outcome = .error f) :
    ((∃ record ∈ c.listing, record.updatedMillis = .error f) ∧ c.charges account =
        { successes := 0, aborts := 0, evicted := (dropped c.exchanges).length, remapped := 0, unmapped := 0,
          unread := 0 }) ∨ c.Breaks account f f.isAbort.toNat := by
  have hcharged := h.charged
  rw [hf] at hcharged
  refine (hcharged.of_error (Workshop.batched_of_runs h) account).imp id ?_
  rintro ⟨looked, ⟨reply, hbatched, hfailed, hcharges⟩ | ⟨mapped, reply, hbatched, hfailed, hlength, hcharges⟩⟩
  · exact ⟨looked, Or.inl ⟨⟨reply, hbatched, hfailed⟩, hcharges⟩⟩
  · exact ⟨looked, Or.inr ⟨mapped, ⟨reply, hbatched, hfailed⟩, hlength, hcharges⟩⟩

/-- **Every cycle is accounted for.** -/
theorem Ran.balances (h : c.Ran platform r) (account : String) : c.Balances account := by
  refine ⟨?_, ?_, ?_, ?_⟩
  · intro done hdone
    have hcharged := h.charged
    rw [hdone] at hcharged
    exact hcharged.of_ok (Workshop.batched_of_runs h) account
  · intro f hf hcategory
    have habort : f.isAbort = true := decide_eq_true hcategory
    have hfails := h.fails account hf
    rw [habort] at hfails
    rcases hfails with ⟨⟨record, -, hunread⟩, -⟩ | hbreaks
    · rw [Roster.isAbort_of_updatedMillis hunread] at habort
      cases habort
    · exact hbreaks
  · intro f hf hcategory
    have habort : f.isAbort = false := decide_eq_false hcategory
    have hfails := h.fails account hf
    rw [habort] at hfails
    refine hfails.imp id fun hbreaks => ?_
    obtain ⟨hruntime, hrejected⟩ := hbreaks.rejected habort
    exact ⟨hruntime, hrejected, hbreaks⟩
  · intro s hs
    refine Measure.raised_eq_zero ?_
    rintro m hm rfl
    exact hs (h.charged.series_mem account m hm)

/-- **What a counter says after a cycle**: it is raised as the cycle raises it, if anything is counted at all. -/
theorem Ran.value_after (h : c.Ran platform r) (s : Series) :
    c.after.session.tally.value s =
      if c.before.session.meter.enabled then
        .grown (c.before.session.tally.value s) (c.raises c.before.session.meter.account s)
      else c.before.session.tally.value s := by
  obtain ⟨-, htally⟩ := Workshop.tally_of_runs h
  have hcharged := h.charged
  rw [htally]
  by_cases henabled : c.before.session.meter.enabled = true
  · rw [if_pos henabled]
    exact Meter.value_recordAll_of_nodup henabled hcharged.isCount (hcharged.nodup _) s
  · rw [if_neg henabled, Meter.recordAll_disabled (Bool.eq_false_iff.2 henabled)]

/-- **A cycle with other counters** exchanges the same, ends the same, and leaves the same cache. -/
theorem Ran.metered (h : c.Ran platform r) (meter : Meter) (tally : Tally) :
    ∃ tally', Ran platform r { c with before := c.before.metered meter tally, after := c.after.metered meter tally' } :=
  Workshop.runs_metered h meter tally

end Round

/-! ## Ledgers -/

/-- **Cycles in a row** that are counted with one meter. Between two of them anything may happen but to the counters. -/
inductive Ledger {τ σ : Type} [Sub τ] [LE τ] [DecidableLE τ] (platform : Handler Inquiry σ) (r : Roster)
    (meter : Meter) : Tally → List (Round τ σ) → Tally → Prop where
  | nil (s : Tally) : Ledger platform r meter s [] s
  | cons {c : Round τ σ} {cs : List (Round τ σ)} {s s' : Tally} (ran : c.Ran platform r)
      (carried : c.before.session.tally = s) (same : c.before.session.meter = meter)
      (rest : Ledger platform r meter c.after.session.tally cs s') : Ledger platform r meter s (c :: cs) s'

namespace Ledger

variable {τ σ : Type} [Sub τ] [LE τ] [DecidableLE τ] {platform : Handler Inquiry σ} {r : Roster} {meter : Meter}
  {s s' : Tally} {cs : List (Round τ σ)}

theorem ran (h : Ledger platform r meter s cs s') : ∀ c ∈ cs, c.Ran platform r ∧ c.before.session.meter = meter := by
  induction h with
  | nil => exact List.forall_mem_nil _
  | cons ran _ same _ ih => exact List.forall_mem_cons.2 ⟨⟨ran, same⟩, ih⟩

/-- **What a counter says after cycles in a row**, if it said a whole number before them: so much more as they raise it
by together. -/
theorem value_after (h : Ledger platform r meter s cs s') (enabled : meter.enabled = true) {k : Series} {n : Nat}
    (hk : s.value k = .ofInt n) (hmax : n + (cs.map fun c => c.raises meter.account k).sum ≤ Binary64.twoTo 53) :
    s'.value k = .ofInt (n + (cs.map fun c => c.raises meter.account k).sum : Nat) := by
  induction h generalizing n with
  | nil =>
    rw [List.map_nil, List.sum_nil, Nat.add_zero]
    exact hk
  | @cons c cs s s' ran carried same _ ih =>
    rw [List.map_cons, List.sum_cons, ← Nat.add_assoc] at hmax ⊢
    refine ih ?_ hmax
    rw [ran.value_after, carried, same, if_pos enabled, hk]
    exact Binary64.grown_ofInt (by omega)

/-- Nothing changes where nothing is counted. -/
theorem unchanged (h : Ledger platform r meter s cs s') (disabled : meter.enabled = false) :
    s' = s ∧ ∀ c ∈ cs, c.after.session.tally = s := by
  induction h with
  | nil => exact ⟨rfl, List.forall_mem_nil _⟩
  | @cons c cs s s' ran carried same _ ih =>
    have hafter : c.after.session.tally = s := by
      rw [(Workshop.tally_of_runs ran).2, carried, same, Meter.recordAll_disabled disabled]
    rw [hafter] at ih
    exact ⟨ih.1, List.forall_mem_cons.2 ⟨hafter, ih.2⟩⟩

end Ledger

/-- **The accounts of cycles balance.** Take any cycles in a row, over any listings, on any platform, from any cache,
with a pool that fails wherever it likes, while entries expire or not.

With a meter that counts, every cycle is accounted for, and raises each counter by what it is charged for; and so the
counters say after all of them, as long as whole numbers are exact. With one that does not count, no counter changes.
Whatever is counted, a cycle can go with any other meter as it goes with this one, to the same end and the same cache;
and under the handler of keepers it does. -/
theorem Roster.refresh_balances {τ σ : Type} [Sub τ] [LE τ] [DecidableLE τ] (platform : Handler Inquiry σ) (r : Roster)
    {meter : Meter} {s s' : Tally} {cs : List (Round τ σ)} (h : Ledger platform r meter s cs s') :
    (meter.enabled = true →
      (∀ c ∈ cs, c.Balances meter.account ∧
        ∀ k, c.after.session.tally.value k = .grown (c.before.session.tally.value k) (c.raises meter.account k)) ∧
      ∀ k (n : Nat), s.value k = .ofInt n → n + (cs.map fun c => c.raises meter.account k).sum ≤ Binary64.twoTo 53 →
        s'.value k = .ofInt (n + (cs.map fun c => c.raises meter.account k).sum : Nat)) ∧
    (meter.enabled = false → s' = s ∧ ∀ c ∈ cs, c.after.session.tally = s) ∧
    ∀ c ∈ cs, ∀ meter' tally,
      (∃ c' : Round τ σ, c'.Ran platform r ∧ c'.listing = c.listing ∧ c'.before = c.before.metered meter' tally ∧
        c'.exchanges = c.exchanges ∧ c'.outcome = c.outcome ∧
        c'.after.session.cache = c.after.session.cache) ∧
      ∃ tally', (r.refresh c.listing).run (Session.answer platform) (c.before.session.metered meter' tally) =
        (((r.refresh c.listing).run (Session.answer platform) c.before.session).1,
          ((r.refresh c.listing).run (Session.answer platform) c.before.session).2.metered meter' tally') := by
  refine ⟨?_, h.unchanged, ?_⟩
  · intro enabled
    refine ⟨?_, fun k n => h.value_after enabled⟩
    intro c hc
    obtain ⟨ran, same⟩ := h.ran c hc
    refine ⟨ran.balances meter.account, fun k => ?_⟩
    rw [ran.value_after, same, if_pos enabled]
  · intro c hc meter' tally
    obtain ⟨ran, -⟩ := h.ran c hc
    obtain ⟨tally', hran⟩ := ran.metered meter' tally
    exact ⟨⟨_, hran, rfl, rfl, rfl, rfl, rfl⟩,
      Program.run_answer_metered platform (r.refresh c.listing).outcome c.before.session meter' tally⟩

/-- The cycle that the handler of keepers makes of a listing. -/
def Round.handled {τ σ : Type} [Sub τ] [LE τ] [DecidableLE τ] (platform : Handler Inquiry σ) (r : Roster)
    (listing : List AppRecord) (s : Session τ σ) (left : List Job) : Round τ σ where
  listing := listing
  before := ⟨s, []⟩
  exchanges := (r.refresh listing).outcome.exchanged (Session.answer platform) s
  outcome := ((r.refresh listing).run (Session.answer platform) s).1
  after := ⟨((r.refresh listing).run (Session.answer platform) s).2, left⟩

/-- The counters of a session stay as they are until its cycle begins. -/
theorem Round.counters_handled {τ σ : Type} [Sub τ] [LE τ] [DecidableLE τ] (platform : Handler Inquiry σ) (r : Roster)
    (listing : List AppRecord) (s : Session τ σ) (pool : Pool) (left : List Job) :
    (handled platform r listing (s.withPool pool) left).before.session.tally = s.tally ∧
      (handled platform r listing (s.withPool pool) left).before.session.meter = s.meter :=
  ⟨rfl, rfl⟩

theorem Round.ran_handled {τ σ : Type} [Sub τ] [LE τ] [DecidableLE τ] (platform : Handler Inquiry σ) (r : Roster)
    (listing : List AppRecord) (s : Session τ σ) : ∃ left, (handled platform r listing s left).Ran platform r := by
  obtain ⟨left, h⟩ := Workshop.runs_exchanged platform (r.refresh listing).outcome s []
  obtain ⟨_, hruns, rfl⟩ := h.simulate (B := Workshop.Counting platform) Eq
    (fun _ _ _ w' _ hw answer => ⟨w', hw ▸ answer.counting, rfl⟩) rfl
  exact ⟨left, hruns⟩

namespace Roster

/-- A session that counts, with a pool that takes three submissions. -/
def countedSession : Session Nat Unit :=
  (bareSession.withPool (fullAfter 3)).metered ⟨"acct", true⟩ .empty

/-- A cycle over two new applications. -/
def firstRound (left : List Job) : Round Nat Unit :=
  .handled (Facts.alone (webApp "app-1" "STARTED")).platform bare
    [webApp "app-1" "STARTED", webApp "app-2" "STARTED"] countedSession left

/-- The next cycle, over the second of them alone, with a pool that takes everything. -/
def secondRound (left left' : List Job) : Round Nat Unit :=
  .handled (Facts.alone (webApp "app-1" "STARTED")).platform bare [webApp "app-2" "STARTED"]
    ((firstRound left).after.session.withPool .working) left'

/-- What the two cycles raise the counters by. -/
theorem raised_rounds (left left' : List Job) :
    (Charges.columns "acct").map (fun k => ([firstRound left, secondRound left left'].map fun c =>
      c.raises "acct" k).sum) = [1, 1, 1, 2, 0, 0] := by
  have hraised : (Charges.columns "acct").map (fun k => ([firstRound [], secondRound [] []].map fun c =>
      c.raises "acct" k).sum) = [1, 1, 1, 2, 0, 0] := by
    decide +kernel
  exact hraised

/-- The first of the two cycles is aborted when health is read, and the second one ends well: one of each is counted,
one workload was evicted, and two were put together. -/
theorem refresh_balances_halfway :
    ∃ left left' s', Ledger (Facts.alone (webApp "app-1" "STARTED")).platform bare ⟨"acct", true⟩ .empty
        [firstRound left, secondRound left left'] s' ∧
      (firstRound left).Balances "acct" ∧ (secondRound left left').Balances "acct" ∧
      (Charges.columns "acct").map s'.value = [1, 1, 1, 2, 0, 0].map fun n : Nat => .ofInt n := by
  obtain ⟨left, hfirst⟩ := Round.ran_handled (Facts.alone (webApp "app-1" "STARTED")).platform bare
    [webApp "app-1" "STARTED", webApp "app-2" "STARTED"] countedSession
  obtain ⟨left', hsecond⟩ := Round.ran_handled (Facts.alone (webApp "app-1" "STARTED")).platform bare
    [webApp "app-2" "STARTED"] ((firstRound left).after.session.withPool .working)
  have hfirst : (firstRound left).Ran (Facts.alone (webApp "app-1" "STARTED")).platform bare := hfirst
  have hsecond : (secondRound left left').Ran (Facts.alone (webApp "app-1" "STARTED")).platform bare := hsecond
  have hmeter : (firstRound left).after.session.meter = ⟨"acct", true⟩ := (Workshop.tally_of_runs hfirst).1
  obtain ⟨hcarried, hsame⟩ : (secondRound left left').before.session.tally = (firstRound left).after.session.tally ∧
      (secondRound left left').before.session.meter = (firstRound left).after.session.meter := by
    unfold secondRound
    exact Round.counters_handled _ _ _ _ _ _
  have hledger : Ledger (Facts.alone (webApp "app-1" "STARTED")).platform bare ⟨"acct", true⟩ .empty
      [firstRound left, secondRound left left'] _ :=
    .cons hfirst rfl rfl <| .cons hsecond hcarried (hsame.trans hmeter) <| .nil _
  obtain ⟨henabled, -, -⟩ := refresh_balances _ bare hledger
  obtain ⟨hbalances, htotals⟩ := henabled rfl
  obtain ⟨hfirst, hothers⟩ := List.forall_mem_cons.1 hbalances
  refine ⟨left, left', _, hledger, hfirst.1, (List.forall_mem_singleton.1 hothers).1, ?_⟩
  have hsmall : ∀ n ∈ [1, 1, 1, 2, 0, 0], 0 + n ≤ Binary64.twoTo 53 := by decide +kernel
  rw [← raised_rounds left left'] at hsmall ⊢
  rw [List.map_map]
  refine List.map_congr_left ?_
  intro k hk
  have htotal := htotals k 0 (Tally.value_empty k) (hsmall _ (List.mem_map.2 ⟨k, hk, rfl⟩))
  rw [Nat.zero_add] at htotal
  rw [Function.comp_apply]
  exact htotal

end Roster

end Steward
