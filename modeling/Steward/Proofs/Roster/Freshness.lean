import Mathlib.Data.List.Nodup
import Steward.Proofs.Roster.Abort
import Steward.Proofs.Roster.Schedules
import Steward.Proofs.Roster.Work

/-!
# What is fresh after a cycle

A cycle that ends well says what it did, and its lists are the truth about the cache: what was evicted, what was put
together again and what was not, and whose health was read. This holds on any platform, also on one that answers
differently from call to call, and whichever of the many reads of a cycle have failed.

Each step of a cycle works on all records and stores what came of them. Since no two records of the listing have the
same identifier, what is stored for one of them is not touched by the others, as long as an entry is stored under its
own identifier.

## Contents

* `Contents.putAll_filterMap` — what is stored for one record;
* `Steps` — the steps of a cycle; `Steps.mapped_of_stale`, `Steps.read_of_listed` — a record's entry after either;
* `Fresh`, `Steps.fresh` — what holds after both;
* `Roster.evicted_of_refresh` — what a cycle says was evicted;
* `Roster.steps_of_cycle`, `Roster.refresh_fresh` — cycles.
-/

namespace Steward

/-! ## What is stored -/

/-- Things that belong to the elements of a list, one by one, are given by a function. -/
theorem exists_map_of_forall₂ {α β : Type} [DecidableEq α] [Inhabited β] {R : α → β → Prop} {l : List α} {l' : List β}
    (h : List.Forall₂ R l l') (hl : l.Nodup) : ∃ f : α → β, l' = l.map f ∧ ∀ a ∈ l, R a (f a) := by
  induction h with
  | nil => exact ⟨fun _ => default, rfl, List.forall_mem_nil _⟩
  | @cons a b rest rest' hfirst _ ih =>
    obtain ⟨hnew, hrest⟩ := List.nodup_cons.1 hl
    obtain ⟨f, rfl, hf⟩ := ih hrest
    have hothers : ∀ x ∈ rest, x ≠ a := by
      rintro x hx rfl
      exact hnew hx
    refine ⟨fun x => if x = a then b else f x, ?_, ?_⟩
    · rw [List.map_cons, if_pos rfl]
      refine congrArg (b :: ·) (List.map_congr_left ?_)
      intro x hx
      rw [if_neg (hothers x hx)]
    · refine List.forall_mem_cons.2 ⟨?_, ?_⟩
      · show R a (if a = a then b else f a)
        rw [if_pos rfl]
        exact hfirst
      · intro x hx
        show R x (if x = a then b else f x)
        rw [if_neg (hothers x hx)]
        exact hf x hx

/-- The identifiers of what records came to are those of the records, if each is stored under its own. -/
theorem map_id_filterMap {records : List AppRecord} {f : AppRecord → Option Workload}
    (hown : ∀ record ∈ records, ∀ w, f record = some w → w.id = record.guid) :
    (records.filterMap f).map (·.id) = (records.filter fun record => (f record).isSome).map (·.guid) := by
  induction records with
  | nil => rfl
  | cons record rest ih =>
    obtain ⟨hfirst, hrest⟩ := List.forall_mem_cons.1 hown
    cases hf : f record with
    | none => simpa [hf] using ih hrest
    | some w => simpa [hf, hfirst w hf] using ih hrest

namespace Contents

variable (c : Contents) {records : List AppRecord} {f : AppRecord → Option Workload}

/-- **What is stored for one record** is shown under its identifier, if no other has it. -/
theorem putAll_filterMap (hdistinct : (records.map (·.guid)).Nodup)
    (hown : ∀ record ∈ records, ∀ w, f record = some w → w.id = record.guid) {record : AppRecord}
    (hrecord : record ∈ records) : c.putAll (records.filterMap f) record.guid = (f record).or (c record.guid) := by
  have hids : ∀ other ∈ records, ∀ w, f other = some w →
      decide (w.id = record.guid) = decide (other.guid = record.guid) := by
    intro other hother w hw
    rw [hown other hother w hw]
  rw [putAll_apply, Facts.filter_filterMap_comm hids, Facts.filter_guid_eq hdistinct hrecord]
  cases hf : f record with
  | none => simp [hf]
  | some w => simp [hf]

/-- Nothing is stored under a key that no record has. -/
theorem putAll_filterMap_of_ne (hown : ∀ record ∈ records, ∀ w, f record = some w → w.id = record.guid) {key : String}
    (hkey : ∀ record ∈ records, record.guid ≠ key) : c.putAll (records.filterMap f) key = c key := by
  have hnone : (records.filterMap f).filter (·.id = key) = [] := by
    rw [List.filter_eq_nil_iff]
    intro w hw
    obtain ⟨record, hrecord, hf⟩ := List.mem_filterMap.1 hw
    simpa [hown record hrecord w hf] using hkey record hrecord
  rw [putAll_apply, hnone]
  rfl

end Contents

/-- A record whose entry is up to date has one, with its own time. -/
theorem AppRecord.of_not_isStale {record : AppRecord} {old : Option Workload} (h : record.isStale old = false) :
    ∃ w, old = some w ∧ record.updatedMillis = .ok w.updatedTime := by
  unfold isStale at h
  cases old with
  | none => cases h
  | some w =>
    refine ⟨w, rfl, ?_⟩
    cases hmillis : record.updatedMillis with
    | error f => simp [hmillis, Except.toOption] at h
    | ok millis =>
      have hsame : millis = w.updatedTime := by simpa [hmillis, Except.toOption] using h
      rw [hsame]

/-! ## Both steps -/

/-- Whether the health of an entry can be read: there is one, and the run state of the record is known. -/
theorem AppRecord.Evaluates.isSome_eq {record : AppRecord} {old result : Option Workload}
    (h : record.Evaluates old result) : result.isSome = (old.isSome && record.hasState) := by
  unfold AppRecord.Evaluates at h
  unfold AppRecord.hasState
  cases old with
  | none => simp [show result = none from h]
  | some w =>
    cases hstate : RunState.parse record.state with
    | error f => simp [show result = none by simpa [hstate] using h, Except.isOk, Except.toBool]
    | ok state =>
      rw [hstate] at h
      obtain ⟨replicas, rfl, -⟩ := h
      rfl

namespace Contents

/-- The contents after the first step of a cycle, in which stale records came to these workloads. -/
def withMapped (old : Contents) (listing : List AppRecord) (mapped : AppRecord → Option Workload) : Contents :=
  (old.within listing).putAll ((old.stale listing).filterMap mapped)

/-- The contents after the second step of a cycle, in which records came to these workloads. -/
def withRead (c : Contents) (listing : List AppRecord) (read : AppRecord → Option Workload) : Contents :=
  c.putAll (listing.filterMap read)

end Contents

/-- **The steps of a cycle** over a listing without duplicates: what the stale records came to when they were put
together, and the records when their health was read. Every entry of a listed application is stored under its own
identifier. -/
structure Steps (listing : List AppRecord) (old : Contents) (mapped read : AppRecord → Option Workload) : Prop where
  distinct : (listing.map (·.guid)).Nodup
  own : ∀ record ∈ listing, ∀ w, old record.guid = some w → w.id = record.guid
  maps : ∀ record ∈ old.stale listing, record.Maps (mapped record)
  evaluates : ∀ record ∈ listing, record.Evaluates (old.withMapped listing mapped record.guid) (read record)

namespace Steps

variable {listing : List AppRecord} {old : Contents} {mapped read : AppRecord → Option Workload} {record : AppRecord}

theorem distinct_stale (h : Steps listing old mapped read) : ((old.stale listing).map (·.guid)).Nodup :=
  h.distinct.sublist (List.filter_sublist.map _)

/-- A record is the only one with its identifier. -/
theorem eq_of_guid (h : Steps listing old mapped read) {other : AppRecord} (hrecord : record ∈ listing)
    (hother : other ∈ listing) (hguid : other.guid = record.guid) : other = record := by
  have hmem : other ∈ listing.filter (·.guid = record.guid) := List.mem_filter.2 ⟨hother, by simpa using hguid⟩
  rw [Facts.filter_guid_eq h.distinct hrecord] at hmem
  exact List.mem_singleton.1 hmem

/-- **The entry of a stale record after the first step** is what it came to, or the old one. -/
theorem mapped_of_stale (h : Steps listing old mapped read) (hrecord : record ∈ old.stale listing) :
    old.withMapped listing mapped record.guid = (mapped record).or (old record.guid) := by
  have hlisted : record ∈ listing := (List.mem_filter.1 hrecord).1
  unfold Contents.withMapped
  rw [Contents.putAll_filterMap _ h.distinct_stale (fun other hother w hw => (h.maps other hother w hw).1) hrecord,
    Contents.within_of_mem _ hlisted]

/-- The entry of a record that is not stale is the old one after the first step. -/
theorem mapped_of_current (h : Steps listing old mapped read) (hrecord : record ∈ listing)
    (hcurrent : record ∉ old.stale listing) : old.withMapped listing mapped record.guid = old record.guid := by
  have hothers : ∀ other ∈ old.stale listing, other.guid ≠ record.guid := by
    intro other hother hguid
    have hsame := h.eq_of_guid hrecord (List.mem_filter.1 hother).1 hguid
    exact hcurrent (hsame ▸ hother)
  unfold Contents.withMapped
  rw [Contents.putAll_filterMap_of_ne _ (fun other hother w hw => (h.maps other hother w hw).1) hothers,
    Contents.within_of_mem _ hrecord]

/-- After the first step every entry of a listed application is still stored under its own identifier. -/
theorem mapped_own (h : Steps listing old mapped read) (hrecord : record ∈ listing) {w : Workload}
    (hw : old.withMapped listing mapped record.guid = some w) : w.id = record.guid := by
  by_cases hstale : record ∈ old.stale listing
  · rw [h.mapped_of_stale hstale] at hw
    rcases Option.or_eq_some_iff.1 hw with hmapped | ⟨-, hold⟩
    · exact (h.maps record hstale w hmapped).1
    · exact h.own record hrecord w hold
  · rw [h.mapped_of_current hrecord hstale] at hw
    exact h.own record hrecord w hw

/-- What a record came to when its health was read is the entry with another run state and other replicas. -/
theorem read_eq_some (h : Steps listing old mapped read) (hrecord : record ∈ listing) {x : Workload}
    (hx : read record = some x) :
    ∃ w state replicas, old.withMapped listing mapped record.guid = some w ∧ RunState.parse record.state = .ok state ∧
      x = { w with state, replicas } ∧ (state = .stopped → replicas = []) := by
  have hevaluates := h.evaluates record hrecord
  unfold AppRecord.Evaluates at hevaluates
  cases hbase : old.withMapped listing mapped record.guid with
  | none =>
    rw [hbase, hx] at hevaluates
    cases hevaluates
  | some w =>
    cases hstate : RunState.parse record.state with
    | error f =>
      rw [hbase, hstate, hx] at hevaluates
      cases hevaluates
    | ok state =>
      rw [hbase, hstate, hx] at hevaluates
      obtain ⟨replicas, heq, hreplicas⟩ := hevaluates
      exact ⟨w, state, replicas, rfl, rfl, Option.some.inj heq, hreplicas⟩

theorem read_own (h : Steps listing old mapped read) (hrecord : record ∈ listing) {x : Workload}
    (hx : read record = some x) : x.id = record.guid := by
  obtain ⟨w, state, replicas, hbase, -, rfl, -⟩ := h.read_eq_some hrecord hx
  have hid : w.id = record.guid := h.mapped_own hrecord hbase
  exact hid

/-- **The entry of a record after both steps** is what it came to when its health was read, or the one before. -/
theorem read_of_listed (h : Steps listing old mapped read) (hrecord : record ∈ listing) :
    (old.withMapped listing mapped).withRead listing read record.guid
      = (read record).or (old.withMapped listing mapped record.guid) :=
  Contents.putAll_filterMap _ h.distinct (fun _ hother _ hx => h.read_own hother hx) hrecord

/-- What is not listed is gone after both steps. -/
theorem read_of_unlisted (h : Steps listing old mapped read) {key : String}
    (hkey : ∀ record ∈ listing, record.guid ≠ key) :
    (old.withMapped listing mapped).withRead listing read key = none := by
  have hread := Contents.putAll_filterMap_of_ne (old.withMapped listing mapped)
    (fun _ hother _ hx => h.read_own hother hx) hkey
  have hstale : ∀ record ∈ old.stale listing, record.guid ≠ key :=
    fun record hrecord => hkey record (List.mem_filter.1 hrecord).1
  have hmapped := Contents.putAll_filterMap_of_ne (old.within listing)
    (fun other hother w hw => (h.maps other hother w hw).1) hstale
  have hgone : old.within listing key = none := by
    unfold Contents.within
    rw [if_neg]
    intro hlisted
    obtain ⟨record, hrecord, hguid⟩ := List.any_eq_true.1 hlisted
    exact hkey record hrecord (by simpa using hguid)
  exact hread.trans (hmapped.trans hgone)

/-- Reading health changes at most run state and replicas of an entry. -/
theorem read_of_mapped (h : Steps listing old mapped read) (hrecord : record ∈ listing) {w : Workload}
    (hw : old.withMapped listing mapped record.guid = some w) : ∃ state replicas,
      (old.withMapped listing mapped).withRead listing read record.guid = some { w with state, replicas } := by
  rw [h.read_of_listed hrecord, hw]
  cases hread : read record with
  | none => exact ⟨w.state, w.replicas, rfl⟩
  | some x =>
    obtain ⟨w', state, replicas, hbase, -, rfl, -⟩ := h.read_eq_some hrecord hread
    cases hw.symm.trans hbase
    exact ⟨state, replicas, rfl⟩

/-- Reading health makes no entry. -/
theorem isSome_read (h : Steps listing old mapped read) (hrecord : record ∈ listing) :
    ((old.withMapped listing mapped).withRead listing read record.guid).isSome
      = (old.withMapped listing mapped record.guid).isSome := by
  rw [h.read_of_listed hrecord]
  cases hread : read record with
  | none => rfl
  | some x =>
    obtain ⟨w, state, replicas, hbase, -, rfl, -⟩ := h.read_eq_some hrecord hread
    rw [hbase]
    rfl

theorem read_of_none (h : Steps listing old mapped read) (hrecord : record ∈ listing)
    (hnone : old.withMapped listing mapped record.guid = none) :
    (old.withMapped listing mapped).withRead listing read record.guid = none := by
  have hsome := h.isSome_read hrecord
  rw [hnone] at hsome
  simpa using hsome

end Steps

/-! ## What is fresh -/

/-- **Fresh contents**, with what a cycle says it skipped, and whose health it read. -/
structure Fresh (listing : List AppRecord) (old new : Contents) (skipped evaluated : List String) : Prop where
  /-- What is cached is listed. -/
  listed : ∀ key, new key ≠ none → ∃ record ∈ listing, record.guid = key
  /-- What was not skipped is cached, with the time of its record. -/
  current : ∀ record ∈ listing, record.guid ∉ skipped →
    ∃ w, new record.guid = some w ∧ record.updatedMillis = .ok w.updatedTime
  /-- What was skipped is not cached, or is what it was but for run state and replicas. -/
  kept : ∀ record ∈ listing, record.guid ∈ skipped → new record.guid = none ∨
    ∃ w state replicas, old record.guid = some w ∧ new record.guid = some { w with state, replicas }
  /-- What is cached has the run state of its record, if that is known, and no replicas unless it is started. -/
  healthy : ∀ record ∈ listing, ∀ w state, new record.guid = some w → RunState.parse record.state = .ok state →
    w.state = state ∧ (state ≠ .started → w.replicas = [])
  /-- The health was read of what is cached, if its run state is known. -/
  evaluated_eq : evaluated
    = (listing.filter fun record => (new record.guid).isSome && record.hasState).map (·.guid)

/-- The identifiers of the stale records that came to no workload. -/
def Contents.skippedBy (old : Contents) (listing : List AppRecord) (mapped : AppRecord → Option Workload) :
    List String :=
  ((old.stale listing).filter fun record => (mapped record).isNone).map (·.guid)

namespace Steps

variable {listing : List AppRecord} {old : Contents} {mapped read : AppRecord → Option Workload} {record : AppRecord}

theorem mem_skippedBy (h : Steps listing old mapped read) (hrecord : record ∈ listing) :
    record.guid ∈ old.skippedBy listing mapped ↔ record ∈ old.stale listing ∧ mapped record = none := by
  unfold Contents.skippedBy
  rw [List.mem_map]
  constructor
  · rintro ⟨other, hother, hguid⟩
    obtain ⟨hstale, hnone⟩ := List.mem_filter.1 hother
    obtain rfl := h.eq_of_guid hrecord (List.mem_filter.1 hstale).1 hguid
    exact ⟨hstale, Option.isNone_iff_eq_none.1 hnone⟩
  · rintro ⟨hstale, hnone⟩
    exact ⟨record, List.mem_filter.2 ⟨hstale, Option.isNone_iff_eq_none.2 hnone⟩, rfl⟩

/-- What was not skipped is up to date after the first step. -/
theorem mapped_of_not_skipped (h : Steps listing old mapped read) (hrecord : record ∈ listing)
    (hskipped : record.guid ∉ old.skippedBy listing mapped) :
    ∃ w, old.withMapped listing mapped record.guid = some w ∧ record.updatedMillis = .ok w.updatedTime := by
  by_cases hstale : record ∈ old.stale listing
  · cases hmapped : mapped record with
    | none => exact absurd ((h.mem_skippedBy hrecord).2 ⟨hstale, hmapped⟩) hskipped
    | some w =>
      refine ⟨w, ?_, (h.maps record hstale w hmapped).2⟩
      rw [h.mapped_of_stale hstale, hmapped, Option.some_or]
  · rw [h.mapped_of_current hrecord hstale]
    refine AppRecord.of_not_isStale ?_
    simpa [Contents.stale, hrecord] using hstale

/-- **What both steps leave is fresh.** -/
theorem fresh (h : Steps listing old mapped read) :
    Fresh listing old ((old.withMapped listing mapped).withRead listing read) (old.skippedBy listing mapped)
      ((listing.filterMap read).map (·.id)) where
  listed := by
    intro key hkey
    by_contra hunlisted
    refine hkey (h.read_of_unlisted ?_)
    intro record hrecord hguid
    exact hunlisted ⟨record, hrecord, hguid⟩
  current := by
    intro record hrecord hskipped
    obtain ⟨w, hw, hmillis⟩ := h.mapped_of_not_skipped hrecord hskipped
    obtain ⟨state, replicas, hnew⟩ := h.read_of_mapped hrecord hw
    exact ⟨_, hnew, hmillis⟩
  kept := by
    intro record hrecord hskipped
    obtain ⟨hstale, hnone⟩ := (h.mem_skippedBy hrecord).1 hskipped
    have hbase : old.withMapped listing mapped record.guid = old record.guid := by
      rw [h.mapped_of_stale hstale, hnone, Option.none_or]
    cases hold : old record.guid with
    | none => exact Or.inl (h.read_of_none hrecord (hbase.trans hold))
    | some w =>
      right
      obtain ⟨state, replicas, hnew⟩ := h.read_of_mapped hrecord (hbase.trans hold)
      exact ⟨w, state, replicas, rfl, hnew⟩
  healthy := by
    intro record hrecord w state hw hstate
    have hsome := h.isSome_read hrecord
    rw [hw] at hsome
    -- the entry is there before its health is read, so reading it comes to something
    have hread : (read record).isSome = true := by
      rw [(h.evaluates record hrecord).isSome_eq, ← hsome]
      simp [AppRecord.hasState, hstate, Except.isOk, Except.toBool]
    obtain ⟨x, hx⟩ := Option.isSome_iff_exists.1 hread
    obtain ⟨_, state', replicas, -, hstate', rfl, hreplicas⟩ := h.read_eq_some hrecord hx
    rw [h.read_of_listed hrecord, hx, Option.some_or] at hw
    rw [hstate] at hstate'
    cases hw
    cases hstate'
    refine ⟨rfl, ?_⟩
    intro hne
    cases state with
    | started => exact absurd rfl hne
    | stopped => exact hreplicas rfl
  evaluated_eq := by
    rw [map_id_filterMap fun _ hrecord _ hx => h.read_own hrecord hx]
    refine congrArg (List.map _) (List.filter_congr ?_)
    intro record hrecord
    rw [(h.evaluates record hrecord).isSome_eq, h.isSome_read hrecord]

end Steps

/-! ## Evictions -/

namespace Roster

open Keeping

variable {τ σ : Type} [Sub τ] [LE τ] [DecidableLE τ] {platform : Handler Inquiry σ} {w w' : Workshop τ σ}
  {t : List (Exchange Keeping)}

/-- What a cycle says was evicted is what its first step has dropped, whatever happens afterwards. -/
theorem evicted_of_refreshUnbound {ω : Type} {A : Answering Keeping ω} {w w' : ω} (r : Roster)
    {listing : List AppRecord} {done : Refresh} (h : Attempt.Runs A (r.refreshUnbound listing) w t (.ok done) w') :
    ∃ began m keys m', A .stopwatch w began m ∧ A .keys m keys m' ∧
      done.evicted = keys.filter fun key => !listing.any (·.guid = key) := by
  obtain ⟨began, keys, gone, seen, rest, hgone, rfl, htranscript⟩ := runs_refreshUnbound h
  cases htranscript with
  | finished looked tells pooled =>
    obtain ⟨m₁, hopening, -⟩ := h.leads.split
    unfold opening at hopening
    cases hopening with
    | cons hbegan hopening =>
      cases hopening with
      | cons hkeys _ => exact ⟨_, _, _, _, hbegan, hkeys, hgone⟩

/-- **What a cycle says was evicted** is what was cached before it and is not listed. -/
theorem evicted_of_refresh (r : Roster) {listing : List AppRecord} {done : Refresh} (hw : w.Calm)
    (h : Attempt.Runs (Workshop.Answers platform) (r.refresh listing) w t (.ok done) w') :
    done.evicted = (w.session.cache.keys w.session.clock).filter fun key => !listing.any (·.guid = key) := by
  obtain ⟨t', h', -⟩ := runs_under h
  obtain ⟨began, m, keys, m', hbegan, hkeys, hevicted⟩ := evicted_of_refreshUnbound r h'
  have hbegan : Workshop.Answers platform .stopwatch w began m := hbegan
  have hkeys : Workshop.Answers platform .keys m keys m' := hkeys
  obtain ⟨s, hboard, hs, hanswer⟩ := Workshop.answers_calm hw (by rintro tasks ⟨⟩) hbegan
  obtain rfl : s = m.session := congrArg Prod.snd hanswer
  obtain ⟨s', hboard', hs', hanswer'⟩ := Workshop.answers_calm hs (by rintro tasks ⟨⟩) hkeys
  have hreply : s'.cache.keys s'.clock = keys := congrArg Prod.fst hanswer'
  have hheld : s'.cache.held = w.session.cache.held := congrArg Board.held (hboard'.trans hboard)
  rw [hevicted, ← hreply, hs'.keys_eq, hheld, hw.keys_eq]

/-! ## Cycles -/

theorem skippedOf_zip_map (records : List AppRecord) (f : AppRecord → Option Workload) :
    skippedOf (records.zip (records.map f)) = (records.filter fun record => (f record).isNone).map (·.guid) := by
  unfold skippedOf
  induction records with
  | nil => rfl
  | cons record rest ih =>
    rw [List.map_cons, List.zip_cons_cons]
    cases hf : f record with
    | none => simpa [hf] using ih
    | some w => simpa [hf] using ih

/-- A cycle that ends well has taken both steps, and says so. -/
theorem steps_of_cycle {fields : List (String × Value)} {r : Roster} {listing : List AppRecord} {old new : Contents}
    {replies : List BatchReply} {done : Refresh} (hdistinct : (listing.map (·.guid)).Nodup)
    (h : Cycle (fun c tasks => Errand.Came c (tasks.map (Errand.under fields))) r listing old replies (.ok done) new) :
    ∃ mapped read : AppRecord → Option Workload,
      done.remapped = ((old.stale listing).filterMap mapped).map (·.id) ∧ done.skipped = old.skippedBy listing mapped ∧
      done.evaluated = (listing.filterMap read).map (·.id) ∧
      new = (old.withMapped listing mapped).withRead listing read ∧
      (∀ record ∈ old.stale listing, record.Maps (mapped record)) ∧
      ∀ record ∈ listing, record.Evaluates (old.withMapped listing mapped record.guid) (read record) := by
  have hlisting : listing.Nodup := List.Nodup.of_map _ hdistinct
  have hstale : (old.stale listing).Nodup := hlisting.sublist List.filter_sublist
  cases h with
  | @finished gone mapped evaluated tells mapping evaluating =>
    obtain ⟨f, rfl, hf⟩ := exists_map_of_forall₂ (mapping.forall₂ r.maps_remapTask) hstale
    rw [List.filterMap_map, Function.id_comp] at evaluating ⊢
    obtain ⟨g, rfl, hg⟩ := exists_map_of_forall₂ (evaluating.forall₂ evaluates_evaluateTask) hlisting
    rw [List.filterMap_map, Function.id_comp]
    exact ⟨f, g, rfl, skippedOf_zip_map _ _, rfl, rfl, hf, hg⟩

/-- **What a cycle leaves is fresh, and what it says is true**, on any platform and in whatever order its workers work,
if it ends well and nothing expires meanwhile. What was evicted is what was cached and is not listed. The stale records
were put together again or skipped, each in the order of the listing. If every entry of a listed application is stored
under its own identifier, the contents are fresh. -/
theorem refresh_fresh (platform : Handler Inquiry σ) (r : Roster) {listing : List AppRecord}
    (hdistinct : (listing.map (·.guid)).Nodup) {w w' : Workshop τ σ} {t : List (Exchange Keeping)} {done : Refresh}
    (hw : w.Calm) (h : Attempt.Runs (Workshop.Answers platform) (r.refresh listing) w t (.ok done) w') :
    done.evicted = ((w.session.cache.keys w.session.clock).filter fun key => !listing.any (·.guid = key)) ∧
      (∃ isMapped : AppRecord → Bool,
        done.remapped = ((w.contents.stale listing).filter isMapped).map (·.guid) ∧
        done.skipped = ((w.contents.stale listing).filter fun record => !isMapped record).map (·.guid)) ∧
      ((∀ record ∈ listing, ∀ x, w.contents record.guid = some x → x.id = record.guid) →
        Fresh listing w.contents w'.contents done.skipped done.evaluated) := by
  obtain ⟨-, hcycle⟩ := refresh_cycle (Workshop.keeps_showing platform) r hw.lasting h
  obtain ⟨mapped, read, hremapped, hskipped, hevaluated, hnew, hmaps, hevaluates⟩ := steps_of_cycle hdistinct hcycle
  refine ⟨evicted_of_refresh r hw h, ⟨fun record => (mapped record).isSome, ?_, ?_⟩, ?_⟩
  · rw [hremapped]
    exact map_id_filterMap fun record hrecord x hx => (hmaps record hrecord x hx).1
  · rw [hskipped]
    unfold Contents.skippedBy
    simp only [Option.not_isSome]
  · intro hown
    have hsteps : Steps listing w.contents mapped read := ⟨hdistinct, hown, hmaps, hevaluates⟩
    rw [hnew, hskipped, hevaluated]
    exact hsteps.fresh

/-- The session in which an application has been looked up by its own identifier. -/
def visitedSession : Session Nat Unit :=
  ((bare.findById "app-1").run (Session.answer (Facts.alone (webApp "app-1" "STARTED")).platform) bareSession).2

/-- A cycle over two other applications, one of them in an unknown state. -/
theorem refresh_fresh_others :
    ∃ t done w', Attempt.Runs (Workshop.Answers (Facts.alone (webApp "app-1" "STARTED")).platform)
        (bare.refresh [webApp "app-2" "STARTED", webApp "app-3" "?"]) ⟨visitedSession, []⟩ t (.ok done) w' ∧
      done.evicted = ["app-1"] ∧
      Fresh [webApp "app-2" "STARTED", webApp "app-3" "?"] visitedSession.contents w'.contents done.skipped
        done.evaluated := by
  have hcalm : (⟨visitedSession, []⟩ : Workshop Nat Unit).Calm :=
    Cache.calm_of_never (by decide +kernel) (by decide +kernel) _
  have hnew : ∀ record ∈ [webApp "app-2" "STARTED", webApp "app-3" "?"],
      (visitedSession.contents record.guid).isNone = true := by
    decide +kernel
  have hkeys : (visitedSession.cache.keys visitedSession.clock).filter
      (fun key => !([webApp "app-2" "STARTED", webApp "app-3" "?"].any (·.guid = key))) = ["app-1"] := by
    decide +kernel
  obtain ⟨t, done, left, h⟩ := Workshop.runs_of_isOk (Facts.alone (webApp "app-1" "STARTED")).platform
    (bare.refresh [webApp "app-2" "STARTED", webApp "app-3" "?"]) visitedSession [] (by decide +kernel)
  obtain ⟨hevicted, -, hfresh⟩ := refresh_fresh _ bare (by decide) hcalm h
  dsimp only [Workshop.contents] at hevicted hfresh
  refine ⟨t, done, _, h, by rw [hevicted, hkeys], ?_⟩
  dsimp only [Workshop.contents]
  refine hfresh ?_
  intro record hrecord x hx
  have hnone := hnew record hrecord
  rw [hx] at hnone
  cases hnone

/-- Nothing expires where an application was looked up by another name. -/
theorem calm_aliasSession : (⟨aliasSession, []⟩ : Workshop Nat Unit).Calm :=
  Cache.calm_of_never (by decide +kernel) (by decide +kernel) _

/-- A cycle over that other name says that it has read the health of the application. -/
theorem run_aliasSession : ((bare.refresh [webApp "alias" "STOPPED"]).run
    (Session.answer (Facts.alone (webApp "app-1" "STARTED")).platform) aliasSession).1.toOption
    = some ⟨[], [], [], ["app-1"]⟩ := by
  decide +kernel

/-- An entry that a lookup has left under another name is not fresh after a cycle: the health of its application is
stored under the application's own name, which is not listed, and the entry keeps its run state. -/
theorem refresh_of_alias_stale :
    ∃ t done w', (⟨aliasSession, []⟩ : Workshop Nat Unit).Calm ∧
      Attempt.Runs (Workshop.Answers (Facts.alone (webApp "app-1" "STARTED")).platform)
        (bare.refresh [webApp "alias" "STOPPED"]) ⟨aliasSession, []⟩ t (.ok done) w' ∧
      w'.contents "app-1" ≠ none ∧ (w'.contents "alias").map (·.state) = some .started ∧
      done.evaluated = ["app-1"] := by
  obtain ⟨t, left, h⟩ := Workshop.runs_of_toOption (Facts.alone (webApp "app-1" "STARTED")).platform
    (bare.refresh [webApp "alias" "STOPPED"]) aliasSession [] run_aliasSession
  obtain ⟨ended, hended⟩ : ∃ ended, ended = (bare.refresh [webApp "alias" "STOPPED"]).run
      (Session.answer (Facts.alone (webApp "app-1" "STARTED")).platform) aliasSession := ⟨_, rfl⟩
  have hnew : (ended.2.contents "app-1").isSome = true := by
    rw [hended]
    decide +kernel
  have hstays : (ended.2.contents "alias").map (·.state) = some .started := by
    rw [hended]
    decide +kernel
  rw [← hended] at h
  exact ⟨t, _, _, calm_aliasSession, h, Option.isSome_iff_ne_none.1 hnew, hstays, rfl⟩

end Roster

end Steward
