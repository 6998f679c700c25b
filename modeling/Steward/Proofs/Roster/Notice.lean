import Steward.Proofs.Moment.Calendar
import Steward.Proofs.Roster.Freshness

/-!
# What a cycle notices

Whether a cached workload is out of date is told by milliseconds, and these come about in doubles. A record whose time
is so far from the time of the cached workload that the milliseconds differ (`Moment.Apart`) is noticed: its work is
handed out again, whatever the platform and the pool make of it. Not every change of a millisecond is: where the
milliseconds of two moments are the same, a cycle takes the record for the old one.

## Contents

* `AppRecord.Dates` — a cached workload with the time of a record; `Maps.dates`, `Evaluates.dates`, `Fresh.dates` —
  how it comes to be cached, and stays;
* `AppRecord.isStale_of_apart` — a record of another time is stale;
* `Keeping.Keeps.among` — faithful answers, and the exchanges that they are part of;
* `Roster.refresh_notices` — cycles.
-/

namespace Steward

/-! ## Times of records -/

/-- What is cached, if anything, has the time of the record. -/
def AppRecord.Dates (record : AppRecord) (cached : Option Workload) : Prop :=
  ∀ w, cached = some w → record.updatedMillis = .ok w.updatedTime

namespace AppRecord

variable {record other : AppRecord} {cached result : Option Workload}

/-- A workload that is put together from a record has its time. -/
theorem Maps.dates (h : record.Maps result) : record.Dates result :=
  fun w hw => (h w hw).2

/-- Reading health by any record leaves the time as it was. -/
theorem Evaluates.dates (h : other.Evaluates cached result) (hdates : record.Dates cached) : record.Dates result := by
  intro x hx
  subst hx
  unfold Evaluates at h
  cases cached with
  | none => cases h
  | some w =>
    cases hstate : RunState.parse other.state with
    | error f =>
      rw [hstate] at h
      cases h
    | ok state =>
      rw [hstate] at h
      obtain ⟨replicas, heq, -⟩ := h
      cases heq
      have htime : record.updatedMillis = .ok w.updatedTime := hdates w rfl
      exact htime

/-- A record that a cycle has not skipped dates its entry afterwards. -/
theorem Fresh.dates {listing : List AppRecord} {old new : Contents} {skipped evaluated : List String}
    (h : Fresh listing old new skipped evaluated) (hrecord : record ∈ listing) (hskipped : record.guid ∉ skipped) :
    record.Dates (new record.guid) := by
  obtain ⟨w, hw, htime⟩ := h.current record hrecord hskipped
  intro x hx
  rw [hw] at hx
  cases hx
  exact htime

/-- The time of a record that can be read. -/
theorem updatedMillis_eq_ok {n : Int} (h : record.updatedMillis = .ok n) : record.updatedAt.millis = some n := by
  unfold updatedMillis millisOf at h
  split at h
  · next hmillis =>
    cases h
    exact hmillis
  · cases h

theorem isPlaceable_of_millis {t : Moment} {n : Int} (h : t.millis = some n) : t.isPlaceable = true := by
  unfold Moment.millis at h
  split at h
  · assumption
  · cases h

/-- **A record is stale** if what is cached has the time of a record apart from it. -/
theorem isStale_of_apart (hdates : record.Dates cached) (aware : other.updatedAt.floating = false)
    (apart : Moment.Apart record.updatedAt other.updatedAt) : other.isStale cached = true := by
  cases cached with
  | none => rfl
  | some w =>
    have hfirst := updatedMillis_eq_ok (hdates w rfl)
    have hplaced : other.updatedAt.isPlaceable = true := by
      unfold Moment.isPlaceable
      rw [aware]
      rfl
    have hne := Moment.millis_ne apart (isPlaceable_of_millis hfirst) hplaced
    obtain ⟨n, hsecond⟩ : ∃ n, other.updatedAt.millis = some n :=
      ⟨_, Moment.millis_eq (by decide) apart.within.2 hplaced⟩
    have hother : other.updatedMillis = .ok n := by
      unfold updatedMillis millisOf
      rw [hsecond]
    rw [isStale_some hother]
    rw [hfirst, hsecond] at hne
    simpa using hne

end AppRecord

/-! ## Cycles -/

namespace Keeping

variable {ω : Type} {A : Answering Keeping ω} {good : ω → Prop} {shown : ω → Contents}
  {worked : Contents → List Task → BatchReply → Prop}

/-- Faithful answers are faithful among the exchanges that they are part of. -/
theorem Keeps.among (hA : Keeps A good shown worked) (all : List (Exchange Keeping)) :
    Keeps (fun r w reply w' => A r w reply w' ∧ ⟨r, reply⟩ ∈ all) good shown
      fun c tasks reply => worked c tasks reply ∧ ⟨.batch tasks, reply⟩ ∈ all where
  stays := fun hw h => hA.stays hw h.1
  frame := fun hw h => hA.frame hw h.1
  store := fun hw h => hA.store hw h.1
  invalidate := fun hw h => hA.invalidate hw h.1
  lookup := fun hw h => hA.lookup hw h.1
  keys := fun hw h => hA.keys hw h.1
  batch := fun hw h => ⟨hA.batch hw h.1, h.2⟩
  length := fun h => hA.length h.1

end Keeping

namespace Roster

open Keeping

variable {τ σ : Type} [Sub τ] [LE τ] [DecidableLE τ] {platform : Handler Inquiry σ}

/-- The work of putting a workload together, as a cycle hands it out. -/
def handedOut (r : Roster) (record : AppRecord) : Task :=
  Errand.under (correlation (some r.account) none) (r.remapTask record)

/-- A stale record is put together again or skipped, if its step is carried out. -/
theorem remapped_or_skipped {stale : List AppRecord} {mapped : List (Option Workload)} {record : AppRecord}
    (hmaps : List.Forall₂ AppRecord.Maps stale mapped) (hrecord : record ∈ stale) :
    record.guid ∈ (mapped.filterMap id).map (·.id) ∨ record.guid ∈ skippedOf (stale.zip mapped) := by
  obtain ⟨hlength, hpairs⟩ := List.forall₂_iff_zip.1 hmaps
  have hfst : (stale.zip mapped).map Prod.fst = stale := List.map_fst_zip (Nat.le_of_eq hlength)
  rw [← hfst] at hrecord
  obtain ⟨⟨_, result⟩, hpair, rfl⟩ := List.mem_map.1 hrecord
  cases result with
  | none =>
    right
    exact List.mem_map.2 ⟨_, List.mem_filter.2 ⟨hpair, rfl⟩, rfl⟩
  | some x =>
    left
    have hx : x ∈ mapped.filterMap id := List.mem_filterMap.2 ⟨some x, (List.of_mem_zip hpair).2, rfl⟩
    exact List.mem_map.2 ⟨x, hx, (hpairs hpair x rfl).1⟩

/-- **What a cycle notices**, on any platform and with any pool, as long as nothing expires. Whatever is cached under an
identifier has the time of one record, and another record with that identifier is listed, with a time given with its
offset and apart from the first. Then the second record is stale, and unless the time of some listed record cannot be
read, the work of putting it together is handed out. If the cycle ends well, the record was put together again or
skipped. -/
theorem refresh_notices (platform : Handler Inquiry σ) (r : Roster) (first second : AppRecord)
    {listing : List AppRecord} {w w' : Workshop τ σ} {t : List (Exchange Keeping)} {o : Except Fault Refresh}
    (lasting : w.Lasting) (cached : first.Dates (w.contents second.guid)) (listed : second ∈ listing)
    (aware : second.updatedAt.floating = false) (apart : Moment.Apart first.updatedAt second.updatedAt)
    (h : Attempt.Runs (Workshop.Answers platform) (r.refresh listing) w t o w') :
    second ∈ w.contents.stale listing ∧
      ((∃ record ∈ listing, ∃ f, record.updatedMillis = .error f ∧ o = .error f) ∨
        ∃ tasks reply, ⟨.batch tasks, reply⟩ ∈ t ∧ r.handedOut second ∈ tasks) ∧
      ∀ done, o = .ok done → second.guid ∈ done.remapped ∨ second.guid ∈ done.skipped := by
  have hstale : second ∈ w.contents.stale listing :=
    List.mem_filter.2 ⟨listed, AppRecord.isStale_of_apart cached aware apart⟩
  have hrun : Attempt.Runs _ (r.refresh listing) w t o w' := Program.Runs.among h fun _ he => he
  obtain ⟨-, hcycle⟩ := refresh_cycle ((Workshop.keeps_showing platform).among t) r lasting hrun
  generalize batchReplies t = replies, Workshop.contents w' = new at hcycle
  -- the batch of the first step has the work of every stale record
  have hwork : r.handedOut second
      ∈ ((w.contents.stale listing).map r.remapTask).map (Errand.under (correlation (some r.account) none)) :=
    List.mem_map_of_mem (List.mem_map_of_mem hstale)
  refine ⟨hstale, ?_, ?_⟩
  · cases hcycle with
    | unreadable listed cached unread => exact Or.inl ⟨_, listed, _, unread, rfl⟩
    | unmapped tells mapping failed => exact Or.inr ⟨_, _, mapping.2, hwork⟩
    | unevaluated tells mapping evaluating failed => exact Or.inr ⟨_, _, mapping.2, hwork⟩
    | finished tells mapping evaluating => exact Or.inr ⟨_, _, mapping.2, hwork⟩
  · rintro done rfl
    cases hcycle with
    | finished tells mapping evaluating =>
      exact remapped_or_skipped (mapping.1.forall₂ r.maps_remapTask) hstale

/-- An application that was changed so long after the start of 1970. -/
def datedApp (seconds : Int) (micros : Nat) : AppRecord :=
  { webApp "app-1" "STOPPED" with updatedAt := ⟨seconds, micros, false⟩ }

/-- The session in which a cycle has listed that application. -/
def datedSession (seconds : Int) (micros : Nat) : Session Nat Unit :=
  ((bare.refresh [datedApp seconds micros]).run
    (Session.answer (Facts.alone (datedApp seconds micros)).platform) bareSession).2

/-- What is cached has the time of the record, if both say the same milliseconds. -/
theorem dates_of_toOption {record : AppRecord} {cached : Option Workload} {n : Int}
    (hcached : cached.map (·.updatedTime) = some n) (hrecord : record.updatedMillis.toOption = some n) :
    record.Dates cached := by
  rintro w rfl
  obtain rfl : w.updatedTime = n := Option.some.inj hcached
  cases hmillis : record.updatedMillis with
  | ok m =>
    rw [hmillis] at hrecord
    cases hrecord
    rfl
  | error f =>
    rw [hmillis] at hrecord
    cases hrecord

/-- A cycle that lists the application again, changed one millisecond later in the year 2021. -/
theorem refresh_notices_nextMilli :
    ∃ t done w', Attempt.Runs (Workshop.Answers (Facts.alone (datedApp 1609459200 2000)).platform)
        (bare.refresh [datedApp 1609459200 2000]) ⟨datedSession 1609459200 1000, []⟩ t (.ok done) w' ∧
      ((datedSession 1609459200 1000).contents "app-1").isSome = true ∧
      ("app-1" ∈ done.remapped ∨ "app-1" ∈ done.skipped) := by
  have hlasting : (⟨datedSession 1609459200 1000, []⟩ : Workshop Nat Unit).Lasting :=
    lasting_of_never (by decide +kernel) (by decide +kernel)
  have hcached : ((⟨datedSession 1609459200 1000, []⟩ : Workshop Nat Unit).contents
      (datedApp 1609459200 2000).guid).map (·.updatedTime) = some 1609459200001 := by
    decide +kernel
  have hmillis : (datedApp 1609459200 1000).updatedMillis.toOption = some 1609459200001 := by
    decide +kernel
  have hdates : (datedApp 1609459200 1000).Dates
      ((⟨datedSession 1609459200 1000, []⟩ : Workshop Nat Unit).contents (datedApp 1609459200 2000).guid) :=
    dates_of_toOption hcached hmillis
  have hfirst : (datedApp 1609459200 1000).updatedAt.Within (Binary64.twoTo 33) := ⟨by decide, by decide⟩
  have hsecond : (datedApp 1609459200 2000).updatedAt.Within (Binary64.twoTo 33) := ⟨by decide, by decide⟩
  have hsteady : (Moment.farther (datedApp 1609459200 1000).updatedAt (datedApp 1609459200 2000).updatedAt).Steady 31 :=
    ⟨by decide, ⟨by decide, by decide⟩, by decide⟩
  have hapart : Moment.Apart (datedApp 1609459200 1000).updatedAt (datedApp 1609459200 2000).updatedAt :=
    .fine hfirst hsecond (by unfold Moment.Beside; decide) (by decide) (by decide) hsteady
  obtain ⟨t, done, left, h⟩ := Workshop.runs_of_isOk (Facts.alone (datedApp 1609459200 2000)).platform
    (bare.refresh [datedApp 1609459200 2000]) (datedSession 1609459200 1000) [] (by decide +kernel)
  obtain ⟨-, -, hdone⟩ := refresh_notices _ bare (datedApp 1609459200 1000) (datedApp 1609459200 2000) hlasting hdates
    List.mem_cons_self rfl hapart h
  exact ⟨t, done, _, h, by decide +kernel, hdone done rfl⟩

/-- **A change of one millisecond that is overlooked**, in the year 2038: the milliseconds of both moments are the same,
and a cycle neither puts the application together again nor skips it. -/
theorem refresh_overlooks :
    (⟨datedSession 2148508800 1000, []⟩ : Workshop Nat Unit).Lasting ∧
      ((datedSession 2148508800 1000).contents "app-1").isSome = true ∧
      (datedApp 2148508800 1000).Dates ((datedSession 2148508800 1000).contents "app-1") ∧
      (datedApp 2148508800 2000).updatedAt.elapsed = (datedApp 2148508800 1000).updatedAt.elapsed + 1000 ∧
      ∃ t w', Attempt.Runs (Workshop.Answers (Facts.alone (datedApp 2148508800 2000)).platform)
        (bare.refresh [datedApp 2148508800 2000]) ⟨datedSession 2148508800 1000, []⟩ t
        (.ok ⟨[], [], [], ["app-1"]⟩) w' := by
  have hlasting : (⟨datedSession 2148508800 1000, []⟩ : Workshop Nat Unit).Lasting :=
    lasting_of_never (by decide +kernel) (by decide +kernel)
  have hcached : ((datedSession 2148508800 1000).contents "app-1").map (·.updatedTime) = some 2148508800001 := by
    decide +kernel
  have hmillis : (datedApp 2148508800 1000).updatedMillis.toOption = some 2148508800001 := by
    decide +kernel
  have hdone : ((bare.refresh [datedApp 2148508800 2000]).run
      (Session.answer (Facts.alone (datedApp 2148508800 2000)).platform) (datedSession 2148508800 1000)).1.toOption
        = some ⟨[], [], [], ["app-1"]⟩ := by
    decide +kernel
  obtain ⟨t, left, h⟩ := Workshop.runs_of_toOption (Facts.alone (datedApp 2148508800 2000)).platform
    (bare.refresh [datedApp 2148508800 2000]) (datedSession 2148508800 1000) [] hdone
  have hlater : (datedApp 2148508800 2000).updatedAt.elapsed = (datedApp 2148508800 1000).updatedAt.elapsed + 1000 := by
    decide
  exact ⟨hlasting, by decide +kernel, dates_of_toOption hcached hmillis, hlater, t, _, h⟩

end Roster

end Steward
