import Steward.Proofs.Roster.Transcript

/-!
# The rounds of a keeper

What a keeper requests in a cycle, whatever it is replied, and what a cycle can fail with. A cycle never calls the
platform itself, its workers do. It drops nothing but what has gone from the listing, before it hands out any work, and
whatever it stores it stores under its own identifier. Only a pool that fails aborts it. The time of a record that
cannot be read comes through as it is, and so does what the pool refuses a submission with, unless it is a runtime
error.

## Contents

* `Keeping.rounds` — the contract; `rounds_dropping`, `rounds_bound` — keys that are dropped, and fields bound around
  events;
* `Roster.Refused`, `Roster.Halts` — the faults of a cycle;
* `Roster.rounds_opening`, `rounds_looks`, `rounds_of_pooled` — the stretches of a cycle;
* `Roster.rounds_of_refresh` — cycles.
-/

namespace Steward

open Attempt

/-- **What a keeper requests in a cycle**, and for a view after it: no call, and no look at the wall clock. It stores
workloads under their own identifiers, and drops only what has gone. -/
def Keeping.rounds (gone : String → Prop) : Contract Keeping where
  asks
    | .inquiry (.report _) => True
    | .inquiry _ => False
    | .store key w => w.id = key
    | .invalidate key => gone key
    | .lookup _ | .keys | .values | .measure _ | .stopwatch | .batch _ => True
  replies _ _ := True

variable {gone : String → Prop}

namespace Keeping

/-- Only the key that is dropped has to have gone. -/
theorem rounds_dropping {key : String} (h : gone key) (held : Bool) :
    ∀ e ∈ dropping key held, (rounds gone).asks e.request := by
  refine List.forall_mem_cons.2 ⟨h, ?_⟩
  cases held with
  | true => exact List.forall_mem_singleton.2 trivial
  | false => exact List.forall_mem_nil _

/-- Fields bound around events make no difference. -/
theorem rounds_bound {t : List (Exchange Keeping)} (h : ∀ e ∈ t, (rounds gone).asks e.request)
    (fields : List (String × Value)) : ∀ e ∈ t.map (boundExchange fields), (rounds gone).asks e.request := by
  refine List.forall_mem_map.2 fun e he => ?_
  have hasks := h e he
  unfold boundExchange
  split
  · exact trivial
  · exact trivial
  · exact hasks

end Keeping

namespace Roster

open Keeping

variable {r : Roster} {listing : List AppRecord} {t : List (Exchange Keeping)}

/-- The pool rejected a submission with this fault, which is no runtime error. -/
def Refused (t : List (Exchange Keeping)) (f : Fault) : Prop :=
  .error f ∈ batchReplies t ∧ f.isRuntime = false

theorem refused_append {t' : List (Exchange Keeping)} {f : Fault} : Refused (t ++ t') f ↔ Refused t f ∨ Refused t' f := by
  unfold Refused batchReplies
  rw [List.filterMap_append, List.mem_append, or_and_right]

theorem Refused.bound {f : Fault} (h : Refused t f) (fields : List (String × Value)) :
    Refused (t.map (boundExchange fields)) f := by
  refine ⟨?_, h.2⟩
  rw [batchReplies_bound]
  exact h.1

/-- What a cycle over a listing fails with: it is aborted, the pool rejected a submission with anything but a runtime
error, or the time of a record cannot be read. -/
def Halts (listing : List AppRecord) (t : List (Exchange Keeping)) (f : Fault) : Prop :=
  f.isAbort = true ∨ Refused t f ∨ ∃ record ∈ listing, record.updatedMillis = .error f

/-! ## The stretches of a cycle -/

theorem rounds_evictions {keys : List (String × Bool)} (h : ∀ key ∈ keys, gone key.1) :
    ∀ e ∈ evictions keys, (rounds gone).asks e.request := by
  intro e he
  obtain ⟨key, hkey, he⟩ := List.mem_flatMap.1 he
  exact List.forall_mem_cons.2 ⟨trivial, rounds_dropping (h key hkey) key.2⟩ e he

/-- What is evicted has gone from the listing. -/
theorem rounds_opening {began : Number} {keys : List String} {evicted : List (String × Bool)}
    (h : evicted.map (·.1) = keys.filter fun key => !listing.any (·.guid = key)) :
    ∀ e ∈ opening began keys evicted,
      (rounds fun key => ∀ record ∈ listing, record.guid ≠ key).asks e.request := by
  have hgone : ∀ key ∈ evicted, ∀ record ∈ listing, record.guid ≠ key.1 := by
    intro key hkey record hrecord hguid
    have hunlisted := (List.mem_filter.1 (h ▸ List.mem_map_of_mem hkey)).2
    have hlisted : listing.any (·.guid = key.1) = true := List.any_eq_true.2 ⟨record, hrecord, by simpa using hguid⟩
    rw [hlisted] at hunlisted
    cases hunlisted
  have hend : ∀ level text fields,
      ∀ e ∈ [counted (.evicted (.whole (evicted.map (·.1)).length)), reported level text fields],
      (rounds fun key => ∀ record ∈ listing, record.guid ≠ key).asks e.request := fun _ _ _ =>
    List.forall_mem_cons.2 ⟨trivial, List.forall_mem_singleton.2 trivial⟩
  exact List.forall_mem_cons.2 ⟨trivial, List.forall_mem_cons.2 ⟨trivial,
    List.forall_mem_append.2 ⟨rounds_evictions hgone, hend _ _ _⟩⟩⟩

theorem rounds_looks (seen : List (AppRecord × Option Workload)) : ∀ e ∈ looks seen, (rounds gone).asks e.request :=
  forall_mem_looks (fun _ _ => trivial) (fun _ _ _ => trivial) seen

/-- What comes of a batch is stored under its own identifier. -/
theorem rounds_committed {tasks : List Task} {reply : BatchReply} {ws : List Workload} {ms : List Measure} :
    ∀ e ∈ (⟨.batch tasks, reply⟩ :: (stores ws ++ ms.map counted) : List (Exchange Keeping)),
      (rounds gone).asks e.request := by
  refine List.forall_mem_cons.2 ⟨trivial, List.forall_mem_append.2 ⟨?_, ?_⟩⟩
  · exact List.forall_mem_map.2 fun w _ => rfl
  · exact List.forall_mem_map.2 fun m _ => trivial

/-- A batch that fails aborts the cycle or was refused. -/
theorem refused_of_fanned {tasks : List Task} {reply : BatchReply} {f : Fault} (h : fanned reply = .error f) :
    f.isAbort = true ∨ Refused [⟨.batch tasks, reply⟩] f := by
  rcases isAbort_of_fanned h with habort | ⟨rfl, hf⟩
  · exact Or.inl habort
  · exact Or.inr ⟨List.mem_singleton.2 rfl, hf⟩

/-- Once work is handed out, nothing is dropped any more. Only a batch that fails ends it. -/
theorem rounds_of_pooled {stale : List AppRecord}
    {o : Except Fault ((List String × List String) × List String)} (h : PooledTranscript r listing stale t o) :
    Ended (fun _ => True) (fun f => f.isAbort = true ∨ Refused t f) o ∧ ∀ e ∈ t, (rounds gone).asks e.request := by
  cases h with
  | unmapped failed => exact ⟨refused_of_fanned failed, List.forall_mem_singleton.2 trivial⟩
  | unevaluated failed =>
    refine ⟨?_, List.forall_mem_append.2 ⟨rounds_committed, List.forall_mem_singleton.2 trivial⟩⟩
    exact (refused_of_fanned failed).imp id fun hrefused => refused_append.2 (Or.inr hrefused)
  | @finished mapped results =>
    exact ⟨trivial, List.forall_mem_append.2 ⟨rounds_committed, rounds_committed⟩⟩

theorem rounds_closing (status : String) (began ended : Number) :
    ∀ e ∈ closing status began ended, (rounds gone).asks e.request :=
  List.forall_mem_cons.2 ⟨trivial, List.forall_mem_singleton.2 trivial⟩

/-! ## Cycles -/

/-- **A cycle** makes its rounds and nothing else, and fails only if it is aborted, if the pool refuses work, or if a
record has no readable time. -/
theorem rounds_of_refresh {ω : Type} {A : Answering Keeping ω} {w w' : ω} {o : Except Fault Refresh}
    (h : Attempt.Runs A (r.refresh listing) w t o w') :
    Ended (fun _ => True) (Halts listing t) o ∧
      ∀ e ∈ t, (rounds fun key => ∀ record ∈ listing, record.guid ≠ key).asks e.request := by
  obtain ⟨t', hunbound, rfl⟩ := runs_under_bound h
  obtain ⟨began, keys, evicted, seen, rest, hevicted, rfl, htranscript⟩ := runs_refreshUnbound hunbound
  suffices hrest : Ended (fun _ => True) (Halts listing rest) o ∧
      ∀ e ∈ rest, (rounds fun key => ∀ record ∈ listing, record.guid ≠ key).asks e.request by
    refine ⟨hrest.1.mono (fun _ => id) ?_, rounds_bound ?_ _⟩
    · rintro f (habort | hrefused | hunread)
      · exact Or.inl habort
      · exact Or.inr (Or.inl ((refused_append.2 (Or.inr (refused_append.2 (Or.inr hrefused)))).bound _))
      · exact Or.inr (Or.inr hunread)
    · exact List.forall_mem_append.2 ⟨rounds_opening hevicted, List.forall_mem_append.2 ⟨rounds_looks seen, hrest.2⟩⟩
  cases htranscript with
  | unreadable looked cached unread =>
    exact ⟨Or.inr (Or.inr ⟨_, looked.subset (List.mem_map_of_mem cached), unread⟩), List.forall_mem_nil _⟩
  | broken looked tells pooled =>
    obtain ⟨hended, hrounds⟩ := rounds_of_pooled pooled
    refine ⟨hended.imp id fun hrefused => Or.inl (refused_append.2 (Or.inl hrefused)), ?_⟩
    exact List.forall_mem_append.2 ⟨hrounds, forall_mem_failing (rounds_closing _ _ _) _⟩
  | finished looked tells pooled =>
    refine ⟨trivial, List.forall_mem_append.2 ⟨(rounds_of_pooled pooled).2, ?_⟩⟩
    exact List.forall_mem_append.2 ⟨rounds_closing _ _ _, List.forall_mem_singleton.2 trivial⟩

end Roster

end Steward
