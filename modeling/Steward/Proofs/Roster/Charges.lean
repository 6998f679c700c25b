import Mathlib.Data.List.Forall2
import Steward.Proofs.Roster.Cycle
import Steward.Proofs.Measure.Counters

/-!
# What a cycle counts

A cycle counts at four places, and it may end between any two of them. What it has counted is read off what it has
exchanged, whatever it was answered: `Roster.Charged` lists the ways of a cycle with the measures that each leaves, next
to the keys that were dropped, what was looked up, and what became of the batches.

## Contents

* `Keeping.Notes` — what is read off exchanges; `Notes.append` — of exchanges in a row;
* `Roster.staleAmong` — the records that are stale by what was looked up;
* `Roster.notes_opening`, `notes_looks`, `notes_remapping`, `notes_evaluating`, `notes_failing` — the stretches of a cycle;
* `Roster.Charged`, `Roster.refresh_charged` — cycles.
-/

namespace Steward

/-! ## Exchanges -/

namespace Keeping

/-- What a keeper has measured, in order. -/
def measured (t : List (Exchange Keeping)) : List Measure :=
  t.filterMap fun e =>
    match e with
    | ⟨.measure m, _⟩ => some m
    | _ => none

theorem measured_append (t t' : List (Exchange Keeping)) : measured (t ++ t') = measured t ++ measured t' :=
  List.filterMap_append

/-- The keys that a keeper has dropped, in order. -/
def dropped (t : List (Exchange Keeping)) : List String :=
  t.filterMap fun e =>
    match e with
    | ⟨.invalidate key, _⟩ => some key
    | _ => none

/-- What a keeper has looked up, in order, each with what it found. -/
def found (t : List (Exchange Keeping)) : List (String × Option Workload) :=
  t.filterMap fun e =>
    match e with
    | ⟨.lookup key, reply⟩ => some (key, reply)
    | _ => none

/-- What became of the batches that a keeper has handed out, in order, each with the number of its tasks. -/
def batched (t : List (Exchange Keeping)) : List (Nat × BatchReply) :=
  t.filterMap fun e =>
    match e with
    | ⟨.batch tasks, reply⟩ => some (tasks.length, reply)
    | _ => none

/-- **What is read off exchanges**: the keys that were dropped, what was found, what became of the batches, and what was
measured. -/
structure Notes (t : List (Exchange Keeping)) (gone : List String) (seen : List (String × Option Workload))
    (replies : List (Nat × BatchReply)) (ms : List Measure) : Prop where
  dropped : dropped t = gone
  found : found t = seen
  batched : batched t = replies
  measured : measured t = ms

variable {t t' : List (Exchange Keeping)} {gone gone' : List String} {seen seen' : List (String × Option Workload)}
  {replies replies' : List (Nat × BatchReply)} {ms ms' : List Measure}

theorem Notes.nil : Notes [] [] [] [] [] :=
  ⟨rfl, rfl, rfl, rfl⟩

theorem Notes.append (h : Notes t gone seen replies ms) (h' : Notes t' gone' seen' replies' ms') :
    Notes (t ++ t') (gone ++ gone') (seen ++ seen') (replies ++ replies') (ms ++ ms') := by
  obtain ⟨rfl, rfl, rfl, rfl⟩ := h
  obtain ⟨rfl, rfl, rfl, rfl⟩ := h'
  exact ⟨List.filterMap_append, List.filterMap_append, List.filterMap_append, List.filterMap_append⟩

/-- A request of which nothing is noted. -/
def Request.isSilent : Keeping.Request → Bool
  | .measure _ | .invalidate _ | .lookup _ | .batch _ => false
  | _ => true

theorem Notes.cons_silent {r : Keeping.Request} {reply : Keeping.Reply r} (hr : r.isSilent = true)
    (h : Notes t gone seen replies ms) : Notes (⟨r, reply⟩ :: t) gone seen replies ms := by
  cases r with
  | measure _ | invalidate _ | lookup _ | batch _ => cases hr
  | _ => exact ⟨h.dropped, h.found, h.batched, h.measured⟩

theorem Notes.cons_measure {m : Measure} {reply : Unit} (h : Notes t gone seen replies ms) :
    Notes (⟨.measure m, reply⟩ :: t) gone seen replies (m :: ms) :=
  ⟨h.dropped, h.found, h.batched, congrArg (m :: ·) h.measured⟩

theorem Notes.cons_invalidate {key : String} {reply : Bool} (h : Notes t gone seen replies ms) :
    Notes (⟨.invalidate key, reply⟩ :: t) (key :: gone) seen replies ms :=
  ⟨congrArg (key :: ·) h.dropped, h.found, h.batched, h.measured⟩

theorem Notes.cons_lookup {key : String} {reply : Option Workload} (h : Notes t gone seen replies ms) :
    Notes (⟨.lookup key, reply⟩ :: t) gone ((key, reply) :: seen) replies ms :=
  ⟨h.dropped, congrArg ((key, reply) :: ·) h.found, h.batched, h.measured⟩

theorem Notes.cons_batch {tasks : List Task} {reply : BatchReply} (h : Notes t gone seen replies ms) :
    Notes (⟨.batch tasks, reply⟩ :: t) gone seen ((tasks.length, reply) :: replies) ms :=
  ⟨h.dropped, h.found, congrArg ((tasks.length, reply) :: ·) h.batched, h.measured⟩

/-- Of silent requests nothing is noted. -/
theorem notes_of_silent (h : ∀ e ∈ t, e.request.isSilent = true) : Notes t [] [] [] [] := by
  induction t with
  | nil => exact Notes.nil
  | cons e rest ih =>
    obtain ⟨he, hrest⟩ := List.forall_mem_cons.1 h
    exact (ih hrest).cons_silent he

theorem notes_counted (ms : List Measure) : Notes (ms.map counted) [] [] [] ms := by
  induction ms with
  | nil => exact Notes.nil
  | cons m rest ih => exact ih.cons_measure

theorem notes_dropping (key : String) (held : Bool) : Notes (dropping key held) [key] [] [] [] := by
  cases held with
  | true | false => exact (notes_of_silent (by simp [Request.isSilent])).cons_invalidate

end Keeping

/-! ## The stretches of a cycle -/

namespace Roster

open Keeping

variable {listing : List AppRecord}

/-- What is evicted is dropped. -/
theorem notes_evictions (gone : List (String × Bool)) : Notes (evictions gone) (gone.map (·.1)) [] [] [] := by
  induction gone with
  | nil => exact Notes.nil
  | cons key rest ih =>
    rw [evictions_cons]
    exact ((notes_dropping key.1 key.2).append ih).cons_silent rfl

/-- Every record is looked up once. -/
theorem notes_looks (seen : List (AppRecord × Option Workload)) :
    Notes (looks seen) [] (seen.map fun look => (look.1.guid, look.2)) [] [] := by
  induction seen with
  | nil => exact Notes.nil
  | cons look rest ih =>
    rw [looks_cons]
    have hremarks : Notes (remarks look.1 look.2) [] [] [] [] :=
      notes_of_silent (forall_mem_remarks (fun _ _ _ => rfl) _ _)
    exact (hremarks.append ih).cons_lookup

theorem notes_stores (ws : List Workload) : Notes (stores ws) [] [] [] [] := by
  refine notes_of_silent ?_
  simp [stores, Request.isSilent]

theorem notes_opening (began : Number) (keys : List String) (gone : List (String × Bool)) :
    Notes (opening began keys gone) (gone.map (·.1)) [] [] [.evicted (.whole (gone.map (·.1)).length)] := by
  have hend : ∀ level text fields, Notes [counted (.evicted (.whole (gone.map (·.1)).length)),
      reported level text fields] [] [] [] [.evicted (.whole (gone.map (·.1)).length)] :=
    fun _ _ _ => (Notes.nil.cons_silent rfl).cons_measure
  have hevicted : ∀ {t ms}, Notes t [] [] [] ms → Notes (evictions gone ++ t) (gone.map (·.1)) [] [] ms := by
    intro t ms h
    have hboth := (notes_evictions gone).append h
    rw [List.append_nil] at hboth
    exact hboth
  exact ((hevicted (hend _ _ _)).cons_silent rfl).cons_silent rfl

theorem notes_closing (status : String) (began ended : Number) :
    Notes (closing status began ended) [] [] [] [.cycle status (ended - began)] :=
  Notes.nil.cons_measure.cons_silent rfl

/-- What a cycle that fails with this measures at its end. -/
def lastMeasures (f : Fault) (duration : Number) : List Measure :=
  if f.isAbort then [.cycle "aborted" duration] else []

theorem notes_failing (f : Fault) (began ended : Number) :
    Notes (failing f began ended) [] [] [] (lastMeasures f (ended - began)) := by
  unfold failing lastMeasures
  split
  · exact notes_closing "aborted" began ended
  · exact Notes.nil

theorem notes_summary (listing : List AppRecord) (done : Refresh) : Notes [summary listing done] [] [] [] [] :=
  Notes.nil.cons_silent rfl

/-- A batch is noted with the number of its tasks, and then what is measured after the stores. -/
theorem notes_committed {α : Type} (f : α → Task) (work : List α) (reply : BatchReply) (ws : List Workload)
    (ms : List Measure) :
    Notes (⟨.batch (work.map f), reply⟩ :: (stores ws ++ ms.map counted)) [] [] [(work.length, reply)] ms := by
  rw [← List.length_map f]
  exact ((notes_stores ws).append (notes_counted ms)).cons_batch

/-- Nothing is noted with a batch that fails. -/
theorem notes_batch {α : Type} (f : α → Task) (work : List α) (reply : BatchReply) :
    Notes [⟨.batch (work.map f), reply⟩] [] [] [(work.length, reply)] [] :=
  notes_committed f work reply [] []

theorem notes_remapping (r : Roster) (stale : List AppRecord) (mapped : List (Option Workload)) :
    Notes (r.remapping stale mapped) [] [] [(stale.length, .ok (mapped.map .ok))] (remapMeasures (stale.zip mapped)) :=
  notes_committed r.remapTask stale _ _ _

theorem notes_evaluating (listing : List AppRecord) (results : List (Option Workload)) :
    Notes (evaluating listing results) [] [] [(listing.length, .ok (results.map .ok))] (evaluateMeasures results) :=
  notes_committed evaluateTask listing _ _ _

/-- The records of a listing that are stale by what was found for them, one by one. -/
def staleAmong (listing : List AppRecord) (seen : List (String × Option Workload)) : List AppRecord :=
  ((listing.zip seen).filter fun p => p.1.isStale p.2.2).map (·.1)

theorem staleAmong_seen (seen : List (AppRecord × Option Workload)) :
    staleAmong (seen.map (·.1)) (seen.map fun look => (look.1.guid, look.2)) = staleSeen seen := by
  unfold staleAmong staleSeen
  rw [List.zip_map', List.filter_map, List.map_map]
  rfl

/-! ## Cycles -/

/-- **The ways of a cycle with what each has counted.** The keys that were dropped are given, and what was found for the
records; then the batches, how it ended, and the measures. -/
inductive Charged (listing : List AppRecord) (gone : List String) (seen : List (String × Option Workload)) :
    List (Nat × BatchReply) → Except Fault Refresh → List Measure → Prop where
  /-- The time of a record could not be read, and nothing was handed out. -/
  | unreadable {record : AppRecord} {f : Fault} (listed : record ∈ listing) (unread : record.updatedMillis = .error f) :
      Charged listing gone seen [] (.error f) [.evicted (.whole gone.length)]
  /-- The pool failed when stale workloads were put together again. -/
  | unmapped {reply : BatchReply} {f : Fault} {duration : Number} (looked : seen.map (·.1) = listing.map (·.guid))
      (failed : fanned reply = .error f) :
      Charged listing gone seen [((staleAmong listing seen).length, reply)] (.error f)
        (.evicted (.whole gone.length) :: lastMeasures f duration)
  /-- The pool failed when health was read. -/
  | unevaluated {mapped : List (Option Workload)} {reply : BatchReply} {f : Fault} {duration : Number}
      (looked : seen.map (·.1) = listing.map (·.guid)) (failed : fanned reply = .error f) :
      Charged listing gone seen
        [((staleAmong listing seen).length, .ok (mapped.map .ok)), (listing.length, reply)] (.error f)
        (.evicted (.whole gone.length) :: (remapMeasures ((staleAmong listing seen).zip mapped)
          ++ lastMeasures f duration))
  /-- Both steps were carried out. -/
  | finished {mapped evaluated : List (Option Workload)} {duration : Number}
      (looked : seen.map (·.1) = listing.map (·.guid)) :
      Charged listing gone seen
        [((staleAmong listing seen).length, .ok (mapped.map .ok)), (listing.length, .ok (evaluated.map .ok))]
        (.ok { evicted := gone
               remapped := remappedOf ((staleAmong listing seen).zip mapped)
               skipped := skippedOf ((staleAmong listing seen).zip mapped)
               evaluated := evaluatedOf evaluated })
        (.evicted (.whole gone.length) :: (remapMeasures ((staleAmong listing seen).zip mapped)
          ++ [.skipped "health" (.whole (evaluated.length - (evaluatedOf evaluated).length : Nat))]
          ++ [.cycle "success" duration]))

/-- A cycle without the fields bound around it. -/
theorem refreshUnbound_charged {r : Roster} {o : Except Fault Refresh}
    (h : Attempt.Runs A (r.refreshUnbound listing) w t o w') :
    Charged listing (dropped t) (found t) (batched t) o (measured t) := by
  suffices hnotes : ∃ gone seen replies ms, Notes t gone seen replies ms ∧ Charged listing gone seen replies o ms by
    obtain ⟨_, _, _, _, ⟨rfl, rfl, rfl, rfl⟩, hcharged⟩ := hnotes
    exact hcharged
  obtain ⟨began, keys, gone, seen, rest, -, rfl, htranscript⟩ := runs_refreshUnbound h
  obtain ⟨found, hfound⟩ : ∃ found, (seen.map fun look => (look.1.guid, look.2)) = found := ⟨_, rfl⟩
  have hlooked : found.map (·.1) = (seen.map (·.1)).map (·.guid) := by
    rw [← hfound, List.map_map, List.map_map]
    rfl
  have hstale : staleSeen seen = staleAmong (seen.map (·.1)) found := hfound ▸ (staleAmong_seen seen).symm
  -- what is noted of the rest comes after what was noted up to the looks
  have hwhole : ∀ {t replies ms}, Notes t [] [] replies ms →
      Notes (opening began keys gone ++ (looks seen ++ t)) (gone.map (·.1)) found replies
        (.evicted (.whole (gone.map (·.1)).length) :: ms) := by
    intro t replies ms hrest
    have hall := (notes_opening began keys gone).append ((notes_looks seen).append hrest)
    rw [hfound] at hall
    simpa only [List.append_nil, List.nil_append, List.singleton_append] using hall
  refine ⟨gone.map (·.1), found, ?_⟩
  cases htranscript with
  | unreadable looked cached unread =>
    exact ⟨_, _, hwhole Notes.nil, Charged.unreadable (looked.subset (List.mem_map_of_mem cached)) unread⟩
  | @broken _ f ended looked tells pooled =>
    subst looked
    rw [hstale] at pooled
    have hclosing := notes_failing f began ended
    cases pooled with
    | @unmapped reply _ failed =>
      have hpooled := notes_batch r.remapTask (staleAmong (seen.map (·.1)) found) reply
      exact ⟨_, _, hwhole (hpooled.append hclosing), Charged.unmapped hlooked failed⟩
    | @unevaluated mapped reply _ failed =>
      have hmapped := notes_remapping r (staleAmong (seen.map (·.1)) found) mapped
      have hpooled := hmapped.append (notes_batch evaluateTask (seen.map (·.1)) reply)
      rw [List.append_nil (remapMeasures _)] at hpooled
      exact ⟨_, _, hwhole (hpooled.append hclosing), Charged.unevaluated hlooked failed⟩
  | @finished _ _ _ _ ended looked tells pooled =>
    subst looked
    rw [hstale] at pooled
    cases pooled with
    | @finished mapped results =>
      have hmapped := notes_remapping r (staleAmong (seen.map (·.1)) found) mapped
      have hpooled := hmapped.append (notes_evaluating (seen.map (·.1)) results)
      have hclosing := notes_closing "success" began ended
      exact ⟨_, _, hwhole (hpooled.append (hclosing.append (notes_summary _ _))), Charged.finished hlooked⟩

/-- Bound fields make no difference to what is noted. -/
theorem notes_bound (fields : List (String × Value)) (t : List (Exchange Keeping)) :
    Notes (t.map (boundExchange fields)) (dropped t) (found t) (batched t) (measured t) := by
  induction t with
  | nil => exact Notes.nil
  | cons e t ih =>
    obtain ⟨r, reply⟩ := e
    cases r with
    | inquiry r => cases r with | _ => exact ih.cons_silent rfl
    | measure m => exact ih.cons_measure
    | invalidate key => exact ih.cons_invalidate
    | lookup key => exact ih.cons_lookup
    | batch tasks =>
      have h : Notes (⟨.batch (tasks.map (Errand.under fields)), reply⟩ :: t.map (boundExchange fields)) (dropped t)
          (found t) (((tasks.map (Errand.under fields)).length, reply) :: batched t) (measured t) := ih.cons_batch
      rw [List.length_map] at h
      exact h
    | _ => exact ih.cons_silent rfl

/-- **What a cycle counts**, whatever it is answered. -/
theorem refresh_charged {r : Roster} {listing : List AppRecord} {o : Except Fault Refresh}
    (h : Attempt.Runs A (r.refresh listing) w t o w') :
    Charged listing (dropped t) (found t) (batched t) o (measured t) := by
  obtain ⟨t', h', rfl⟩ := runs_under_bound h
  have hcharged := refreshUnbound_charged h'
  obtain ⟨hdropped, hfound, hbatched, hmeasured⟩ := notes_bound (correlation (some r.account) none) t'
  rw [hdropped, hfound, hbatched, hmeasured]
  exact hcharged

end Roster

end Steward
