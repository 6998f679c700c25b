import Steward.Proofs.Program.Endings
import Steward.Proofs.Roster.Freshness

/-!
# The order in which keys came

A cache keeps its entries in the order in which their keys came, and a key that is written again keeps its place. So
the order that a cycle leaves can be told from what it says it did: what was not listed has gone, and what was put
together and was new comes last, in the order in which it was stored.

## Contents

* `Keyed.noted` — keys after one of them is written; `noted_all` — after several are;
* `Keeping.Ranks` — answers by which keys come and go as requests say; `ranks_consult` — answers by the board;
* `Ranks.keys_of_reading` — what writes nothing leaves the keys; `Roster.keys_of_opening`, `keys_of_stores`,
  `PooledTranscript.keys_eq` — the stretches of a cycle;
* `Roster.keys_of_refreshUnbound`, `keys_of_refresh` — the order that a cycle leaves;
* `Roster.ranked`, `keys_of_refresh_ranked` — the order in which applications stand after a cycle that skipped none.
-/

namespace Steward

open Attempt

/-! ## Keys of keyed lists -/

namespace Keyed

variable {κ α : Type} [DecidableEq κ]

/-- Keys after one of them is written: it keeps its place, or comes last. -/
def noted (keys : List κ) (key : κ) : List κ :=
  if key ∈ keys then keys else keys ++ [key]

theorem keys_put (entries : List (κ × α)) (key : κ) (a : α) :
    (put entries key a).map (·.1) = noted (entries.map (·.1)) key :=
  map_fst_update entries key fun _ => a

theorem keys_erase (entries : List (κ × α)) (key : κ) :
    (erase entries key).map (·.1) = (entries.map (·.1)).filter (· ≠ key) := by
  unfold erase
  rw [List.filter_map]
  rfl

/-- Keys that are there keep their places. -/
theorem noted_all_of_mem {keys more : List κ} (h : ∀ key ∈ more, key ∈ keys) : more.foldl noted keys = keys := by
  induction more with
  | nil => rfl
  | cons key rest ih =>
    obtain ⟨hkey, hrest⟩ := List.forall_mem_cons.1 h
    have hsame : noted keys key = keys := if_pos hkey
    rw [List.foldl_cons, hsame]
    exact ih hrest

/-- **Of several keys the new ones come last**, in their order. -/
theorem noted_all {keys more : List κ} (h : more.Nodup) :
    more.foldl noted keys = keys ++ more.filter (· ∉ keys) := by
  induction more generalizing keys with
  | nil => rw [List.foldl_nil, List.filter_nil, List.append_nil]
  | cons key rest ih =>
    obtain ⟨hnew, hrest⟩ := List.nodup_cons.1 h
    rw [List.foldl_cons, ih hrest]
    by_cases hkey : key ∈ keys
    · have hsame : noted keys key = keys := if_pos hkey
      rw [hsame, List.filter_cons_of_neg (by simpa using hkey)]
    · have hlast : noted keys key = keys ++ [key] := if_neg hkey
      -- the key does not come again, so it counts for the others as little as if it had not come
      have hothers : rest.filter (· ∉ keys ++ [key]) = rest.filter (· ∉ keys) := by
        apply List.filter_congr
        intro other hother
        have hne : other ≠ key := fun heq => hnew (heq ▸ hother)
        simp [hne]
      rw [hlast, hothers, List.filter_cons_of_pos (by simpa using hkey), List.append_assoc]
      rfl

end Keyed

/-! ## Requests -/

namespace Keeping

variable {ω α : Type} {A : Answering Keeping ω} {keys : ω → List String} {w w' : ω} {t : List (Exchange Keeping)}

/-- **Keys come and go as requests say**, in every state. -/
structure Ranks (A : Answering Keeping ω) (keys : ω → List String) : Prop where
  frame : ∀ {r w reply w'}, A r w reply w' → r.isWrite = false → keys w' = keys w
  store : ∀ {key x w reply w'}, A (.store key x) w reply w' → keys w' = Keyed.noted (keys w) key
  invalidate : ∀ {key w reply w'}, A (.invalidate key) w reply w' → keys w' = (keys w).filter (· ≠ key)
  shown : ∀ {w reply w'}, A .keys w reply w' → reply = keys w

/-- The answers by the board, whatever fields are bound. -/
theorem ranks_consult (facts : Facts) (fields : List (String × Value)) :
    Ranks (answersUnder fields facts.consult.answering) fun b => b.held.map (·.1) where
  frame := by
    intro r b reply b' h hr
    have hbatch : ∀ tasks, (facts.handOut tasks b).2.held = b.held := by
      intro tasks
      unfold Facts.handOut
      split
      · rfl
      · rfl
    cases r with
    | store key x => cases hr
    | invalidate key => cases hr
    | batch tasks =>
      obtain rfl : (facts.handOut _ b).2 = b' := congrArg Prod.snd h
      exact congrArg (List.map (·.1)) (hbatch _)
    | inquiry q =>
      obtain rfl : b = b' := by
        cases q with
        | _ => exact congrArg Prod.snd h
      rfl
    | _ =>
      obtain rfl : b = b' := congrArg Prod.snd h
      rfl
  store := by
    intro key x b reply b' h
    obtain rfl : { b with held := Keyed.put b.held key x } = b' := congrArg Prod.snd h
    exact Keyed.keys_put _ _ _
  invalidate := by
    intro key b reply b' h
    obtain rfl : { b with held := Keyed.erase b.held key } = b' := congrArg Prod.snd h
    exact Keyed.keys_erase _ _
  shown := by
    intro b reply b' h
    exact (congrArg Prod.fst h).symm

namespace Ranks

/-- What writes nothing leaves the keys. -/
theorem keys_of_reading (hA : Ranks A keys) (ht : ∀ e ∈ t, e.request.isWrite = false) (h : A.Leads w t w') :
    keys w' = keys w := by
  refine h.keeps (P := fun m => keys m = keys w) (Q := fun r : Keeping.Request => r.isWrite = false) ?_ ht rfl
  intro r m reply m' hr hm answer
  exact (hA.frame answer hr).trans hm

theorem keys_of_dropping (hA : Ranks A keys) {key : String} {held : Bool} (h : A.Leads w (dropping key held) w') :
    keys w' = (keys w).filter (· ≠ key) := by
  cases h with
  | cons answer hrest =>
    rw [← hA.invalidate answer]
    exact hA.keys_of_reading (by cases held <;> simp [Request.isWrite]) hrest

end Ranks

end Keeping

/-! ## The stretches of a cycle -/

namespace Roster

open Keeping

variable {ω : Type} {A : Answering Keeping ω} {keys : ω → List String} {w w' : ω} {t : List (Exchange Keeping)}
  {listing : List AppRecord}

theorem keys_of_evictions (hA : Ranks A keys) {gone : List (String × Bool)} (h : A.Leads w (evictions gone) w') :
    keys w' = (keys w).filter (· ∉ gone.map (·.1)) := by
  induction gone generalizing w with
  | nil =>
    rw [hA.keys_of_reading (List.forall_mem_nil _) h]
    simp
  | cons key rest ih =>
    rw [evictions_cons, ← List.singleton_append] at h
    obtain ⟨m, hreport, h⟩ := h.split
    obtain ⟨m', hdrop, hrest⟩ := h.split
    rw [ih hrest, hA.keys_of_dropping hdrop, hA.keys_of_reading (List.forall_mem_singleton.2 rfl) hreport,
      List.filter_filter]
    apply List.filter_congr
    intro other _
    simp [Bool.and_comm]

/-- **Eviction** leaves the keys that are listed, in their order. -/
theorem keys_of_opening (hA : Ranks A keys) {began : Number} {held : List String} {gone : List (String × Bool)}
    (hgone : gone.map (·.1) = held.filter fun key => !listing.any (·.guid = key))
    (h : A.Leads w (opening began held gone) w') :
    keys w' = (keys w).filter fun key => listing.any (·.guid = key) := by
  unfold opening at h
  cases h with
  | cons started h =>
    cases h with
    | cons answer h =>
      obtain ⟨m, hevict, hend⟩ := h.split
      obtain rfl := hA.shown answer
      rw [hA.keys_of_reading (by simp [Request.isWrite]) hend, keys_of_evictions hA hevict, hgone,
        hA.frame answer rfl, hA.frame started rfl]
      apply List.filter_congr
      intro key hkey
      cases hlisted : listing.any (·.guid = key) with
      | true => simp [hlisted]
      | false => simp [hlisted, hkey]

/-- What is stored is noted in its order. -/
theorem keys_of_stores (hA : Ranks A keys) {ws : List Workload} (h : A.Leads w (stores ws) w') :
    keys w' = (ws.map (·.id)).foldl Keyed.noted (keys w) := by
  induction ws generalizing w with
  | nil => exact hA.keys_of_reading (List.forall_mem_nil _) h
  | cons x rest ih =>
    cases h with
    | cons answer hrest => rw [ih hrest, hA.store answer, List.map_cons, List.foldl_cons]

/-- So it is between a batch and the measures after it. -/
theorem keys_of_committed (hA : Ranks A keys) {tasks : List Task} {reply : BatchReply} {ws : List Workload}
    {ms : List Measure} (h : A.Leads w (⟨.batch tasks, reply⟩ :: (stores ws ++ ms.map counted)) w') :
    keys w' = (ws.map (·.id)).foldl Keyed.noted (keys w) := by
  cases h with
  | cons answer h =>
    obtain ⟨m, hstores, hmeasures⟩ := h.split
    rw [hA.keys_of_reading (by simp [Request.isWrite]) hmeasures, keys_of_stores hA hstores, hA.frame answer rfl]

/-- The steps that need the pool store what they say, in this order. -/
theorem PooledTranscript.keys_eq (hA : Ranks A keys) {r : Roster} {stale : List AppRecord}
    {remapped skipped evaluated : List String}
    (htranscript : PooledTranscript r listing stale t (.ok ((remapped, skipped), evaluated))) (h : A.Leads w t w') :
    keys w' = (remapped ++ evaluated).foldl Keyed.noted (keys w) := by
  cases htranscript with
  | @finished mapped results =>
    obtain ⟨m, hremapping, hevaluating⟩ := h.split
    have hevaluated := keys_of_committed hA hevaluating
    rw [hevaluated, keys_of_committed hA hremapping, List.foldl_append]
    rfl

/-- **The order that a cycle leaves**, without the fields bound around it: what is not listed has gone, and what it says
was put together and evaluated has been written, in this order. -/
theorem keys_of_refreshUnbound (hA : Ranks A keys) (r : Roster) {done : Refresh}
    (h : Attempt.Runs A (r.refreshUnbound listing) w t (.ok done) w') :
    keys w' = (done.remapped ++ done.evaluated).foldl Keyed.noted
      ((keys w).filter fun key => listing.any (·.guid = key)) := by
  obtain ⟨began, held, gone, seen, rest, hgone, rfl, htranscript⟩ := runs_refreshUnbound h
  cases htranscript with
  | finished looked tells pooled =>
    obtain ⟨m₁, hopening, hrest⟩ := h.leads.split
    obtain ⟨m₂, hlooks, hrest⟩ := hrest.split
    obtain ⟨m₃, hpooled, hclosing⟩ := hrest.split
    -- the steps that need the pool write; what is looked at before them and measured after them does not
    rw [hA.keys_of_reading (by simp [closing, summary, Request.isWrite]) hclosing, pooled.keys_eq hA hpooled,
      hA.keys_of_reading (forall_mem_looks (fun _ _ => rfl) (fun _ _ _ => rfl) seen) hlooks,
      keys_of_opening hA hgone hopening]

/-! ## Cycles -/

variable {τ σ : Type} [Sub τ] [LE τ] [DecidableLE τ] {platform : Handler Inquiry σ} {facts : Facts}

/-- **The order that a cycle leaves**, whatever its workers do. -/
theorem keys_of_refresh (hfacts : facts.Govern platform) (r : Roster) {w w' : Workshop τ σ}
    {t : List (Exchange Keeping)} {done : Refresh} (hw : w.Calm)
    (h : Attempt.Runs (Workshop.Answers platform) (r.refresh listing) w t (.ok done) w') :
    w'.session.cache.held.map (·.1) = (done.remapped ++ done.evaluated).foldl Keyed.noted
      ((w.session.cache.held.map (·.1)).filter fun key => listing.any (·.guid = key)) := by
  obtain ⟨hrun, -⟩ := Workshop.run_consult hfacts h hw
  have hboard := Program.Runs.of_run facts.consult (r.refresh listing).outcome w.board
  rw [hrun] at hboard
  obtain ⟨t', hunbound, -⟩ := runs_under hboard
  exact keys_of_refreshUnbound (ranks_consult facts _) r hunbound

/-- Applications in the order in which they stand after a cycle: those that were cached keep their places, and the
others come last, in the order of the listing. -/
def ranked (listing : List AppRecord) (keys : List String) : List AppRecord :=
  keys.filterMap (fun key => listing.find? (·.guid = key)) ++ listing.filter (·.guid ∉ keys)

/-- Where nothing was cached, the order is that of the listing. -/
theorem ranked_nil (listing : List AppRecord) : ranked listing [] = listing := by
  simp [ranked]

theorem mem_of_ranked {keys : List String} {record : AppRecord} (h : record ∈ ranked listing keys) :
    record ∈ listing := by
  rcases List.mem_append.1 h with hold | hnew
  · obtain ⟨key, -, hfound⟩ := List.mem_filterMap.1 hold
    exact List.mem_of_find?_eq_some hfound
  · exact (List.mem_filter.1 hnew).1

theorem guids_ranked (listing : List AppRecord) (keys : List String) :
    (ranked listing keys).map (·.guid) = (keys.filter fun key => listing.any (·.guid = key)) ++
      (listing.filter (·.guid ∉ keys)).map (·.guid) := by
  unfold ranked
  rw [List.map_append]
  refine congrArg (· ++ _) ?_
  induction keys with
  | nil => rfl
  | cons key rest ih =>
    cases hfound : listing.find? (·.guid = key) with
    | none =>
      have hunlisted : listing.any (·.guid = key) = false := by simpa using hfound
      rw [List.filterMap_cons, hfound, List.filter_cons_of_neg (by simp [hunlisted])]
      exact ih
    | some record =>
      have hguid : record.guid = key := by simpa using List.find?_some hfound
      have hlisted : listing.any (·.guid = key) = true :=
        List.any_eq_true.2 ⟨record, List.mem_of_find?_eq_some hfound, by simpa using hguid⟩
      rw [List.filterMap_cons, hfound, List.filter_cons_of_pos (by rw [hlisted])]
      exact congrArg₂ List.cons hguid ih

/-- What a cycle that skips nothing says it put together is what was stale. -/
theorem remapped_of_refresh (r : Roster) (hdistinct : (listing.map (·.guid)).Nodup) {w w' : Workshop τ σ}
    {t : List (Exchange Keeping)} {done : Refresh} (hw : w.Calm)
    (h : Attempt.Runs (Workshop.Answers platform) (r.refresh listing) w t (.ok done) w') (hdone : done.skipped = []) :
    done.remapped = (w.contents.stale listing).map (·.guid) := by
  obtain ⟨-, ⟨isMapped, hremapped, hskipped⟩, -⟩ := refresh_fresh platform r hdistinct hw h
  have hnone : (w.contents.stale listing).filter (fun record => !isMapped record) = [] := by
    rw [hdone] at hskipped
    exact List.map_eq_nil_iff.1 hskipped.symm
  have hall : (w.contents.stale listing).filter isMapped = w.contents.stale listing := by
    rw [List.filter_eq_self]
    intro record hrecord
    simpa using (List.filter_eq_nil_iff.1 hnone) record hrecord
  rw [hremapped, hall]

/-- What is not held is not shown, and stale. -/
theorem stale_of_not_held {w : Workshop τ σ} (hw : w.Calm) {record : AppRecord}
    (hnew : record.guid ∉ w.session.cache.held.map (·.1)) : record.isStale (w.contents record.guid) = true := by
  have hnone : w.session.cache.held.lookup record.guid = none := by
    rw [List.lookup_eq_none_iff]
    intro e he
    have hne : record.guid ≠ e.1 := fun heq => hnew (heq ▸ List.mem_map_of_mem he)
    simpa using hne
  rw [show w.contents record.guid = none from (hw.peek?_eq record.guid).trans hnone]
  rfl

/-- What of the stale stands nowhere yet is what of the listing is not held. -/
theorem filter_stale {contents : Contents} {keys : List String}
    (hstale : ∀ record ∈ listing, record.guid ∉ keys → record.isStale (contents record.guid) = true) :
    ((contents.stale listing).map (·.guid)).filter (· ∉ keys.filter fun key => listing.any (·.guid = key))
      = (listing.filter (·.guid ∉ keys)).map (·.guid) := by
  unfold Contents.stale
  rw [List.filter_map, List.filter_filter]
  refine congrArg (List.map _) (List.filter_congr ?_)
  intro record hrecord
  have hlisted : record.guid ∈ keys.filter (fun key => listing.any (·.guid = key)) ↔ record.guid ∈ keys := by
    rw [List.mem_filter]
    exact and_iff_left (List.any_eq_true.2 ⟨record, hrecord, by simp⟩)
  simp only [Function.comp_apply, hlisted]
  by_cases hkey : record.guid ∈ keys
  · simp [hkey]
  · simp [hkey, hstale record hrecord hkey]

/-- All that is listed stands in this order. -/
theorem guid_mem_ranked {keys : List String} {record : AppRecord} (h : record ∈ listing) :
    record.guid ∈ (ranked listing keys).map (·.guid) := by
  rw [guids_ranked]
  by_cases hheld : record.guid ∈ keys
  · exact List.mem_append_left _ (List.mem_filter.2 ⟨hheld, List.any_eq_true.2 ⟨record, h, by simp⟩⟩)
  · exact List.mem_append_right _ (List.mem_map_of_mem (List.mem_filter.2 ⟨h, by simpa using hheld⟩))

/-- **After a cycle that skipped nothing** the applications stand in this order. -/
theorem keys_of_refresh_ranked (hfacts : facts.Govern platform) (r : Roster)
    (hdistinct : (listing.map (·.guid)).Nodup) {w w' : Workshop τ σ} {t : List (Exchange Keeping)} {done : Refresh}
    (hw : w.Calm) (hown : ∀ record ∈ listing, ∀ x, w.contents record.guid = some x → x.id = record.guid)
    (h : Attempt.Runs (Workshop.Answers platform) (r.refresh listing) w t (.ok done) w') (hdone : done.skipped = []) :
    w'.session.cache.held.map (·.1) = (ranked listing (w.session.cache.held.map (·.1))).map (·.guid) := by
  obtain ⟨-, -, hfresh⟩ := refresh_fresh platform r hdistinct hw h
  have hdistinctStale : ((w.contents.stale listing).map (·.guid)).Nodup :=
    hdistinct.sublist (List.filter_sublist.map _)
  rw [keys_of_refresh hfacts r hw h, List.foldl_append, remapped_of_refresh r hdistinct hw h hdone,
    Keyed.noted_all hdistinctStale, filter_stale fun _ _ => stale_of_not_held hw, ← guids_ranked]
  -- whoever is evaluated is listed, and stands there already
  apply Keyed.noted_all_of_mem
  intro key hkey
  rw [(hfresh hown).evaluated_eq] at hkey
  obtain ⟨record, hrecord, rfl⟩ := List.mem_map.1 hkey
  exact guid_mem_ranked (List.mem_filter.1 hrecord).1

end Roster

end Steward
