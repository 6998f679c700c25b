import Steward.Proofs.Roster.Transcript

/-!
# What a cycle does

`Cycle` lists how a cycle can go: what becomes of its batches, how it ends, and what the cache shows then. It holds
wherever the keeper is answered faithfully, and is read off what a cycle exchanges.

## Contents

* `Contents.stale`, `Contents.Tells` — stale records, and listings that tell;
* `Keeping.Keeps.leaves_evictions`, `leaves_looks`, `leaves_stores`, `leaves_remapping`, `leaves_evaluating` — what the
  stretches of a cycle leave;
* `Cycle`, `Roster.refresh_cycle` — the ways of a cycle.
-/

namespace Steward

/-! ## Staleness -/

/-- The records of a listing that are stale. -/
def Contents.stale (c : Contents) (listing : List AppRecord) : List AppRecord :=
  listing.filter fun record => record.isStale (c record.guid)

/-- Of every record it can be told whether it is stale. -/
def Contents.Tells (c : Contents) (listing : List AppRecord) : Prop :=
  ∀ record ∈ listing, ∀ w f, c record.guid = some w → record.updatedMillis ≠ .error f

/-! ## The stretches of a cycle -/

namespace Roster

/-- What is dropped one by one is not shown at the end. -/
theorem foldl_drop (keys : List String) (c : Contents) (key : String) :
    keys.foldl Contents.drop c key = if key ∈ keys then none else c key := by
  induction keys generalizing c with
  | nil => rfl
  | cons k rest ih =>
    rw [List.foldl_cons, ih]
    by_cases hrest : key ∈ rest
    · rw [if_pos hrest, if_pos (List.mem_cons_of_mem k hrest)]
    · rw [if_neg hrest]
      by_cases hk : key = k
      · rw [if_pos (hk ▸ List.mem_cons_self)]
        exact if_pos hk
      · rw [if_neg (by simp [hk, hrest])]
        exact if_neg hk

/-- Results that are paired with their records are the results. -/
theorem filterMap_zip {records : List AppRecord} {results : List (Option Workload)}
    (h : results.length = records.length) : (records.zip results).filterMap (·.2) = results.filterMap id := by
  have hsnd : (records.zip results).map Prod.snd = results := List.map_snd_zip (Nat.le_of_eq h)
  calc (records.zip results).filterMap (·.2)
      = ((records.zip results).map Prod.snd).filterMap id := by rw [List.filterMap_map]; rfl
    _ = results.filterMap id := by rw [hsnd]

/-- What is stale by what was seen is stale by what was shown. -/
theorem staleSeen_eq {seen : List (AppRecord × Option Workload)} {c : Contents}
    (h : ∀ look ∈ seen, look.2 = c look.1.guid) : staleSeen seen = c.stale (seen.map (·.1)) := by
  unfold staleSeen Contents.stale
  rw [List.filter_map]
  refine congrArg (List.map _) (List.filter_congr ?_)
  intro look hlook
  rw [Function.comp_apply, h look hlook]

end Roster

namespace Keeping.Keeps

open Roster

variable {ω : Type} {A : Answering Keeping ω} {good : ω → Prop} {shown : ω → Contents}
  {worked : Contents → List Task → BatchReply → Prop} {w w' : ω} {t : List (Exchange Keeping)}

theorem leaves_dropping (hA : Keeps A good shown worked) {key : String} {held : Bool} (hw : good w)
    (h : A.Leads w (dropping key held) w') :
    Leaves good shown (dropping key held) w' ((shown w).drop key) [] := by
  cases h with
  | cons answer hrest =>
    have hfirst := hA.leaves_invalidate hw answer
    have hleft := hA.leaves_plain hfirst.isGood hrest (by cases held <;> simp [Request.isPlain])
    rw [hfirst.shows] at hleft
    exact hfirst.after hleft

theorem leaves_evictions (hA : Keeps A good shown worked) {gone : List (String × Bool)} (hw : good w)
    (h : A.Leads w (evictions gone) w') :
    Leaves good shown (evictions gone) w' ((gone.map (·.1)).foldl Contents.drop (shown w)) [] := by
  induction gone generalizing w with
  | nil => exact hA.leaves_plain hw h (List.forall_mem_nil _)
  | cons key rest ih =>
    rw [evictions_cons, ← List.singleton_append] at h ⊢
    obtain ⟨m, hreport, h⟩ := h.split
    obtain ⟨m', hdrop, hrest⟩ := h.split
    have hreported := hA.leaves_plain hw hreport (List.forall_mem_singleton.2 rfl)
    have hdropped := hA.leaves_dropping hreported.isGood hdrop
    have hleft := ih hdropped.isGood hrest
    rw [hdropped.shows, hreported.shows] at hleft
    exact hreported.after (hdropped.after hleft)

/-- **Eviction** leaves what is listed. -/
theorem leaves_evict (hA : Keeps A good shown worked) {listing : List AppRecord} {keys : List String}
    {gone : List (String × Bool)} (hgone : gone.map (·.1) = keys.filter fun key => !listing.any (·.guid = key))
    (hw : good w) (h : A.Leads w (⟨.keys, keys⟩ :: evictions gone) w') :
    Leaves good shown (⟨.keys, keys⟩ :: evictions gone) w' ((shown w).within listing) [] := by
  cases h with
  | cons answer hrest =>
    have hshown := hA.frame hw answer rfl
    have hleft := hA.leaves_evictions (hA.stays hw answer) hrest
    refine ⟨hleft.isGood, ?_, hleft.answered⟩
    rw [hleft.shows, hshown, hgone]
    funext key
    rw [foldl_drop]
    unfold Contents.within
    -- what is not listed is dropped if the cache holds it under a key, and is not shown otherwise
    by_cases hlisted : listing.any (·.guid = key) = true
    · rw [if_pos hlisted, if_neg]
      intro hgone
      obtain ⟨-, hgone⟩ := List.mem_filter.1 hgone
      simp [hlisted] at hgone
    · rw [if_neg hlisted]
      by_cases hold : shown w key = none
      · rw [hold, ite_self]
      · have hkey := hA.keys hw answer key hold
        rw [if_pos (List.mem_filter.2 ⟨hkey, by simpa using hlisted⟩)]

/-- What is left before the looks. -/
theorem leaves_opening (hA : Keeps A good shown worked) {listing : List AppRecord} {began : Number} {keys : List String}
    {gone : List (String × Bool)} (hgone : gone.map (·.1) = keys.filter fun key => !listing.any (·.guid = key))
    (hw : good w) (h : A.Leads w (opening began keys gone) w') :
    Leaves good shown (opening began keys gone) w' ((shown w).within listing) [] := by
  unfold opening at h ⊢
  rw [← List.cons_append, ← List.singleton_append] at h ⊢
  obtain ⟨m, hstart, h⟩ := h.split
  obtain ⟨m', hevict, hend⟩ := h.split
  have hstarted := hA.leaves_plain hw hstart (List.forall_mem_singleton.2 rfl)
  have hevicted := hA.leaves_evict hgone hstarted.isGood hevict
  have hleft := hA.leaves_plain hevicted.isGood hend (by simp [Request.isPlain])
  rw [hevicted.shows, hstarted.shows] at hleft
  exact hstarted.after (hevicted.after hleft)

/-- **Looks** find what is shown, and leave it. -/
theorem leaves_looks (hA : Keeps A good shown worked) {seen : List (AppRecord × Option Workload)} (hw : good w)
    (h : A.Leads w (looks seen) w') :
    (∀ look ∈ seen, look.2 = shown w look.1.guid) ∧ Leaves good shown (looks seen) w' (shown w) [] := by
  refine ⟨?_, hA.leaves_plain hw h ?_⟩
  · induction seen generalizing w with
    | nil => exact List.forall_mem_nil _
    | cons look rest ih =>
      rw [looks_cons] at h
      cases h with
      | cons answer h =>
        obtain ⟨m, hremarks, hrest⟩ := h.split
        have hm := hA.leaves_plain (hA.stays hw answer) hremarks (forall_mem_remarks (fun _ _ _ => rfl) _ _)
        have hfound := ih hm.isGood hrest
        rw [hm.shows, hA.frame hw answer rfl] at hfound
        exact List.forall_mem_cons.2 ⟨hA.lookup hw answer, hfound⟩
  · exact forall_mem_looks (fun _ _ => rfl) (fun _ _ _ => rfl) seen

theorem leaves_stores (hA : Keeps A good shown worked) {ws : List Workload} (hw : good w)
    (h : A.Leads w (stores ws) w') : Leaves good shown (stores ws) w' ((shown w).putAll ws) [] := by
  induction ws generalizing w with
  | nil => exact hA.leaves_plain hw h (List.forall_mem_nil _)
  | cons x rest ih =>
    cases h with
    | cons answer hrest =>
      have hfirst := hA.leaves_store hw answer
      have hleft := ih hfirst.isGood hrest
      rw [hfirst.shows] at hleft
      exact hfirst.after hleft

/-- What a batch with its results, the stores of them and the measures after those leave. -/
theorem leaves_committed (hA : Keeps A good shown worked) {tasks : List Task} {reply : BatchReply} {ws : List Workload}
    {ms : List Measure} (hw : good w)
    (h : A.Leads w (⟨.batch tasks, reply⟩ :: (stores ws ++ ms.map counted)) w') :
    worked (shown w) tasks reply ∧
      Leaves good shown (⟨.batch tasks, reply⟩ :: (stores ws ++ ms.map counted)) w' ((shown w).putAll ws) [reply] := by
  cases h with
  | cons answer h =>
    obtain ⟨m, hstores, hmeasures⟩ := h.split
    have hbatch := hA.leaves_batch hw answer
    have hstored := hA.leaves_stores hbatch.isGood hstores
    have hmeasured := hA.leaves_plain hstored.isGood hmeasures (by simp [Request.isPlain])
    rw [hstored.shows, hbatch.shows] at hmeasured
    exact ⟨hA.batch hw answer, hbatch.after (hstored.after hmeasured)⟩

/-- **The step that puts workloads together** stores all results of its batch. -/
theorem leaves_remapping (hA : Keeps A good shown worked) {r : Roster} {stale : List AppRecord}
    {mapped : List (Option Workload)} (hw : good w) (h : A.Leads w (r.remapping stale mapped) w') :
    worked (shown w) (stale.map r.remapTask) (.ok (mapped.map .ok)) ∧
      Leaves good shown (r.remapping stale mapped) w' ((shown w).putAll (mapped.filterMap id))
        [.ok (mapped.map .ok)] := by
  obtain ⟨hworked, hleft⟩ := hA.leaves_committed hw h
  have hlength : mapped.length = stale.length := by simpa using hA.length hworked
  exact ⟨hworked, hleft.isGood, by rw [hleft.shows, filterMap_zip hlength], hleft.answered⟩

/-- **The step that reads health** stores all results of its batch. -/
theorem leaves_evaluating (hA : Keeps A good shown worked) {listing : List AppRecord}
    {results : List (Option Workload)} (hw : good w) (h : A.Leads w (evaluating listing results) w') :
    worked (shown w) (listing.map evaluateTask) (.ok (results.map .ok)) ∧
      Leaves good shown (evaluating listing results) w' ((shown w).putAll (results.filterMap id))
        [.ok (results.map .ok)] :=
  hA.leaves_committed hw h

end Keeping.Keeps

/-! ## The cycle -/

/-- **The ways of a cycle** from some contents: what became of its batches, how it ended, and the contents then.
Whatever happens, what is not listed is gone. A step whose batch fails stores nothing. -/
inductive Cycle (worked : Contents → List Task → BatchReply → Prop) (r : Roster) (listing : List AppRecord)
    (old : Contents) : List BatchReply → Except Fault Refresh → Contents → Prop where
  /-- It could not be told whether some record is stale. -/
  | unreadable {record : AppRecord} {x : Workload} {f : Fault} (listed : record ∈ listing)
      (cached : old record.guid = some x) (unread : record.updatedMillis = .error f) :
      Cycle worked r listing old [] (.error f) (old.within listing)
  /-- The pool failed when stale workloads were put together again. -/
  | unmapped {reply : BatchReply} {f : Fault} (tells : old.Tells listing)
      (mapping : worked (old.within listing) ((old.stale listing).map r.remapTask) reply)
      (failed : Roster.fanned reply = .error f) :
      Cycle worked r listing old [reply] (.error f) (old.within listing)
  /-- The pool failed when health was read. -/
  | unevaluated {mapped : List (Option Workload)} {reply : BatchReply} {f : Fault} (tells : old.Tells listing)
      (mapping : worked (old.within listing) ((old.stale listing).map r.remapTask) (.ok (mapped.map .ok)))
      (evaluating : worked ((old.within listing).putAll (mapped.filterMap id)) (listing.map Roster.evaluateTask)
        reply)
      (failed : Roster.fanned reply = .error f) :
      Cycle worked r listing old [.ok (mapped.map .ok), reply] (.error f)
        ((old.within listing).putAll (mapped.filterMap id))
  /-- Both steps were carried out. -/
  | finished {gone : List String} {mapped evaluated : List (Option Workload)} (tells : old.Tells listing)
      (mapping : worked (old.within listing) ((old.stale listing).map r.remapTask) (.ok (mapped.map .ok)))
      (evaluating : worked ((old.within listing).putAll (mapped.filterMap id)) (listing.map Roster.evaluateTask)
        (.ok (evaluated.map .ok))) :
      Cycle worked r listing old [.ok (mapped.map .ok), .ok (evaluated.map .ok)]
        (.ok { evicted := gone
               remapped := (mapped.filterMap id).map (·.id)
               skipped := Roster.skippedOf ((old.stale listing).zip mapped)
               evaluated := (evaluated.filterMap id).map (·.id) })
        (((old.within listing).putAll (mapped.filterMap id)).putAll (evaluated.filterMap id))

namespace Contents

theorem within_of_mem (c : Contents) {listing : List AppRecord} {record : AppRecord} (h : record ∈ listing) :
    c.within listing record.guid = c record.guid := by
  unfold within
  rw [if_pos]
  exact List.any_eq_true.2 ⟨record, h, by simp⟩

/-- Whether listed records are stale does not depend on what is not listed. -/
theorem stale_within (c : Contents) (listing : List AppRecord) :
    (c.within listing).stale listing = c.stale listing := by
  unfold stale
  apply List.filter_congr
  intro record hrecord
  rw [within_of_mem c hrecord]

end Contents

namespace Roster

open Keeping

variable {ω : Type} {A : Answering Keeping ω} {good : ω → Prop} {shown : ω → Contents}
  {worked : Contents → List Task → BatchReply → Prop} {w w' : ω} {t : List (Exchange Keeping)}

/-- **What the steps that need the pool leave.** -/
theorem PooledTranscript.leaves (hA : Keeps A good shown worked) {r : Roster} {listing : List AppRecord} {old : Contents}
    {o : Except Fault ((List String × List String) × List String)} (tells : old.Tells listing) (hw : good w)
    (hshown : shown w = old.within listing) (htranscript : PooledTranscript r listing (old.stale listing) t o)
    (h : A.Leads w t w') :
    ∃ replies c, Leaves good shown t w' c replies ∧ ∀ gone,
      Cycle worked r listing old replies (o.map fun x => ⟨gone, x.1.1, x.1.2, x.2⟩) c := by
  cases htranscript with
  | unmapped failed =>
    cases h with
    | cons answer h =>
      cases h
      have hworked := hA.batch hw answer
      rw [hshown] at hworked
      exact ⟨_, _, hshown ▸ hA.leaves_batch hw answer, fun gone => Cycle.unmapped tells hworked failed⟩
  | unevaluated failed =>
    obtain ⟨m, hremapping, h⟩ := h.split
    obtain ⟨hmapped, hleft⟩ := hA.leaves_remapping hw hremapping
    rw [hshown] at hmapped hleft
    cases h with
    | cons answer h =>
      cases h
      have hworked := hA.batch hleft.isGood answer
      have hbatch := hA.leaves_batch hleft.isGood answer
      rw [hleft.shows] at hworked hbatch
      exact ⟨_, _, hleft.after hbatch, fun gone => Cycle.unevaluated tells hmapped hworked failed⟩
  | @finished mapped results =>
    obtain ⟨m, hremapping, hevaluating⟩ := h.split
    obtain ⟨hmapped, hleft⟩ := hA.leaves_remapping hw hremapping
    obtain ⟨hread, hleft'⟩ := hA.leaves_evaluating hleft.isGood hevaluating
    rw [hshown] at hmapped hleft
    rw [hleft.shows] at hread hleft'
    have hlength : mapped.length = (old.stale listing).length := by simpa using hA.length hmapped
    have hremapped : remappedOf ((old.stale listing).zip mapped) = (mapped.filterMap id).map (·.id) :=
      congrArg (List.map _) (filterMap_zip hlength)
    rw [hremapped]
    exact ⟨_, _, hleft.after hleft', fun gone => Cycle.finished tells hmapped hread⟩

/-- **A cycle goes in one of its ways**, without the fields bound around it. -/
theorem refreshUnbound_cycle (hA : Keeps A good shown worked) (r : Roster) {listing : List AppRecord}
    {o : Except Fault Refresh} (hw : good w) (h : Attempt.Runs A (r.refreshUnbound listing) w t o w') :
    ∃ replies c, Leaves good shown t w' c replies ∧ Cycle worked r listing (shown w) replies o c := by
  obtain ⟨began, keys, gone, seen, rest, hgone, rfl, htranscript⟩ := runs_refreshUnbound h
  obtain ⟨m, hopening, hrest⟩ := h.leads.split
  obtain ⟨m', hlooks, hrest⟩ := hrest.split
  have hopened := hA.leaves_opening hgone hw hopening
  obtain ⟨hseen, hlooked⟩ := hA.leaves_looks hopened.isGood hlooks
  rw [hopened.shows] at hseen hlooked
  -- what was seen of the listed is what was shown before the cycle
  have hshown : ∀ look ∈ seen, look.1 ∈ listing → look.2 = shown w look.1.guid := by
    intro look hlook hlisted
    rw [hseen look hlook, Contents.within_of_mem _ hlisted]
  -- once all is looked at, the steps that need the pool go on from there; what closes a cycle changes nothing
  have hgoesOn : ∀ {pooled closing : List (Exchange Keeping)} {o'}, rest = pooled ++ closing →
      (∀ e ∈ closing, e.request.isPlain = true) → seen.map (·.1) = listing → (∀ look ∈ seen, look.1.Tells look.2) →
      PooledTranscript r listing (staleSeen seen) pooled o' →
      ∃ replies c, Leaves good shown (opening began keys gone ++ (looks seen ++ rest)) w' c replies ∧ ∀ gone,
        Cycle worked r listing (shown w) replies (o'.map fun x => ⟨gone, x.1.1, x.1.2, x.2⟩) c := by
    rintro pooled closing o' rfl hplain rfl htells hpooled
    obtain ⟨m'', hrest, hclosing⟩ := hrest.split
    have htells : (shown w).Tells (seen.map (·.1)) := by
      intro record hrecord x f hx
      obtain ⟨look, hlook, rfl⟩ := List.mem_map.1 hrecord
      exact htells look hlook x f ((hshown look hlook hrecord).trans hx)
    rw [staleSeen_eq hseen, Contents.stale_within] at hpooled
    obtain ⟨replies, c, hleft, hcycle⟩ := hpooled.leaves hA htells hlooked.isGood hlooked.shows hrest
    have hclosed := hA.leaves_plain hleft.isGood hclosing hplain
    rw [hleft.shows] at hclosed
    have hall := hopened.after (hlooked.after (hleft.after hclosed))
    rw [List.append_nil] at hall
    exact ⟨replies, c, hall, hcycle⟩
  cases htranscript with
  | @unreadable record x f looked cached unread =>
    have hlisted : record ∈ listing := looked.subset (List.mem_map_of_mem cached)
    have hleft := hA.leaves_plain hlooked.isGood hrest (List.forall_mem_nil _)
    rw [hlooked.shows] at hleft
    exact ⟨_, _, hopened.after (hlooked.after hleft), Cycle.unreadable hlisted (hshown _ cached hlisted).symm unread⟩
  | broken looked tells pooled =>
    obtain ⟨replies, c, hleft, hcycle⟩ :=
      hgoesOn rfl (forall_mem_failing (by simp [closing, Request.isPlain]) _) looked tells pooled
    exact ⟨replies, c, hleft, hcycle []⟩
  | finished looked tells pooled =>
    obtain ⟨replies, c, hleft, hcycle⟩ := hgoesOn rfl (by simp [closing, summary, Request.isPlain]) looked tells pooled
    exact ⟨replies, c, hleft, hcycle _⟩

/-- **A cycle goes in one of its ways.** Its batches are those of `Cycle` with fields bound around the events of
their workers. -/
theorem refresh_cycle (hA : Keeps A good shown worked) (r : Roster) {listing : List AppRecord}
    {o : Except Fault Refresh} (hw : good w) (h : Attempt.Runs A (r.refresh listing) w t o w') :
    good w' ∧ Cycle (fun c tasks => worked c (tasks.map (Errand.under (correlation (some r.account) none))))
      r listing (shown w) (batchReplies t) o (shown w') := by
  obtain ⟨t', h', hsame⟩ := runs_under h
  obtain ⟨replies, c, hleft, hcycle⟩ := refreshUnbound_cycle (hA.under _) r hw h'
  rw [hsame, hleft.answered, hleft.shows]
  exact ⟨hleft.isGood, hcycle⟩

end Roster

end Steward
