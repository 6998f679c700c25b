import Mathlib.Data.List.Induction
import Steward.Proofs.Roster.Cycle
import Steward.Proofs.Roster.Faithful
import Steward.Roster.Lookup

/-!
# A cycle reconciles each workload on its own

A cycle works on the whole listing in two batches, and stores what came of them in the order of the listing. If
the platform does not change its mind, the entry of an application nevertheless depends on that application's
records alone: `Facts.settled` is a function of the old entry and of the records with that identifier.

## Contents

* `Contents.putAll_apply` — what is stored last under a key is shown;
* `Facts.remap`, `Facts.overlay` — what the two steps of a cycle do to the contents;
* `Facts.base`, `Facts.settled` — the entry of one application, after either step;
* `Roster.refresh_settles` — a cycle that ends well leaves exactly these entries.
-/

namespace Steward

/-! ## Storing one after the other -/

/-- **What is stored last under a key is shown**, or what was there before. -/
theorem Contents.putAll_apply (c : Contents) (ws : List Workload) (key : String) :
    c.putAll ws key = ((ws.filter (·.id = key)).getLast?).or (c key) := by
  unfold putAll
  induction ws generalizing c with
  | nil => rfl
  | cons w rest ih =>
    rw [List.foldl_cons, ih]
    by_cases h : w.id = key
    · have hput : c.put w.id w key = some w := by
        unfold put
        rw [if_pos h.symm]
      rw [List.filter_cons_of_pos (by simpa using h), hput, List.getLast?_cons]
      cases (rest.filter (·.id = key)).getLast? with
      | none => rfl
      | some x => rfl
    · have hput : c.put w.id w key = c key := by
        unfold put
        rw [if_neg (Ne.symm h)]
      rw [List.filter_cons_of_neg (by simpa using h), hput]

/-! ## The two steps -/

namespace Facts

variable (facts : Facts)

/-- The contents with stale workloads put together again. -/
def remap (m : Mapper) (listing : List AppRecord) (old : Contents) : Contents :=
  (old.within listing).putAll ((old.stale listing).filterMap (facts.remapped m))

/-- The contents with the health of every listed workload read anew. -/
def overlay (listing : List AppRecord) (c : Contents) : Contents :=
  c.putAll (listing.filterMap fun record => (c record.guid).bind fun w => (facts.evaluated w record).toOption)

variable {facts}

/-- If all tasks ended, each came to what the facts and the contents say. -/
theorem Worked.results_eq {c : Contents} {tasks : List Task} {results : List (Option Workload)}
    (h : facts.Worked c tasks (.ok (results.map .ok))) : results = tasks.map (·.eval (facts.errand c)) := by
  have hall := h _ rfl
  rw [List.forall₂_map_right_iff] at hall
  clear h
  induction hall with
  | nil => rfl
  | cons hfirst _ ih => rw [List.map_cons, ← ih, hfirst _ rfl]

variable {fields : List (String × Value)}

theorem Worked.mapped_eq {r : Roster} {c : Contents} {stale : List AppRecord} {mapped : List (Option Workload)}
    (h : facts.Worked c ((stale.map r.remapTask).map (Errand.under fields)) (.ok (mapped.map .ok))) :
    mapped = stale.map (facts.remapped r.mapper) := by
  rw [h.results_eq, List.map_map, List.map_map]
  apply List.map_congr_left
  intro record _
  simp only [Function.comp_apply, eval_under, eval_remapTask]

theorem Worked.evaluated_eq {c : Contents} {listing : List AppRecord} {evaluated : List (Option Workload)}
    (h : facts.Worked c ((listing.map Roster.evaluateTask).map (Errand.under fields)) (.ok (evaluated.map .ok))) :
    evaluated = listing.map fun record => (c record.guid).bind fun w => (facts.evaluated w record).toOption := by
  rw [h.results_eq, List.map_map, List.map_map]
  apply List.map_congr_left
  intro record _
  simp only [Function.comp_apply, eval_under, eval_evaluateTask]

/-- **A cycle that ends well** does its two steps to the contents. -/
theorem contents_of_finished {r : Roster} {listing : List AppRecord} {old new : Contents}
    {replies : List BatchReply} {done : Refresh}
    (h : Cycle (fun c tasks => facts.Worked c (tasks.map (Errand.under fields))) r listing old replies (.ok done)
      new) : new = facts.overlay listing (facts.remap r.mapper listing old) := by
  cases h with
  | finished _ mapping evaluating =>
    have hmapped := Worked.mapped_eq mapping
    have hevaluated := Worked.evaluated_eq evaluating
    rw [hmapped, List.filterMap_map, Function.id_comp] at hevaluated ⊢
    rw [hevaluated, List.filterMap_map, Function.id_comp]
    rfl

end Facts

/-! ## One application -/

/-- The entries of listed applications carry a key as their identifier if they stand under it, and only then. -/
def Contents.Own (c : Contents) (listing : List AppRecord) (key : String) : Prop :=
  ∀ record ∈ listing, ∀ w, c record.guid = some w → (w.id = key ↔ record.guid = key)

/-- The run state of a record can be read. -/
def AppRecord.hasState (record : AppRecord) : Bool :=
  (RunState.parse record.state).isOk

namespace Facts

variable (facts : Facts)

/-- What is known of an application with these records before its health is read: the mapping of the last of its
stale records that maps to a workload, or its old entry. -/
def base (m : Mapper) (old : Option Workload) (records : List AppRecord) : Option Workload :=
  (((records.filter (·.isStale old)).filterMap (facts.remapped m)).getLast?).or old

/-- The entry of an application with these records after a cycle: what is known of it, evaluated by the last of its
records whose run state can be read. -/
def settled (m : Mapper) (old : Option Workload) (records : List AppRecord) : Option Workload :=
  (facts.base m old records).bind fun w =>
    match (records.filter (·.hasState)).getLast? with
    | none => some w
    | some record => (facts.evaluated w record).toOption

variable {facts}

theorem mapped_of_remapped {m : Mapper} {record : AppRecord} {w : Workload} (h : facts.remapped m record = some w) :
    facts.mapped m record = .ok (some w) := by
  unfold remapped at h
  cases hmapped : facts.mapped m record with
  | error f => rw [hmapped] at h; cases h
  | ok w' =>
    rw [hmapped] at h
    exact congrArg Except.ok h

theorem remapped_eq_some {m : Mapper} {record : AppRecord} {w : Workload} (h : facts.remapped m record = some w) :
    w.id = record.guid ∧ record.updatedMillis = .ok w.updatedTime :=
  mapped_eq_some (mapped_of_remapped h)

/-- A workload can be evaluated by a record if the run state of the record can be read, and only then. -/
theorem evaluated_toOption_isSome (facts : Facts) (w : Workload) (record : AppRecord) :
    ((facts.evaluated w record).toOption).isSome = record.hasState := by
  unfold AppRecord.hasState
  cases hstate : RunState.parse record.state with
  | ok state =>
    rw [evaluated_eq facts w hstate]
    rfl
  | error f =>
    rw [evaluated_eq_error facts w hstate]
    rfl

theorem evaluated_id {w x : Workload} {record : AppRecord} (h : (facts.evaluated w record).toOption = some x) :
    x.id = w.id := by
  cases hstate : RunState.parse record.state with
  | ok state =>
    rw [evaluated_eq facts w hstate] at h
    cases h
    rfl
  | error f =>
    rw [evaluated_eq_error facts w hstate] at h
    cases h

/-! ## What is shown under a key -/

/-- Results with some property come from the elements with a corresponding one. -/
theorem filter_filterMap_comm {α β : Type} {f : α → Option β} {p : β → Bool} {q : α → Bool} {l : List α}
    (h : ∀ a ∈ l, ∀ b, f a = some b → p b = q a) : (l.filterMap f).filter p = (l.filter q).filterMap f := by
  rw [List.filter_filterMap, List.filterMap_filter]
  apply List.filterMap_congr
  intro a ha
  cases hf : f a with
  | none => simp
  | some b =>
    have hpq := h a ha b hf
    cases hq : q a with
    | true => simp [Option.filter, hpq, hq]
    | false => simp [Option.filter, hpq, hq]

/-- The last result is that of the last element that has one. -/
theorem getLast?_filterMap_eq {α β : Type} (f : α → Option β) (l : List α) :
    (l.filterMap f).getLast? = ((l.filter fun a => (f a).isSome).getLast?).bind f := by
  induction l using List.reverseRecOn with
  | nil => rfl
  | append_singleton l a ih =>
    rw [List.filterMap_append, List.filter_append]
    cases hf : f a with
    | none => simp [hf, ih]
    | some b => simp [hf]

/-- An application has an entry if anything is known of it. -/
theorem settled_eq_none {m : Mapper} {old : Option Workload} {records : List AppRecord} :
    facts.settled m old records = none ↔ facts.base m old records = none := by
  unfold settled
  cases facts.base m old records with
  | none => exact iff_of_true rfl rfl
  | some w =>
    refine iff_of_false ?_ (by simp)
    rw [Option.bind_some]
    cases hlast : (records.filter (·.hasState)).getLast? with
    | none => simp
    | some record =>
      have hstate := (List.mem_filter.1 (List.mem_of_getLast? hlast)).2
      rw [← evaluated_toOption_isSome facts w record] at hstate
      dsimp only
      rw [Option.eq_none_iff_forall_ne_some]
      obtain ⟨x, hx⟩ := Option.isSome_iff_exists.1 hstate
      exact fun hnone => hnone x hx

theorem remap_apply (m : Mapper) (listing : List AppRecord) (old : Contents) (key : String) :
    facts.remap m listing old key
      = if listing.any (·.guid = key) then facts.base m (old key) (listing.filter (·.guid = key)) else none := by
  unfold remap
  rw [Contents.putAll_apply]
  -- a workload that was put together has the identifier of its record, so the filter goes to the records
  have hown : ((old.stale listing).filterMap (facts.remapped m)).filter (·.id = key)
      = ((listing.filter (·.guid = key)).filter (·.isStale (old key))).filterMap (facts.remapped m) := by
    have hids : ∀ record ∈ old.stale listing, ∀ w, facts.remapped m record = some w →
        decide (w.id = key) = decide (record.guid = key) := by
      intro record _ w hw
      rw [(remapped_eq_some hw).1]
    rw [filter_filterMap_comm hids]
    congr 1
    unfold Contents.stale
    rw [List.filter_filter, List.filter_filter]
    apply List.filter_congr
    intro record _
    by_cases hguid : record.guid = key
    · subst hguid
      exact Bool.and_comm _ _
    · simp [hguid]
  rw [hown]
  unfold Contents.within base
  by_cases hlisted : listing.any (·.guid = key) = true
  · rw [if_pos hlisted, if_pos hlisted]
  · have hnone : listing.filter (·.guid = key) = [] := by
      rw [List.filter_eq_nil_iff]
      intro record hrecord hguid
      exact hlisted (List.any_eq_true.2 ⟨record, hrecord, hguid⟩)
    rw [if_neg hlisted, if_neg hlisted, hnone]
    rfl

theorem overlay_apply {listing : List AppRecord} {c : Contents} {key : String} (hown : c.Own listing key) :
    facts.overlay listing c key = (c key).bind fun w =>
      match ((listing.filter (·.guid = key)).filter (·.hasState)).getLast? with
      | none => some w
      | some record => (facts.evaluated w record).toOption := by
  unfold overlay
  rw [Contents.putAll_apply]
  have hids : ∀ record ∈ listing, ∀ x,
      ((c record.guid).bind fun w => (facts.evaluated w record).toOption) = some x →
        decide (x.id = key) = decide (record.guid = key) := by
    intro record hrecord x hx
    obtain ⟨w, hw, hx⟩ := Option.bind_eq_some_iff.1 hx
    rw [evaluated_id hx]
    exact decide_eq_decide.2 (hown record hrecord w hw)
  rw [filter_filterMap_comm hids]
  have hkey : (listing.filter (·.guid = key)).filterMap
        (fun record => (c record.guid).bind fun w => (facts.evaluated w record).toOption)
      = (listing.filter (·.guid = key)).filterMap
        (fun record => (c key).bind fun w => (facts.evaluated w record).toOption) := by
    apply List.filterMap_congr
    intro record hrecord
    have hguid : record.guid = key := by simpa using (List.mem_filter.1 hrecord).2
    rw [hguid]
  rw [hkey]
  cases c key with
  | none => simp
  | some w =>
    rw [getLast?_filterMap_eq]
    simp only [Option.bind_some, evaluated_toOption_isSome]
    cases hlast : ((listing.filter (·.guid = key)).filter (·.hasState)).getLast? with
    | none => rfl
    | some record =>
      -- the last record with a run state has a result, which hides what was there
      have hmem := List.mem_of_getLast? hlast
      have hstate := (List.mem_filter.1 hmem).2
      rw [← evaluated_toOption_isSome facts w record] at hstate
      obtain ⟨x, hx⟩ := Option.isSome_iff_exists.1 hstate
      rw [Option.bind_some, hx]
      exact hx.symm

/-- **What a cycle leaves under a key** is settled by the records with that identifier, if it carries its own. -/
theorem overlay_remap_apply {m : Mapper} {listing : List AppRecord} {old : Contents} {key : String}
    (hown : old.Own listing key) :
    facts.overlay listing (facts.remap m listing old) key
      = if listing.any (·.guid = key) then facts.settled m (old key) (listing.filter (·.guid = key)) else none := by
  have hbase : (facts.remap m listing old).Own listing key := by
    intro record hrecord w hw
    have hlisted : listing.any (·.guid = record.guid) = true :=
      List.any_eq_true.2 ⟨record, hrecord, by simp⟩
    rw [remap_apply, if_pos hlisted] at hw
    unfold base at hw
    rcases Option.or_eq_some_iff.1 hw with hlast | ⟨-, hold⟩
    · -- a workload that was put together carries the identifier of its record
      obtain ⟨other, hother, hmapped⟩ := List.mem_filterMap.1 (List.mem_of_getLast? hlast)
      have hguid : other.guid = record.guid := by
        simpa using (List.mem_filter.1 (List.mem_filter.1 hother).1).2
      rw [(remapped_eq_some hmapped).1, hguid]
    · exact hown record hrecord w hold
  rw [overlay_apply hbase, remap_apply]
  by_cases hlisted : listing.any (·.guid = key) = true
  · rw [if_pos hlisted, if_pos hlisted]
    rfl
  · rw [if_neg hlisted, if_neg hlisted]
    rfl

end Facts

/-- Two platforms tell the same about some records. -/
def Facts.Agree (facts other : Facts) (m : Mapper) (records : List AppRecord) : Prop :=
  ∀ record ∈ records, other.mapped m record = facts.mapped m record ∧
    ∀ w, other.evaluated w record = facts.evaluated w record

/-- What settles an entry is what the platform tells about the application's own records. -/
theorem Facts.Agree.settled_eq {facts other : Facts} {m : Mapper} {records : List AppRecord}
    (h : facts.Agree other m records) (old : Option Workload) :
    other.settled m old records = facts.settled m old records := by
  have hbase : other.base m old records = facts.base m old records := by
    have hmapped : (records.filter (·.isStale old)).filterMap (other.remapped m)
        = (records.filter (·.isStale old)).filterMap (facts.remapped m) := by
      apply List.filterMap_congr
      intro record hrecord
      unfold remapped
      rw [(h record (List.mem_filter.1 hrecord).1).1]
    unfold base
    rw [hmapped]
  unfold settled
  rw [hbase]
  cases facts.base m old records with
  | none => rw [Option.bind_none, Option.bind_none]
  | some w =>
    rw [Option.bind_some, Option.bind_some]
    cases hlast : (records.filter (·.hasState)).getLast? with
    | none => rfl
    | some record =>
      -- the record that evaluates is one of those on which both agree
      have hrecord := (List.mem_filter.1 (List.mem_of_getLast? hlast)).1
      dsimp only
      rw [(h record hrecord).2 w]

/-! ## Cycles that end well -/

namespace Roster

variable {τ σ : Type} [Sub τ] [LE τ] [DecidableLE τ] {platform : Handler Inquiry σ} {facts : Facts}

/-- What a cycle that ends well leaves. -/
theorem contents_of_refresh (hfacts : facts.Govern platform) {r : Roster} {listing : List AppRecord}
    {w w' : Workshop τ σ} {t : List (Exchange Keeping)} {done : Refresh} (hw : w.Lasting)
    (h : Attempt.Runs (Workshop.Answers platform) (r.refresh listing) w t (.ok done) w') :
    w'.contents = facts.overlay listing (facts.remap r.mapper listing w.contents) := by
  obtain ⟨-, hcycle⟩ := refresh_cycle (Workshop.keeps_of_govern hfacts) r hw h
  exact Facts.contents_of_finished hcycle

/-- **A cycle reconciles every application on its own.** After a cycle that ends well there is no entry under a key
that is not listed; the entry of a listed application is settled by its old entry and its records, if anything
is known of it. It would be the same on any platform that tells the same about these records, whatever else is
listed, and in whatever order workers worked. -/
theorem refresh_settles (hfacts : facts.Govern platform) (r : Roster) {listing : List AppRecord}
    {w w' : Workshop τ σ} {t : List (Exchange Keeping)} {done : Refresh} (hw : w.Lasting)
    (h : Attempt.Runs (Workshop.Answers platform) (r.refresh listing) w t (.ok done) w') {key : String}
    (hown : w.contents.Own listing key) :
    ((∀ record ∈ listing, record.guid ≠ key) → w'.contents key = none) ∧
      ((∃ record ∈ listing, record.guid = key) →
        w'.contents key = facts.settled r.mapper (w.contents key) (listing.filter (·.guid = key)) ∧
          (w'.contents key = none ↔
            facts.base r.mapper (w.contents key) (listing.filter (·.guid = key)) = none) ∧
          ∀ other, facts.Agree other r.mapper (listing.filter (·.guid = key)) →
            w'.contents key = other.settled r.mapper (w.contents key) (listing.filter (·.guid = key))) := by
  rw [contents_of_refresh hfacts hw h, Facts.overlay_remap_apply hown]
  constructor
  · intro hunlisted
    rw [if_neg]
    intro hlisted
    obtain ⟨record, hrecord, hguid⟩ := List.any_eq_true.1 hlisted
    exact hunlisted record hrecord (by simpa using hguid)
  · rintro ⟨record, hrecord, hguid⟩
    have hlisted : listing.any (·.guid = key) = true :=
      List.any_eq_true.2 ⟨record, hrecord, by simpa using hguid⟩
    rw [if_pos hlisted]
    exact ⟨rfl, Facts.settled_eq_none, fun other hagree => (hagree.settled_eq _).symm⟩

/-- An account without addresses. -/
def bare : Roster :=
  ⟨⟨"acct", none, none⟩, Names.parse, false, 2⟩

/-- A session that knows of nothing, and in which nothing expires. -/
def bareSession : Session Nat Unit :=
  ⟨⟨none, none, []⟩, 0, ⟨"acct", false⟩, .empty, .whole 0, .working, ()⟩

/-- A pool that takes so many submissions and no more. -/
def fullAfter (n : Nat) : Pool :=
  ⟨n, some (.rejects (.reported (.of .runtime (some "the pool is full") none none)))⟩

/-- An application at the start of 1970. -/
def webApp (guid state : String) : AppRecord :=
  ⟨guid, "shop-web", state, ⟨0, 0, false⟩, ⟨0, 0, false⟩, []⟩

theorem lasting_of_never {s : Session τ σ} (hwrite : s.cache.writeExpiry = none)
    (hread : s.cache.readExpiry = none) : s.cache.Lasting := by
  intro t
  rw [hwrite, hread]
  exact ⟨rfl, rfl⟩

/-- A new application that is listed twice, once in an unknown state, is cached; what is not listed is not. -/
theorem refresh_settles_new :
    ∃ t done w', Attempt.Runs (Workshop.Answers (Facts.alone (webApp "app-1" "STARTED")).platform)
        (bare.refresh [webApp "app-1" "STOPPED", webApp "app-1" "?"]) ⟨bareSession, []⟩ t (.ok done) w' ∧
      w'.contents "app-2" = none ∧ w'.contents "app-1" ≠ none := by
  have hlasting : (⟨bareSession, []⟩ : Workshop Nat Unit).Lasting := lasting_of_never rfl rfl
  have hown : ∀ key, Contents.Own (⟨bareSession, []⟩ : Workshop Nat Unit).contents
      [webApp "app-1" "STOPPED", webApp "app-1" "?"] key := by
    intro key record _ w hw
    cases hw
  obtain ⟨t, done, left, h⟩ := Workshop.runs_of_isOk (Facts.alone (webApp "app-1" "STARTED")).platform
    (bare.refresh [webApp "app-1" "STOPPED", webApp "app-1" "?"]) bareSession [] (by decide +kernel)
  refine ⟨t, done, _, h, ?_, ?_⟩
  · refine (refresh_settles (Facts.govern_platform _) bare hlasting h (hown "app-2")).1 ?_
    decide
  · obtain ⟨-, hknown, -⟩ :=
      (refresh_settles (Facts.govern_platform _) bare hlasting h (hown "app-1")).2
        ⟨_, List.mem_cons_self, rfl⟩
    rw [Ne, hknown, ← Option.isNone_iff_eq_none]
    decide +kernel

/-- The session in which somebody has looked up an application by another name than its own. -/
def aliasSession : Session Nat Unit :=
  ((bare.findById "alias").run (Session.answer (Facts.alone (webApp "app-1" "STARTED")).platform) bareSession).2

/-- An entry that a lookup has left under another name spoils a cycle: health is read anew for what is listed under
that name, and stored under the application's own name, which is not listed. -/
theorem refresh_of_alias :
    ∃ t done w', Attempt.Runs (Workshop.Answers (Facts.alone (webApp "app-1" "STARTED")).platform)
        (bare.refresh [webApp "alias" "STOPPED"]) ⟨aliasSession, []⟩ t (.ok done) w' ∧
      (∀ record ∈ [webApp "alias" "STOPPED"], record.guid ≠ "app-1") ∧ w'.contents "app-1" ≠ none ∧
      (w'.contents "alias").map (·.state) = some .started ∧
      ((Facts.alone (webApp "app-1" "STARTED")).settled bare.mapper (aliasSession.contents "alias")
        [webApp "alias" "STOPPED"]).map (·.state) = some .stopped := by
  obtain ⟨ended, hended⟩ : ∃ ended, ended = (bare.refresh [webApp "alias" "STOPPED"]).run
      (Session.answer (Facts.alone (webApp "app-1" "STARTED")).platform) aliasSession := ⟨_, rfl⟩
  have hnew : (ended.2.contents "app-1").isSome = true := by
    rw [hended]
    decide +kernel
  have hstays : (ended.2.contents "alias").map (·.state) = some .started := by
    rw [hended]
    decide +kernel
  obtain ⟨t, done, left, h⟩ := Workshop.runs_of_isOk (Facts.alone (webApp "app-1" "STARTED")).platform
    (bare.refresh [webApp "alias" "STOPPED"]) aliasSession [] (by decide +kernel)
  rw [← hended] at h
  exact ⟨t, done, _, h, by decide, Option.isSome_iff_ne_none.1 hnew, hstays, by decide +kernel⟩

end Roster

end Steward
