import Steward.Proofs.Roster.Freshness
import Steward.Proofs.Roster.Repose

/-!
# A cycle that is done again

On a platform that does not change its mind, a cycle that is done again over the same listing changes nothing. What was
put together has the time of its record, so it is not stale any more, and reading its health a second time comes to the
same. What was skipped is stale again, and fails again, in the same way.

So the second cycle does little work. It calls for the instances of each started application that is cached, once, as
every cycle does. Whatever else it calls for belongs to a record that was skipped.

## Contents

* `Steps.stale_read`, `Facts.reread_read` — what a cycle leaves is up to date, and reading it anew comes to the same;
* `Facts.steps`, `Facts.of_finished` — the steps of a cycle on such a platform;
* `Facts.Settled`, `Steps.settled` — what a cycle leaves; `Settled.idles`, `Settled.idleCalls_eq` — a cycle over that;
* `Roster.settled_of_refresh`, `Roster.refresh_again` — two cycles in a row.
-/

namespace Steward

/-! ## What a cycle leaves -/

namespace Steps

variable {listing : List AppRecord} {old : Contents} {mapped read : AppRecord → Option Workload} {record : AppRecord}

/-- Reading health leaves the time of an entry. -/
theorem isStale_read (h : Steps listing old mapped read) (hrecord : record ∈ listing) :
    record.isStale ((old.withMapped listing mapped).withRead listing read record.guid)
      = record.isStale (old.withMapped listing mapped record.guid) := by
  cases hw : old.withMapped listing mapped record.guid with
  | none => rw [h.read_of_none hrecord hw]
  | some w =>
    obtain ⟨state, replicas, hread⟩ := h.read_of_mapped hrecord hw
    rw [hread]
    rfl

/-- What was put together is not stale any more. -/
theorem isStale_mapped (h : Steps listing old mapped read) (hrecord : record ∈ listing) :
    record.isStale (old.withMapped listing mapped record.guid)
      = ((mapped record).isNone && record.isStale (old record.guid)) := by
  by_cases hstale : record ∈ old.stale listing
  · have hold : record.isStale (old record.guid) = true := (List.mem_filter.1 hstale).2
    rw [h.mapped_of_stale hstale, hold, Bool.and_true]
    cases hmapped : mapped record with
    | none => exact hold
    | some w =>
      rw [Option.some_or, AppRecord.isStale_some (h.maps record hstale w hmapped).2]
      simp
  · have hold : record.isStale (old record.guid) = false := by simpa [Contents.stale, hrecord] using hstale
    rw [h.mapped_of_current hrecord hstale, hold, Bool.and_false]

/-- **What is stale after a cycle** was skipped by it. -/
theorem stale_read (h : Steps listing old mapped read) :
    ((old.withMapped listing mapped).withRead listing read).stale listing
      = (old.stale listing).filter fun record => (mapped record).isNone := by
  unfold Contents.stale
  rw [List.filter_filter]
  refine List.filter_congr ?_
  intro record hrecord
  rw [h.isStale_read hrecord, h.isStale_mapped hrecord]

theorem own_read (h : Steps listing old mapped read) (hrecord : record ∈ listing) {w : Workload}
    (hw : (old.withMapped listing mapped).withRead listing read record.guid = some w) : w.id = record.guid := by
  rw [h.read_of_listed hrecord] at hw
  rcases Option.or_eq_some_iff.1 hw with hread | ⟨-, hmapped⟩
  · exact h.read_own hrecord hread
  · exact h.mapped_own hrecord hmapped

/-- It can still be told whether records are stale. -/
theorem tells_read (h : Steps listing old mapped read) (htells : (old.withMapped listing mapped).Tells listing) :
    ((old.withMapped listing mapped).withRead listing read).Tells listing := by
  intro record hrecord x f hx
  have hsome := h.isSome_read hrecord
  rw [hx] at hsome
  obtain ⟨w, hw⟩ := Option.isSome_iff_exists.1 hsome.symm
  exact htells record hrecord w f hw

end Steps

namespace Facts

variable {facts : Facts} {listing : List AppRecord} {old : Contents} {m : Mapper} {record : AppRecord}

/-- Reading health comes to what it has to come to. -/
theorem evaluates_reread (facts : Facts) (c : Contents) (record : AppRecord) :
    record.Evaluates (c record.guid) (facts.reread c record) := by
  have hreply : ∀ r, (Errand.showing c).replies r (facts.errand c r) := by
    intro r
    cases r with
    | inquiry r => trivial
    | lookup key => rfl
  have hevaluates := (Roster.evaluates_evaluateTask record).eval hreply
  rw [eval_evaluateTask] at hevaluates
  exact hevaluates

/-- The steps of a cycle on a platform that does not change its mind. -/
theorem steps (facts : Facts) (m : Mapper) (hdistinct : (listing.map (·.guid)).Nodup)
    (hown : ∀ record ∈ listing, ∀ w, old record.guid = some w → w.id = record.guid) :
    Steps listing old (facts.remapped m) (facts.reread (old.withMapped listing (facts.remapped m))) where
  distinct := hdistinct
  own := hown
  maps := fun _ _ _ hw => remapped_eq_some hw
  evaluates := fun record _ => facts.evaluates_reread _ record

theorem reread_congr {c c' : Contents} (h : c record.guid = c' record.guid) :
    facts.reread c record = facts.reread c' record := by
  unfold reread
  rw [h]

theorem reread_of_some {c : Contents} {w : Workload} (h : c record.guid = some w) :
    facts.reread c record = (facts.evaluated w record).toOption := by
  unfold reread
  rw [h]
  rfl

/-- Run state and replicas play no part in reading health. -/
theorem evaluated_of_read (w : Workload) (state : RunState) (replicas : List Replica) (record : AppRecord) :
    facts.evaluated { w with state, replicas } record = facts.evaluated w record :=
  rfl

/-- **Reading health again** comes to the same. -/
theorem reread_read {mapped : AppRecord → Option Workload}
    (h : Steps listing old mapped (facts.reread (old.withMapped listing mapped))) (hrecord : record ∈ listing) :
    facts.reread
        ((old.withMapped listing mapped).withRead listing (facts.reread (old.withMapped listing mapped))) record
      = facts.reread (old.withMapped listing mapped) record := by
  have hentry := h.read_of_listed hrecord
  cases hread : facts.reread (old.withMapped listing mapped) record with
  | none =>
    rw [hread, Option.none_or] at hentry
    exact (reread_congr hentry).trans hread
  | some x =>
    rw [hread, Option.some_or] at hentry
    obtain ⟨w, state, replicas, hbase, -, rfl, -⟩ := h.read_eq_some hrecord hread
    rw [reread_of_some hentry, evaluated_of_read, ← reread_of_some hbase, hread]

/-- What both steps do on a platform that does not change its mind. -/
theorem overlay_remap_eq (facts : Facts) (m : Mapper) (listing : List AppRecord) (old : Contents) :
    facts.overlay listing (facts.remap m listing old) = (old.withMapped listing (facts.remapped m)).withRead listing
      (facts.reread (old.withMapped listing (facts.remapped m))) :=
  rfl

/-- What a cycle says that ends well on a platform that does not change its mind. -/
theorem of_finished {fields : List (String × Value)} {r : Roster} {new : Contents} {replies : List BatchReply}
    {done : Refresh}
    (h : Cycle (fun c tasks => facts.Worked c (tasks.map (Errand.under fields))) r listing old replies (.ok done) new) :
    old.Tells listing ∧ done.skipped = old.skippedBy listing (facts.remapped r.mapper) ∧
      done.evaluated
        = (listing.filterMap (facts.reread (old.withMapped listing (facts.remapped r.mapper)))).map (·.id) := by
  cases h with
  | finished tells mapping evaluating =>
    have hmapped := Worked.mapped_eq mapping
    have hevaluated := Worked.evaluated_eq evaluating
    rw [hmapped, List.filterMap_map, Function.id_comp] at hevaluated
    refine ⟨tells, ?_, ?_⟩
    · rw [hmapped]
      exact Roster.skippedOf_zip_map _ _
    · rw [hevaluated, List.filterMap_map, Function.id_comp]
      rfl

end Facts

/-- The batches of a cycle that ends well have ended. -/
theorem Cycle.ended {worked : Contents → List Task → BatchReply → Prop} {r : Roster} {listing : List AppRecord}
    {old new : Contents} {replies : List BatchReply} {done : Refresh}
    (h : Cycle worked r listing old replies (.ok done) new) : ∀ reply ∈ replies, BatchReply.Ended reply := by
  cases h with
  | finished tells mapping evaluating =>
    exact List.forall_mem_cons.2 ⟨⟨_, rfl⟩, List.forall_mem_singleton.2 ⟨_, rfl⟩⟩

/-! ## Settled contents -/

/-- The records of started applications that are cached. -/
def Contents.running (c : Contents) (listing : List AppRecord) : List AppRecord :=
  listing.filter fun record => (c record.guid).isSome && record.isStarted

/-- **Settled contents**: a cycle over this listing changes nothing, and says that this was skipped, and that the health
of this was read. -/
structure Facts.Settled (facts : Facts) (m : Mapper) (listing : List AppRecord) (c : Contents)
    (skipped evaluated : List String) : Prop where
  listed : ∀ key, c key ≠ none → ∃ record ∈ listing, record.guid = key
  own : ∀ record ∈ listing, ∀ w, c record.guid = some w → w.id = record.guid
  tells : c.Tells listing
  /-- What is stale cannot be put together. -/
  vain : ∀ record ∈ c.stale listing, facts.remapped m record = none
  /-- What reading health comes to is cached. -/
  read : ∀ record ∈ listing, ∀ w, facts.reread c record = some w → c record.guid = some w
  skipped_eq : (c.stale listing).map (·.guid) = skipped
  evaluated_eq : (listing.filterMap (facts.reread c)).map (·.id) = evaluated

/-- **A cycle settles** what is cached. -/
theorem Steps.settled {facts : Facts} {m : Mapper} {listing : List AppRecord} {old : Contents}
    (h : Steps listing old (facts.remapped m) (facts.reread (old.withMapped listing (facts.remapped m))))
    (htells : (old.withMapped listing (facts.remapped m)).Tells listing) :
    facts.Settled m listing ((old.withMapped listing (facts.remapped m)).withRead listing
        (facts.reread (old.withMapped listing (facts.remapped m))))
      (old.skippedBy listing (facts.remapped m))
      ((listing.filterMap (facts.reread (old.withMapped listing (facts.remapped m)))).map (·.id)) where
  listed := h.fresh.listed
  own := fun _ hrecord _ hw => h.own_read hrecord hw
  tells := h.tells_read htells
  vain := by
    intro record hrecord
    rw [h.stale_read] at hrecord
    simpa using (List.mem_filter.1 hrecord).2
  read := by
    intro record hrecord w hw
    rw [Facts.reread_read h hrecord] at hw
    rw [h.read_of_listed hrecord, hw, Option.some_or]
  skipped_eq := by
    rw [h.stale_read]
    rfl
  evaluated_eq := congrArg (List.map (·.id)) (List.filterMap_congr fun _ hrecord => Facts.reread_read h hrecord)

namespace Facts.Settled

open Keeping

variable {facts : Facts} {r : Roster} {listing : List AppRecord} {c : Contents} {skipped evaluated : List String}

/-- A cycle over settled contents changes nothing. -/
theorem idles {b : Board} (h : facts.Settled r.mapper listing b.contents skipped evaluated) :
    Idles facts b (r.refresh listing) ⟨[], [], skipped, evaluated⟩
      (Roster.idleCalls facts r listing b.contents) := by
  have hheld : ∀ key ∈ b.held.map (·.1), listing.any (·.guid = key) = true := by
    intro key hkey
    obtain ⟨e, he, rfl⟩ := List.mem_map.1 hkey
    have hcached : b.contents e.1 ≠ none := by
      intro hnone
      have habsent := List.lookup_eq_none_iff.1 hnone e he
      simp at habsent
    obtain ⟨record, hrecord, hguid⟩ := h.listed e.1 hcached
    exact List.any_eq_true.2 ⟨record, hrecord, by simpa using hguid⟩
  have hread : ∀ record ∈ listing, ∀ w, facts.reread b.contents record = some w → b.contents w.id = some w := by
    intro record hrecord w hw
    have hcached := h.read record hrecord w hw
    rw [h.own record hrecord w hcached, hcached]
  have hidles := Roster.idles_refresh r hheld h.tells h.vain hread
  rw [h.skipped_eq, h.evaluated_eq] at hidles
  exact hidles

/-- **To read health again** takes one call for each started application that is cached. -/
theorem evaluating_eq (hown : ∀ record ∈ listing, ∀ w, c record.guid = some w → w.id = record.guid) :
    (listing.flatMap fun record => facts.callsOf c (Roster.evaluateTask record))
      = (c.running listing).map (Call.instances ·.guid) := by
  unfold Contents.running
  induction listing with
  | nil => rfl
  | cons record rest ih =>
    obtain ⟨hfirst, hrest⟩ := List.forall_mem_cons.1 hown
    rw [List.flatMap_cons, ih hrest, callsOf_evaluateTask]
    cases hfound : c record.guid with
    | none => simp [hfound]
    | some w =>
      have hid : w.id = record.guid := hfirst w hfound
      cases hstarted : record.isStarted with
      | false => simp [hfound, hstarted, calls_evaluate]
      | true => simp [hfound, hstarted, calls_evaluate, hid]

/-- **What a cycle calls for that changes nothing**: reads that belong to what was skipped, and the instances of what is
cached and started. -/
theorem idleCalls_eq (h : facts.Settled r.mapper listing c skipped evaluated) :
    ∃ retried,
      Roster.idleCalls facts r listing c = retried ++ (c.running listing).map (Call.instances ·.guid) ∧
      ∀ call ∈ retried, ∃ record ∈ listing, record.guid ∈ skipped ∧ call ∈ record.reads := by
  refine ⟨_, congrArg (_ ++ ·) (evaluating_eq h.own), ?_⟩
  intro call hcall
  obtain ⟨record, hrecord, hmap⟩ := List.mem_flatMap.1 hcall
  refine ⟨record, (List.mem_filter.1 hrecord).1, ?_, ?_⟩
  · rw [← h.skipped_eq]
    exact List.mem_map_of_mem hrecord
  · rcases facts.mem_calls_map hmap with hreads | hsome
    · exact hreads
    · -- nothing more is called for, since the record cannot be put together
      rw [h.vain record hrecord] at hsome
      cases hsome

end Facts.Settled

/-! ## Two cycles in a row -/

namespace Roster

variable {τ σ : Type} [Sub τ] [LE τ] [DecidableLE τ] {platform : Handler Inquiry σ} {facts : Facts}

/-- **A cycle that ends well** leaves settled contents and a workshop at rest. -/
theorem settled_of_refresh (hfacts : facts.Govern platform) {r : Roster} {listing : List AppRecord}
    (hdistinct : (listing.map (·.guid)).Nodup) {s : Session τ σ} (hs : s.Calm)
    (hown : ∀ record ∈ listing, ∀ x, s.contents record.guid = some x → x.id = record.guid)
    {t : List (Exchange Keeping)} {done : Refresh} {w : Workshop τ σ}
    (h : Attempt.Runs (Workshop.Answers platform) (r.refresh listing) ⟨s, []⟩ t (.ok done) w) :
    w.Rests w.board ∧ facts.Settled r.mapper listing w.contents done.skipped done.evaluated := by
  have hcalm : (⟨s, []⟩ : Workshop τ σ).Calm := hs
  obtain ⟨-, hcycle⟩ := refresh_cycle (Workshop.keeps_of_govern hfacts) r hcalm.lasting h
  obtain ⟨htells, hskipped, hevaluated⟩ := Facts.of_finished hcycle
  have hrests : w.Rests w.board :=
    ⟨(Workshop.run_consult hfacts h hcalm).2, Workshop.stray_of_runs h rfl hcycle.ended, rfl⟩
  have hsettled := (facts.steps r.mapper hdistinct hown).settled (Facts.tells_remap htells hdistinct)
  refine ⟨hrests, ?_⟩
  rw [contents_of_refresh hfacts hcalm.lasting h, Facts.overlay_remap_eq, hskipped, hevaluated]
  exact hsettled

/-- **To do a cycle again changes nothing, and takes no needless work**, on a platform that does not change its mind and
as long as nothing expires, if every entry of a listed application is stored under its own identifier. With a pool that
takes everything, it ends well. If it ends well, the cache holds what it held; nothing was evicted or put together, the
same was skipped, and the health of the same was read. It has called for the instances of each started application that
is cached, once; and what else it has called for belongs to a record that was skipped. -/
theorem refresh_again (hfacts : facts.Govern platform) (r : Roster) {listing : List AppRecord}
    (hdistinct : (listing.map (·.guid)).Nodup) {s : Session τ (σ × List Call)} (hs : s.Calm)
    (hown : ∀ record ∈ listing, ∀ x, s.contents record.guid = some x → x.id = record.guid)
    {t₁ : List (Exchange Keeping)} {done₁ : Refresh} {w₁ : Workshop τ (σ × List Call)}
    (h₁ : Attempt.Runs (Workshop.Answers platform.logging) (r.refresh listing) ⟨s, []⟩ t₁ (.ok done₁) w₁) :
    (w₁.Working →
      (∃ t₂ o₂ w₂, Attempt.Runs (Workshop.Answers platform.logging) (r.refresh listing) w₁ t₂ o₂ w₂) ∧
      ∀ t₂ o₂ w₂, Attempt.Runs (Workshop.Answers platform.logging) (r.refresh listing) w₁ t₂ o₂ w₂ →
        ∃ done₂, o₂ = .ok done₂) ∧
    ∀ t₂ done₂ w₂, Attempt.Runs (Workshop.Answers platform.logging) (r.refresh listing) w₁ t₂ (.ok done₂) w₂ →
      w₂.session.cache.held = w₁.session.cache.held ∧ w₂.contents = w₁.contents ∧
      done₂ = ⟨[], [], done₁.skipped, done₁.evaluated⟩ ∧
      ∃ retried,
        w₂.session.log.Perm
          (w₁.session.log ++ (retried ++ (w₁.contents.running listing).map (Call.instances ·.guid))) ∧
        ∀ call ∈ retried, ∃ record ∈ listing, record.guid ∈ done₁.skipped ∧ call ∈ record.reads := by
  obtain ⟨hrests, hsettled⟩ := settled_of_refresh hfacts.logging hdistinct hs hown h₁
  refine ⟨?_, ?_⟩
  · intro hworking
    obtain ⟨t₂, left, h₂⟩ :=
      Workshop.runs_of_run platform.logging (r.refresh listing).outcome w₁.session w₁.stray
    refine ⟨⟨t₂, _, _, h₂⟩, ?_⟩
    intro t₂ o₂ w₂ h₂
    exact refresh_working hfacts.logging hrests.calm.lasting hworking hsettled.tells h₂
  · intro t₂ done₂ w₂ h₂
    -- the second cycle ends its batches, so it does what its program does at rest
    have hended := (refresh_cycle (Workshop.keeps platform.logging) r hrests.calm.lasting h₂).2.ended
    have hcontents := hrests.contents_eq
    rw [hcontents] at hsettled
    obtain ⟨hresult, hrests₂, hlog⟩ := hrests.run hfacts h₂ hsettled.idles.allowed hended
    obtain ⟨retried, hcalls, hretried⟩ := hsettled.idleCalls_eq
    have htotal : w₂.session.log.Perm (w₁.session.log ++ idleCalls facts r listing w₁.board.contents) := by
      rw [← hsettled.idles.total]
      exact hlog
    rw [hcalls, ← hcontents] at htotal
    exact ⟨Board.held_of_willing hrests₂.board, hrests₂.contents_eq.trans hcontents.symm,
      Except.ok.inj (hresult.trans hsettled.idles.result), retried, htotal, hretried⟩

/-- A platform on which the process of one application cannot be read. -/
def stubborn : Facts where
  call
    | .process id => if id = "app-2" then .error .cancelled else .ok none
    | .instances _ => .ok (some (.ofList [("0", ⟨"RUNNING", 5, none, none⟩)]))
    | _ => .error .cancelled
  clock := .whole 100

/-- A session that knows of nothing, on a platform that was not called for anything. -/
def quietSession : Session Nat (Unit × List Call) :=
  ⟨⟨none, none, []⟩, 0, ⟨"acct", false⟩, .empty, .whole 0, .working, ((), [])⟩

/-- Two cycles over two applications, one of which cannot be put together. -/
theorem refresh_again_stubborn :
    ∃ t₁ w₁ t₂ w₂ retried,
      Attempt.Runs (Workshop.Answers stubborn.platform.logging) (bare.refresh webApps) ⟨quietSession, []⟩ t₁
        (.ok ⟨[], ["app-1"], ["app-2"], ["app-1"]⟩) w₁ ∧
      Attempt.Runs (Workshop.Answers stubborn.platform.logging) (bare.refresh webApps) w₁ t₂
        (.ok ⟨[], [], ["app-2"], ["app-1"]⟩) w₂ ∧
      w₂.session.cache.held = w₁.session.cache.held ∧
      w₂.session.log.Perm (w₁.session.log ++ (retried ++ [.instances "app-1"])) := by
  have hcalm : quietSession.Calm := Cache.calm_of_never rfl rfl _
  have hown : ∀ record ∈ webApps, ∀ x, quietSession.contents record.guid = some x → x.id = record.guid := by
    intro record _ x hx
    cases hx
  have hdone : ((bare.refresh webApps).run (Session.answer stubborn.platform.logging) quietSession).1.toOption
      = some ⟨[], ["app-1"], ["app-2"], ["app-1"]⟩ := by
    decide +kernel
  obtain ⟨t₁, left, h₁⟩ := Workshop.runs_of_toOption stubborn.platform.logging (bare.refresh webApps) quietSession []
    hdone
  obtain ⟨ended, hended⟩ : ∃ ended, ended
      = (bare.refresh webApps).run (Session.answer stubborn.platform.logging) quietSession := ⟨_, rfl⟩
  have hpool : ended.2.pool.refusal.isNone = true := by
    rw [hended]
    decide +kernel
  have hrunning : (Contents.running ended.2.contents webApps).map (·.guid) = ["app-1"] := by
    rw [hended]
    decide +kernel
  rw [← hended] at h₁
  obtain ⟨hreturns, hagain⟩ := refresh_again (Facts.govern_platform stubborn) bare (by decide) hcalm hown h₁
  obtain ⟨⟨t₂, o₂, w₂, h₂⟩, hends⟩ := hreturns (Option.isNone_iff_eq_none.1 hpool)
  obtain ⟨done₂, rfl⟩ := hends _ _ _ h₂
  obtain ⟨hheld, -, rfl, retried, hlog, -⟩ := hagain _ _ _ h₂
  have hinstances : (Contents.running ended.2.contents webApps).map (Call.instances ·.guid) = [.instances "app-1"] := by
    have hcalls := congrArg (List.map Call.instances) hrunning
    rw [List.map_map] at hcalls
    exact hcalls
  rw [hinstances] at hlog
  exact ⟨t₁, _, t₂, w₂, retried, h₁, h₂, hheld, hlog⟩

/-- An entry that a lookup has left under another name makes every cycle store what the next one evicts. -/
theorem refresh_again_of_alias :
    ∃ t₁ done₁ w₁ t₂ done₂ w₂, (⟨aliasSession, []⟩ : Workshop Nat Unit).Calm ∧
      Attempt.Runs (Workshop.Answers (Facts.alone (webApp "app-1" "STARTED")).platform)
        (bare.refresh [webApp "alias" "STOPPED"]) ⟨aliasSession, []⟩ t₁ (.ok done₁) w₁ ∧
      Attempt.Runs (Workshop.Answers (Facts.alone (webApp "app-1" "STARTED")).platform)
        (bare.refresh [webApp "alias" "STOPPED"]) w₁ t₂ (.ok done₂) w₂ ∧
      done₂.evicted = ["app-1"] := by
  obtain ⟨t₁, left, h₁⟩ := Workshop.runs_of_toOption (Facts.alone (webApp "app-1" "STARTED")).platform
    (bare.refresh [webApp "alias" "STOPPED"]) aliasSession [] run_aliasSession
  obtain ⟨ended, hended⟩ : ∃ ended, ended = (bare.refresh [webApp "alias" "STOPPED"]).run
      (Session.answer (Facts.alone (webApp "app-1" "STARTED")).platform) aliasSession := ⟨_, rfl⟩
  have hagain : ((bare.refresh [webApp "alias" "STOPPED"]).run
      (Session.answer (Facts.alone (webApp "app-1" "STARTED")).platform) ended.2).1.toOption
      = some ⟨["app-1"], [], [], ["app-1"]⟩ := by
    rw [hended]
    decide +kernel
  rw [← hended] at h₁
  obtain ⟨t₂, left', h₂⟩ := Workshop.runs_of_toOption (Facts.alone (webApp "app-1" "STARTED")).platform
    (bare.refresh [webApp "alias" "STOPPED"]) ended.2 left hagain
  exact ⟨t₁, _, _, t₂, _, _, calm_aliasSession, h₁, h₂, rfl⟩

end Roster

end Steward
