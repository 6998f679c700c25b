import Steward.Proofs.Grouping.Partition
import Steward.Proofs.Roster.Freshness
import Steward.Proofs.Roster.Pages

/-!
# What a view of everything shows

`Roster.all` fetches a listing, reconciles the cache with it and groups what is cached then. Nothing is lost on the way
and nothing comes twice: what the view shows are the applications that were fetched, that are cached after the cycle,
and whose names say where they belong, each once. Other applications have been dropped, and what a cycle stores it
stores under identifiers that are listed, as long as whatever was cached under such an identifier had it for its own.

## Contents

* `Session.Tidy`, `Workshop.tidy_step` — nothing expires and no key comes twice, whatever is answered;
* `Contents.Listed`, `Roster.listed_of_cycle` — after a cycle everything that is cached is listed;
* `Roster.renders_remapTask`, `Roster.named_of_cycle` — new applications have the name of their last record;
* `Roster.Viewed`, `Roster.runs_view` — a view that comes about, and the cycle before it;
* `Roster.IsPlaced`, `Viewed.shown`, `Viewed.shown_new` — what is shown then;
* `Roster.overview` — views of everything;
* `Roster.overview_of_alias` — an entry that spoils one.
-/

namespace Steward

open Attempt

variable {τ σ : Type} [Sub τ] [LE τ] [DecidableLE τ] {platform : Handler Inquiry σ}

/-! ## Tidy sessions -/

/-- Nothing expires, and no key comes twice. -/
structure Session.Tidy (s : Session τ σ) : Prop where
  calm : s.Calm
  distinct : (s.cache.held.map (·.1)).Nodup

namespace Session

variable {s s' : Session τ σ}

/-- A single request leaves a session tidy, and an inquiry or a view leaves what is held. -/
theorem Tidy.answer (h : s.Tidy) (platform : Handler Inquiry σ) {r : Keeping.Request} (hr : ∀ tasks, r ≠ .batch tasks) :
    (Session.answer platform r s).2.Tidy ∧
      (r.isWrite = false → (Session.answer platform r s).2.cache.held = s.cache.held) := by
  cases r with
  | batch tasks => exact absurd rfl (hr tasks)
  | lookup key =>
    have hheld := h.calm.held_find? key
    refine ⟨⟨h.calm.find? key, ?_⟩, fun _ => hheld⟩
    show ((s.cache.find? key s.clock).2.held.map (·.1)).Nodup
    rw [hheld]
    exact h.distinct
  | store key x =>
    refine ⟨⟨h.calm.put key x, ?_⟩, fun hwrite => nomatch hwrite⟩
    show ((s.cache.put key x s.clock).held.map (·.1)).Nodup
    rw [Cache.held_put]
    exact Keyed.nodup_put h.distinct key x
  | invalidate key =>
    refine ⟨⟨h.calm.invalidate key, ?_⟩, fun hwrite => nomatch hwrite⟩
    show ((s.cache.invalidate key).held.map (·.1)).Nodup
    rw [Cache.held_invalidate]
    exact Keyed.nodup_erase h.distinct key
  | _ => exact ⟨⟨h.calm, h.distinct⟩, fun _ => rfl⟩

end Session

namespace Workshop

variable {w w' : Workshop τ σ} {t : List (Exchange Keeping)}

/-- Workers leave a workshop tidy, and what is held. -/
theorem tidy_shift {jobs jobs' : List Job} {s s' : Session τ σ} (h : Shift platform jobs s jobs' s') (hs : s.Tidy) :
    s'.Tidy ∧ s'.cache.held = s.cache.held := by
  obtain ⟨hboard, hcalm⟩ := h.board_eq hs.calm
  have hheld : s'.cache.held = s.cache.held := congrArg Board.held hboard
  exact ⟨⟨hcalm, hheld ▸ hs.distinct⟩, hheld⟩

/-- **Whatever is answered**, a workshop stays tidy, and only writes change what is held. -/
theorem tidy_step {r : Keeping.Request} {reply : Keeping.Reply r} (hw : w.session.Tidy)
    (h : Answers platform r w reply w') :
    w'.session.Tidy ∧ (r.isWrite = false → w'.session.cache.held = w.session.cache.held) := by
  by_cases hr : ∃ tasks, r = .batch tasks
  · obtain ⟨tasks, rfl⟩ := hr
    have hpool : ∀ pool, (w.session.withPool pool).Tidy := fun pool => ⟨hw.calm, hw.distinct⟩
    cases h with
    | ended _ _ shift =>
      obtain ⟨htidy, hheld⟩ := tidy_shift shift (hpool _)
      exact ⟨htidy, fun _ => hheld⟩
    | rejected _ shift =>
      obtain ⟨htidy, hheld⟩ := tidy_shift shift (hpool _)
      exact ⟨htidy, fun _ => hheld⟩
  · have hsingle : ∀ tasks, r ≠ .batch tasks := fun tasks htasks => hr ⟨tasks, htasks⟩
    obtain ⟨m, shift, hanswer⟩ := (answers_iff hsingle).1 h
    obtain ⟨hm, hheld⟩ := tidy_shift shift hw
    obtain ⟨htidy, hsame⟩ := hm.answer platform hsingle
    rw [hanswer] at htidy hsame
    exact ⟨htidy, fun hwrite => (hsame hwrite).trans hheld⟩

theorem tidy_of_leads (h : (Answers platform).Leads w t w') (hw : w.session.Tidy) : w'.session.Tidy :=
  h.keeps (P := fun w => w.session.Tidy) (Q := fun _ => True) (fun _ hm answer => (tidy_step hm answer).1)
    (fun _ _ => trivial) hw

/-- Inquiries leave what is held. -/
theorem held_of_inquiries (h : (Answers platform).Leads w t w') (ht : ∀ e ∈ t, e.request.isInquiry = true)
    (hw : w.session.Tidy) : w'.session.Tidy ∧ w'.session.cache.held = w.session.cache.held := by
  refine h.keeps (P := fun m => m.session.Tidy ∧ m.session.cache.held = w.session.cache.held)
    (Q := fun r : Keeping.Request => r.isInquiry = true) ?_ ht ⟨hw, rfl⟩
  rintro r m reply m' hr ⟨hm, hheld⟩ answer
  obtain ⟨htidy, hsame⟩ := tidy_step hm answer
  have hwrite : r.isWrite = false := by
    cases r with
    | inquiry q => rfl
    | _ => cases hr
  exact ⟨htidy, (hsame hwrite).trans hheld⟩

/-- The values of a tidy workshop are what is held, in order. -/
theorem values_of_tidy {ws : List Workload} (hw : w.session.Tidy) (h : Answers platform .values w ws w') :
    ws = w'.session.cache.held.map (·.2) ∧ w'.session.Tidy ∧ w'.session.cache.held = w.session.cache.held := by
  obtain ⟨htidy, hsame⟩ := tidy_step hw h
  obtain ⟨m, shift, hanswer⟩ := h
  obtain ⟨hm, -⟩ := tidy_shift shift hw
  have hvalues : m.cache.values m.clock = ws := congrArg Prod.fst hanswer
  have hsession : m = w'.session := congrArg Prod.snd hanswer
  rw [hm.calm.values_eq, hsession] at hvalues
  exact ⟨hvalues.symm, htidy, hsame rfl⟩

/-- What a workshop shows is what it holds. -/
theorem contents_eq_lookup (hw : w.session.Tidy) (key : String) :
    w.contents key = w.session.cache.held.lookup key :=
  hw.calm.peek?_eq key

end Workshop

/-! ## Listed contents -/

namespace Contents

/-- Everything that is shown stands under its own identifier, which is listed. -/
def Listed (c : Contents) (listing : List AppRecord) : Prop :=
  ∀ key x, c key = some x → x.id = key ∧ ∃ record ∈ listing, record.guid = key

variable {c : Contents} {listing : List AppRecord}

/-- What is left after an eviction is listed. -/
theorem listed_within (hown : ∀ record ∈ listing, ∀ x, c record.guid = some x → x.id = record.guid) :
    (c.within listing).Listed listing := by
  intro key x hx
  unfold within at hx
  split at hx
  case isTrue hlisted =>
    obtain ⟨record, hrecord, hguid⟩ := List.any_eq_true.1 hlisted
    have hguid : record.guid = key := by simpa using hguid
    subst hguid
    exact ⟨hown record hrecord x hx, record, hrecord, rfl⟩
  case isFalse => cases hx

/-- What is stored under listed identifiers is listed. -/
theorem Listed.putAll (h : c.Listed listing) {ws : List Workload}
    (hws : ∀ x ∈ ws, ∃ record ∈ listing, record.guid = x.id) : (c.putAll ws).Listed listing := by
  intro key x hx
  rw [putAll_apply] at hx
  rcases Option.or_eq_some_iff.1 hx with hlast | ⟨-, hold⟩
  · obtain ⟨hmem, hid⟩ := List.mem_filter.1 (List.mem_of_getLast? hlast)
    have hid : x.id = key := by simpa using hid
    exact ⟨hid, hid ▸ hws x hmem⟩
  · exact h key x hold

end Contents

/-- What reading health comes to is the entry, but for its run state and its replicas. -/
theorem AppRecord.Evaluates.same {record : AppRecord} {old result : Option Workload} (h : record.Evaluates old result)
    {y : Workload} (hy : result = some y) : ∃ x, old = some x ∧ y.id = x.id ∧ y.name = x.name := by
  unfold AppRecord.Evaluates at h
  cases old with
  | none =>
    rw [hy] at h
    cases h
  | some x =>
    cases hstate : RunState.parse record.state with
    | error f =>
      rw [hstate, hy] at h
      cases h
    | ok state =>
      rw [hstate, hy] at h
      obtain ⟨replicas, heq, -⟩ := h
      cases heq
      exact ⟨x, rfl, rfl, rfl⟩

namespace Roster

open Keeping

variable {r : Roster} {fields : List (String × Value)} {listing : List AppRecord} {old new : Contents}
  {replies : List BatchReply} {done : Refresh}

/-- After the first step everything that is cached is listed. -/
theorem listed_mapped (hown : ∀ record ∈ listing, ∀ x, old record.guid = some x → x.id = record.guid)
    {mapped : List (Option Workload)}
    (hmapped : List.Forall₂ (fun record result => AppRecord.Maps record result) (old.stale listing) mapped) :
    ((old.within listing).putAll (mapped.filterMap id)).Listed listing := by
  refine (Contents.listed_within hown).putAll ?_
  intro x hx
  obtain ⟨result, hresult, heq⟩ := List.mem_filterMap.1 hx
  obtain ⟨record, hrecord, hmaps⟩ := forall₂_exists_left hmapped hresult
  exact ⟨record, (List.mem_filter.1 hrecord).1, (hmaps x heq).1.symm⟩

/-- **After a cycle everything that is cached is listed**, under its own identifier, if every entry of a listed
application was. -/
theorem listed_of_cycle (hown : ∀ record ∈ listing, ∀ x, old record.guid = some x → x.id = record.guid)
    (h : Cycle (fun c tasks => Errand.Came c (tasks.map (Errand.under fields))) r listing old replies (.ok done) new) :
    new.Listed listing := by
  cases h with
  | @finished gone mapped evaluated tells mapping evaluating =>
    have hfirst := listed_mapped hown (mapping.forall₂ r.maps_remapTask)
    refine hfirst.putAll ?_
    intro y hy
    obtain ⟨result, hresult, heq⟩ := List.mem_filterMap.1 hy
    obtain ⟨record, hrecord, hreads⟩ := forall₂_exists_left (evaluating.forall₂ evaluates_evaluateTask) hresult
    obtain ⟨x, hx, hid, -⟩ := hreads.same heq
    exact ⟨record, hrecord, (hfirst record.guid x hx).1.symm.trans hid.symm⟩

/-! ## Names -/

/-- A workload that is put together has the identifier and the name of its record. -/
theorem renders_remapTask (r : Roster) {c : Contents} (record : AppRecord) :
    (r.remapTask record).Meets (Errand.showing c) fun result =>
      ∀ x, result = some x → x.id = record.guid ∧ x.name = record.name := by
  refine r.meets_remapTask (r.mapper.meets_map_of_assembled ?_ fun _ _ _ hx => hx)
  intro found x hx
  obtain ⟨hid, hname, -, -⟩ := Facts.assemble_rendered hx
  exact ⟨hid, hname⟩

/-- If every record came to a workload, those with an identifier have the names of the records with it, in order. -/
theorem names_of_forall₂ {records : List AppRecord} {results : List (Option Workload)} (key : String)
    (h : List.Forall₂ (fun record result => ∀ x, result = some x → x.id = record.guid ∧ x.name = record.name) records
      results) (hall : ∀ result ∈ results, ∃ x, result = some x) :
    ((results.filterMap id).filter (·.id = key)).map (·.name) = (records.filter (·.guid = key)).map (·.name) := by
  induction h with
  | nil => rfl
  | @cons record result _ _ hfirst _ ih =>
    obtain ⟨⟨x, rfl⟩, hrest⟩ := List.forall_mem_cons.1 hall
    obtain ⟨hid, hname⟩ := hfirst x rfl
    have ih := ih hrest
    by_cases hkey : record.guid = key
    · simpa [hid, hkey, hname] using ih
    · simpa [hid, hkey] using ih

/-- **An application that was not cached** has the name of its last record after a cycle in which every record came to a
workload. -/
theorem named_of_cycle (hnew : ∀ key, old key = none)
    (hall : ∀ outcomes later, replies = .ok outcomes :: later → ∀ outcome ∈ outcomes, ∃ x, outcome = .ok (some x))
    (h : Cycle (fun c tasks => Errand.Came c (tasks.map (Errand.under fields))) r listing old replies (.ok done) new)
    {key : String} {record : AppRecord} (hlast : (listing.filter (·.guid = key)).getLast? = some record) :
    ∃ y, new key = some y ∧ y.name = record.name := by
  cases h with
  | @finished gone mapped evaluated tells mapping evaluating =>
    have hstale : old.stale listing = listing := by
      refine List.filter_eq_self.2 fun record _ => ?_
      rw [hnew]
      rfl
    have hmapped := mapping.forall₂ r.maps_remapTask
    have hrendered := mapping.forall₂ r.renders_remapTask
    have hsome : ∀ result ∈ mapped, ∃ x, result = some x := by
      intro result hresult
      obtain ⟨x, hx⟩ := hall _ _ rfl (.ok result) (List.mem_map.2 ⟨result, hresult, rfl⟩)
      exact ⟨x, Except.ok.inj hx⟩
    have hfirst := listed_mapped (fun record _ x hx => nomatch (hnew record.guid).symm.trans hx) hmapped
    -- the first step leaves the workload that the last record came to
    have hmapping : ∃ x, (old.within listing).putAll (mapped.filterMap id) key = some x ∧ x.name = record.name := by
      have hnames := congrArg List.getLast? (names_of_forall₂ key (hstale ▸ hrendered) hsome)
      rw [List.getLast?_map, List.getLast?_map, hlast] at hnames
      obtain ⟨x, hx, hname⟩ := Option.map_eq_some_iff.1 hnames
      refine ⟨x, ?_, hname⟩
      rw [Contents.putAll_apply, hx]
      rfl
    obtain ⟨x, hx, hname⟩ := hmapping
    rw [Contents.putAll_apply]
    cases hread : ((evaluated.filterMap id).filter (·.id = key)).getLast? with
    | none => exact ⟨x, hx, hname⟩
    | some y =>
      -- what the second step stores there is the same workload with its health
      obtain ⟨hmem, hid⟩ := List.mem_filter.1 (List.mem_of_getLast? hread)
      obtain ⟨result, hresult, heq⟩ := List.mem_filterMap.1 hmem
      obtain ⟨other, -, hreads⟩ := forall₂_exists_left (evaluating.forall₂ evaluates_evaluateTask) hresult
      obtain ⟨x', hx', hid', hname'⟩ := hreads.same heq
      have hid : y.id = key := by simpa using hid
      have hguid : other.guid = key := (hfirst other.guid x' hx').1.symm.trans (hid'.symm.trans hid)
      rw [hguid, hx] at hx'
      cases hx'
      exact ⟨y, rfl, hname'.trans hname⟩

/-! ## Views -/

/-- What makes no calls fetches nothing. -/
theorem fetched_of_calls {t : List (Exchange Keeping)} (h : Keeping.calls t = []) : fetched t = [] := by
  refine List.flatMap_eq_nil_iff.2 fun e he => ?_
  have hcall := List.filterMap_eq_nil_iff.1 h e he
  obtain ⟨request, reply⟩ := e
  cases request with
  | inquiry q =>
    cases q with
    | call c => cases hcall
    | report event => rfl
    | clock => rfl
  | _ => rfl

/-- Inquiries hand out no batches. -/
theorem batchReplies_of_inquiries {t : List (Exchange Keeping)} (h : ∀ e ∈ t, e.request.isInquiry = true) :
    batchReplies t = [] := by
  refine List.filterMap_eq_nil_iff.2 fun e he => ?_
  have hrequest := h e he
  obtain ⟨request, reply⟩ := e
  cases request with
  | inquiry q => rfl
  | _ => cases hrequest

variable {w w' : Workshop τ σ} {t : List (Exchange Keeping)} {spaces : Option (List String)}

/-- A platform that does not change its mind answers every call alike. -/
theorem answered_of_leads {facts : Facts} (hfacts : facts.Govern platform)
    (h : (Workshop.Answers platform).Leads w t w') {c : Call} {reply : Except Fault c.Answer}
    (hcalled : Called t c reply) :
    reply = facts.call c := by
  induction h with
  | nil => cases hcalled
  | cons answer _ ih =>
    rcases List.mem_cons.1 hcalled with hhead | hrest
    · cases hhead
      obtain ⟨m, -, hanswer⟩ := answer
      exact (congrArg Prod.fst hanswer).symm.trans (hfacts (.call c) m.world)
    · exact ih hrest

/-- If every call is answered alike, what is fetched is what is answered to the calls. -/
theorem fetched_eq_flatMap {facts : Facts} (h : ∀ c reply, Called t c reply → reply = facts.call c) :
    fetched t = (Keeping.calls t).flatMap fun c => recordsOf ⟨.inquiry (.call c), facts.call c⟩ := by
  induction t with
  | nil => rfl
  | cons e rest ih =>
    have hhead : fetched (e :: rest) = recordsOf e ++ fetched rest := rfl
    rw [hhead, ih fun c reply hcalled => h c reply (List.mem_cons_of_mem _ hcalled)]
    obtain ⟨request, reply⟩ := e
    cases request with
    | inquiry q =>
      cases q with
      | call c =>
        obtain rfl := h c reply List.mem_cons_self
        rfl
      | report event => rfl
      | clock => rfl
    | _ => rfl

/-- A page that has vanished was asked for, and answered with nothing. -/
theorem called_of_vanishes {e : Exchange Keeping} (he : e ∈ t) (h : Vanishes e) :
    ∃ page size names spaces, Called t (.listing page size names spaces) (.ok none) := by
  unfold Vanishes at h
  split at h
  · exact ⟨_, _, _, _, he⟩
  · exact h.elim

/-- What has become of a view that comes about: a cycle from the contents as they were, over what was fetched. The view
is one of the values that are held after it. -/
structure Viewed (r : Roster) (w w' : Workshop τ σ) (t : List (Exchange Keeping)) (views : List Application) :
    Prop where
  tidy : w'.session.Tidy
  cycle : ∃ done, Cycle (fun c tasks => Errand.Came c (tasks.map (Errand.under (correlation (some r.account) none)))) r
    (fetched t) w.contents (batchReplies t) (.ok done) w'.contents
  shows : ∀ post, (r.grouper.group (w'.session.cache.held.map (·.2))).Meets (Contract.any Inquiry) post → post views

/-- **A view that comes about** is one of what is held after a cycle over what was fetched. -/
theorem runs_view {m : Workshop τ σ} {t₁ t₂ : List (Exchange Keeping)} {views : List Application}
    (hw : w.session.Tidy) (hlisting : (Workshop.Answers platform).Leads w t₁ m)
    (hinquiries : ∀ e ∈ t₁, e.request.isInquiry = true)
    (h : Attempt.Runs (Workshop.Answers platform) (r.present (fetched t₁)) m t₂ (.ok views) w') :
    Viewed r w w' (t₁ ++ t₂) views := by
  obtain ⟨hm, hheld⟩ := Workshop.held_of_inquiries hlisting hinquiries hw
  have hcontents : m.contents = w.contents := by
    funext key
    rw [Workshop.contents_eq_lookup hm, Workshop.contents_eq_lookup hw, hheld]
  obtain ⟨hcalls, ⟨f, hfailed, -⟩ | ⟨t₃, done, m₁, ws, m₂, t₄, rfl, hrefresh, hvalues, hgroup⟩⟩ := runs_present r h
  · cases hfailed
  have hm₁ := Workshop.tidy_of_leads hrefresh.leads hm
  obtain ⟨rfl, hm₂, hheld₂⟩ := Workshop.values_of_tidy hm₁ hvalues
  have hreports := inquiries_of_runs hgroup
  obtain ⟨hw', hheld'⟩ := Workshop.held_of_inquiries hgroup.leads hreports hm₂
  have hcycle := (refresh_cycle (Workshop.keeps_showing platform) r hm.calm.lasting hrefresh).2
  have hcontents' : m₁.contents = w'.contents := by
    funext key
    rw [Workshop.contents_eq_lookup hm₁, Workshop.contents_eq_lookup hw', hheld', hheld₂]
  have hbatches : batchReplies (t₁ ++ (t₃ ++ ⟨.values, m₂.session.cache.held.map (·.2)⟩ :: t₄)) = batchReplies t₃ := by
    unfold batchReplies
    rw [List.filterMap_append, List.filterMap_append, List.filterMap_cons_none rfl]
    have hfirst : batchReplies t₁ = [] := batchReplies_of_inquiries hinquiries
    have hlast : batchReplies t₄ = [] := batchReplies_of_inquiries hreports
    unfold batchReplies at hfirst hlast
    rw [hfirst, hlast, List.nil_append, List.append_nil]
  refine ⟨hw', ⟨done, ?_⟩, fun post hpost => ?_⟩
  · rw [fetched_append, fetched_of_calls hcalls, List.append_nil, hbatches, ← hcontents, ← hcontents']
    exact hcycle
  · rw [hheld'] at hpost
    have hlifted : (inquire (r.grouper.group (m₂.session.cache.held.map (·.2)))).Meets (Contract.any Keeping) post :=
      hpost.lift fun _ _ => Program.Meets.ask trivial fun _ _ => Program.Meets.done trivial
    exact hlifted.of_runs hgroup

/-- Whether a name says where its application belongs, by the convention for names. -/
def IsPlaced (r : Roster) (name : String) : Prop :=
  ∃ names, Names.parse name = .ok names ∧ names.counts r.onlyManaged = true

theorem places_iff (hnaming : r.naming = Names.parse) (x : Workload) :
    r.grouper.places x = true ↔ r.IsPlaced x.name := by
  have hsame : r.grouper.naming = Names.parse := hnaming
  unfold Grouper.places IsPlaced
  rw [hsame]
  cases Names.parse x.name with
  | ok names => simp [grouper]
  | error f => simp

namespace Viewed

variable {views : List Application}

/-- What is held stands under its own identifier. -/
theorem held_own (h : Viewed r w w' t views)
    (hown : ∀ record ∈ fetched t, ∀ x, w.contents record.guid = some x → x.id = record.guid) {e : String × Workload}
    (he : e ∈ w'.session.cache.held) : e.2.id = e.1 := by
  obtain ⟨done, hcycle⟩ := h.cycle
  refine (listed_of_cycle hown hcycle e.1 e.2 ?_).1
  rw [Workshop.contents_eq_lookup h.tidy]
  exact (Keyed.mem_iff_lookup h.tidy.distinct e.1 e.2).1 he

/-- **A view shows each application once**, and those that were fetched, are cached, and have a place. -/
theorem shown (hnaming : r.naming = Names.parse) (h : Viewed r w w' t views)
    (hown : ∀ record ∈ fetched t, ∀ x, w.contents record.guid = some x → x.id = record.guid) :
    ((shownIn views).map (·.id)).Nodup ∧ ∀ id, id ∈ (shownIn views).map (·.id) ↔
      (∃ record ∈ fetched t, record.guid = id) ∧ ∃ x, w'.contents id = some x ∧ r.IsPlaced x.name := by
  have hids : (w'.session.cache.held.map (·.2)).map (·.id) = w'.session.cache.held.map (·.1) := by
    rw [List.map_map]
    exact List.map_congr_left fun e he => h.held_own hown he
  have hnodup : ((w'.session.cache.held.map (·.2)).map (·.id)).Nodup := hids ▸ h.tidy.distinct
  have hgrouper : r.grouper.naming = Names.parse := hnaming
  have hperm := h.shows _ (Grouper.shown_group hgrouper hnodup)
  refine ⟨((hperm.map (·.id)).nodup_iff).2 (hnodup.sublist (List.filter_sublist.map _)), fun id => ?_⟩
  rw [(hperm.map (·.id)).mem_iff, List.mem_map]
  constructor
  · rintro ⟨x, hx, rfl⟩
    obtain ⟨hmem, hplaces⟩ := List.mem_filter.1 hx
    obtain ⟨⟨key, x⟩, he, rfl⟩ := List.mem_map.1 hmem
    have hkey : x.id = key := h.held_own hown he
    have hcached : w'.contents x.id = some x := by
      rw [Workshop.contents_eq_lookup h.tidy]
      exact (Keyed.mem_iff_lookup h.tidy.distinct x.id x).1 (hkey ▸ he)
    obtain ⟨done, hcycle⟩ := h.cycle
    exact ⟨(listed_of_cycle hown hcycle x.id x hcached).2, x, hcached, (places_iff hnaming x).1 hplaces⟩
  · rintro ⟨-, x, hx, hplaced⟩
    obtain ⟨done, hcycle⟩ := h.cycle
    obtain ⟨hid, -⟩ := listed_of_cycle hown hcycle id x hx
    rw [Workshop.contents_eq_lookup h.tidy] at hx
    have hheld := (Keyed.mem_iff_lookup h.tidy.distinct id x).2 hx
    exact ⟨x, List.mem_filter.2 ⟨List.mem_map.2 ⟨(id, x), hheld, rfl⟩, (places_iff hnaming x).2 hplaced⟩, hid⟩

/-- **What is new is shown** if the name on its last record has a place and every record came to a workload. -/
theorem shown_new (hnaming : r.naming = Names.parse) (h : Viewed r w w' t views) (hnew : ∀ key, w.contents key = none)
    (hall : ∀ outcomes later, batchReplies t = .ok outcomes :: later →
      ∀ outcome ∈ outcomes, ∃ x, outcome = .ok (some x))
    {id : String} {record : AppRecord} (hlast : ((fetched t).filter (·.guid = id)).getLast? = some record)
    (hplaced : r.IsPlaced record.name) : id ∈ (shownIn views).map (·.id) := by
  obtain ⟨done, hcycle⟩ := h.cycle
  obtain ⟨x, hx, hname⟩ := named_of_cycle hnew hall hcycle hlast
  obtain ⟨hrecord, hguid⟩ := List.mem_filter.1 (List.mem_of_getLast? hlast)
  obtain ⟨-, hshown⟩ := h.shown hnaming fun record _ x hx => nomatch (hnew record.guid).symm.trans hx
  exact (hshown id).2 ⟨⟨record, hrecord, by simpa using hguid⟩, x, hx, hname ▸ hplaced⟩

end Viewed

/-- **A view of everything shows the listing as it was reconciled.**

If it comes about and no page had vanished, the calls were for all pages that the first one told of. It shows the
applications that were fetched, that are cached then, and whose names have a place, each once, as long as whatever was
cached under a listed identifier had it for its own. If nothing was cached and every record came to a workload, all
those are shown whose last record has a name with a place.

A page that cannot be had is the outcome, and what is held stays. -/
theorem overview (r : Roster) (hnaming : r.naming = Names.parse) (platform : Handler Inquiry σ)
    (spaces : Option (List String)) {w w' : Workshop τ σ} {t : List (Exchange Keeping)}
    {o : Except Fault (List Application)} (hw : w.session.Tidy)
    (h : Attempt.Runs (Workshop.Answers platform) (r.all spaces) w t o w') :
    (∀ views, o = .ok views →
      ((∀ e ∈ t, ¬ Vanishes e) → ∃ first, Called t (r.pageCall spaces 1) (.ok (some first)) ∧
        Keeping.calls t = r.pageCalls spaces ((first.totalPages - 1).toNat + 1) 1) ∧
      ((∀ record ∈ fetched t, ∀ x, w.contents record.guid = some x → x.id = record.guid) →
        ((shownIn views).map (·.id)).Nodup ∧ ∀ id, id ∈ (shownIn views).map (·.id) ↔
          (∃ record ∈ fetched t, record.guid = id) ∧ ∃ x, w'.contents id = some x ∧ r.IsPlaced x.name) ∧
      ((∀ key, w.contents key = none) →
        (∀ outcomes later, batchReplies t = .ok outcomes :: later →
          ∀ outcome ∈ outcomes, ∃ x, outcome = .ok (some x)) →
        ∀ id record, ((fetched t).filter (·.guid = id)).getLast? = some record → r.IsPlaced record.name →
          id ∈ (shownIn views).map (·.id))) ∧
      ∀ c f, Called t c (.error f) → o = .error f ∧ w'.session.cache.held = w.session.cache.held := by
  rcases runs_all r spaces h with ⟨f, rfl, -, honly, hinquiries⟩ |
    ⟨t₁, m, t₂, asked, rfl, hlisting, hpaged, hasked, hpresent⟩
  · refine ⟨fun views hviews => (nomatch hviews), fun c f' hcalled => ?_⟩
    exact ⟨by rw [honly c f' hcalled], (Workshop.held_of_inquiries h.leads hinquiries hw).2⟩
  · obtain ⟨hcalls, -⟩ := runs_present r hpresent
    refine ⟨?_, fun c f hcalled => ?_⟩
    · rintro views rfl
      have hviewed := runs_view hw hlisting hpaged.inquiries hpresent
      refine ⟨fun hthere => ?_, hviewed.shown hnaming, fun hnew hall id record => hviewed.shown_new hnaming hnew hall⟩
      have hthere := (List.forall_mem_append.1 hthere).1
      obtain ⟨first, hfirst, rfl⟩ := hasked hthere
      refine ⟨first, called_append.2 (Or.inl hfirst), ?_⟩
      rw [Keeping.calls_append, hcalls, List.append_nil]
      exact hpaged.calls _ rfl hthere
    · rcases called_append.1 hcalled with hpage | hlater
      · cases hpaged.failed c f hpage
      · have hmem := hlater.mem_calls
        rw [hcalls] at hmem
        cases hmem

/-- A platform whose listing has these pages. Of processes it knows nothing, and everything else fails. -/
def paging (pages : Int → Page AppRecord) : Facts where
  call
    | .listing page _ _ _ => .ok (some (pages (page.getD 1)))
    | .process _ => .ok none
    | _ => .error .cancelled
  clock := .whole 0

/-- Two pages with one application on both of them. Another one has a name without a place. -/
def twoPages : Int → Page AppRecord
  | 1 => ⟨3, 2, [webApp "app-1" "STARTED", { webApp "app-2" "STARTED" with name := "?" }]⟩
  | _ => ⟨3, 2, [webApp "app-1" "STOPPED"]⟩

/-- The view of these pages where nothing was cached. -/
theorem overview_twoPages :
    ∃ t views w', Attempt.Runs (Workshop.Answers (paging twoPages).platform) (bare.all none) ⟨bareSession, []⟩ t
        (.ok views) w' ∧
      (fetched t).map (·.guid) = ["app-1", "app-2", "app-1"] ∧ (w'.contents "app-2").isSome = true ∧
      ((shownIn views).map (·.id)).Nodup ∧ ∀ id, id ∈ (shownIn views).map (·.id) ↔ id = "app-1" := by
  have htidy : bareSession.Tidy := ⟨Cache.calm_of_never rfl rfl _, List.nodup_nil⟩
  obtain ⟨t, views, left, h⟩ := Workshop.runs_of_isOk (paging twoPages).platform (bare.all none) bareSession []
    (by decide +kernel)
  have hanswered : ∀ c reply, Called t c reply → reply = (paging twoPages).call c := fun _ _ =>
    answered_of_leads (Facts.govern_platform _) h.leads
  obtain ⟨ended, hended⟩ : ∃ ended, ended = (bare.all none).run (Session.answer (paging twoPages).platform)
      bareSession := ⟨_, rfl⟩
  have hplaced : (ended.2.contents "app-1").any bare.grouper.places = true := by
    rw [hended]
    decide +kernel
  have hunplaced : (ended.2.contents "app-2").any (fun x => !bare.grouper.places x) = true := by
    rw [hended]
    decide +kernel
  rw [← hended] at h
  obtain ⟨app₁, happ₁, hplaced⟩ := (Option.any_eq_true _ _).1 hplaced
  obtain ⟨app₂, happ₂, hunplaced⟩ := (Option.any_eq_true _ _).1 hunplaced
  obtain ⟨hviews, -⟩ := overview bare rfl _ none htidy h
  obtain ⟨hpages, hshown, -⟩ := hviews views rfl
  -- no page vanishes, so both were asked for
  obtain ⟨first, hfirst, hcalls⟩ := hpages fun e he hvanishes => by
    obtain ⟨page, size, names, spaces, hcalled⟩ := called_of_vanishes he hvanishes
    cases hanswered _ _ hcalled
  cases hanswered _ _ hfirst
  have hfetched : (fetched t).map (·.guid) = ["app-1", "app-2", "app-1"] := by
    rw [fetched_eq_flatMap hanswered, hcalls]
    decide
  obtain ⟨hnodup, hshown⟩ := hshown fun record _ x hx => nomatch hx
  refine ⟨t, views, _, h, hfetched, Option.isSome_iff_exists.2 ⟨app₂, happ₂⟩, hnodup, fun id => ?_⟩
  rw [hshown]
  constructor
  · rintro ⟨⟨record, hrecord, rfl⟩, x, hx, hplace⟩
    have hguid : record.guid ∈ ["app-1", "app-2", "app-1"] := hfetched ▸ List.mem_map.2 ⟨record, hrecord, rfl⟩
    by_contra hother
    have hguid : record.guid = "app-2" := by simpa [hother] using hguid
    rw [hguid] at hx
    cases happ₂.symm.trans hx
    rw [(places_iff (r := bare) rfl app₂).2 hplace] at hunplaced
    cases hunplaced
  · rintro rfl
    have hfirst : "app-1" ∈ (fetched t).map (·.guid) := hfetched ▸ List.mem_cons_self
    obtain ⟨record, hrecord, hguid⟩ := List.mem_map.1 hfirst
    exact ⟨⟨record, hrecord, hguid⟩, app₁, happ₁, (places_iff (r := bare) rfl app₁).1 hplaced⟩

/-- An entry that a lookup has left under another name spoils a view: what is listed there is shown as the application
that the entry is of, which is not listed. -/
theorem overview_of_alias :
    ∃ t views w', aliasSession.Tidy ∧
      Attempt.Runs (Workshop.Answers (paging fun _ => ⟨1, 1, [webApp "alias" "STOPPED"]⟩).platform) (bare.all none)
        ⟨aliasSession, []⟩ t (.ok views) w' ∧
      (∀ record ∈ fetched t, record.guid = "alias") ∧ (∃ x, w'.contents "alias" = some x ∧ bare.IsPlaced x.name) ∧
      (shownIn views).map (·.id) = ["app-1"] := by
  have htidy : aliasSession.Tidy :=
    ⟨Cache.calm_of_never (by decide +kernel) (by decide +kernel) _, by decide +kernel⟩
  obtain ⟨ended, hended⟩ : ∃ ended, ended = (bare.all none).run
      (Session.answer (paging fun _ => ⟨1, 1, [webApp "alias" "STOPPED"]⟩).platform) aliasSession := ⟨_, rfl⟩
  have hshown : ended.1.toOption.map (fun views => (shownIn views).map (·.id)) = some ["app-1"] := by
    rw [hended]
    decide +kernel
  have hplaced : (ended.2.contents "alias").any bare.grouper.places = true := by
    rw [hended]
    decide +kernel
  obtain ⟨views, hviews, hshown⟩ := Option.map_eq_some_iff.1 hshown
  obtain ⟨x, hx, hplaced⟩ := (Option.any_eq_true _ _).1 hplaced
  obtain ⟨t, left, h⟩ := Workshop.runs_of_toOption (paging fun _ => ⟨1, 1, [webApp "alias" "STOPPED"]⟩).platform
    (bare.all none) aliasSession [] (hended ▸ hviews)
  rw [← hended] at h
  refine ⟨t, views, _, htidy, h, fun record hrecord => ?_, ⟨x, hx, (places_iff (r := bare) rfl x).1 hplaced⟩, hshown⟩
  rw [fetched_eq_flatMap fun _ _ => answered_of_leads (Facts.govern_platform _) h.leads] at hrecord
  obtain ⟨c, -, hrecord⟩ := List.mem_flatMap.1 hrecord
  cases c with
  | listing =>
    cases List.mem_singleton.1 hrecord
    rfl
  | _ => cases hrecord

end Roster

end Steward
