import Steward.Proofs.Roster.Arrival
import Steward.Proofs.Roster.Overview
import Steward.Proofs.Roster.Repetition

/-!
# Looking an identifier up by name

`Roster.findId` asks the cache first. The cache is read in its order and without regard to case, and the platform is
asked for one page with one application of exactly this name. So the two need not agree: after a cycle over all that
the platform has, the cache tells the first application of the space whose name is the given one in any case, and the
platform the first one whose name it is exactly. They agree if and only if the first one in any case is the first one.

## Contents

* `AppRecord.isAt`, `isAlike` — the two ways to have a name in a space;
* `Facts.Searches`, `Facts.Hosts` — platforms with certain applications;
* `Facts.Current`, `Workload.Depicts` — cached workloads that are what their records say;
* `Roster.current_of_refresh`, `find?_held_of_refresh` — all of them, after a cycle that skips nothing, and what the
  cache says of a name then;
* `Workshop.ComesTo`, `Roster.run_findId` — what a lookup comes to, whatever workers do;
* `Roster.firstAlike`, `Roster.firstAt`, `Roster.findId_of_refresh` — lookups after such a cycle, and with nothing cached.
-/

namespace Steward

/-! ## Names in spaces -/

namespace AppRecord

/-- Whether an application has exactly this name, and is in this space. -/
def isAt (name space : String) (record : AppRecord) : Bool :=
  record.name = name && record.spaceGuid = some space

/-- Whether an application has this name, in any case, and is in this space. -/
def isAlike (name space : String) (record : AppRecord) : Bool :=
  Text.lower record.name = Text.lower name && record.namedSpace = some space

variable {name space : String} {record : AppRecord}

theorem isAt_iff : record.isAt name space = true ↔ record.name = name ∧ record.spaceGuid = some space := by
  simp [isAt]

theorem isAlike_iff : record.isAlike name space = true ↔
    Text.lower record.name = Text.lower name ∧ record.namedSpace = some space := by
  simp [isAlike]

theorem namedSpace_eq_some : record.namedSpace = some space ↔ record.spaceGuid = some space ∧ space ≠ "" := by
  unfold namedSpace
  rw [Option.filter_eq_some_iff]
  simp

end AppRecord

/-! ## Platforms -/

namespace Facts

/-- **The platform searches** these applications by exact name and space, and answers with one page of one of them. -/
def Searches (facts : Facts) (apps : List AppRecord) (name space : String) : Prop :=
  ∃ answer, facts.call (.listing none 1 (some [name]) (some space)) = .ok answer ∧
    answer.elim [] (·.resources) = (apps.filter (·.isAt name space)).take 1

/-- **The platform has these applications**, each under an identifier of its own, and knows their spaces. -/
structure Hosts (facts : Facts) (apps : List AppRecord) : Prop where
  distinct : (apps.map (·.guid)).Nodup
  spaces : ∀ record ∈ apps, ∀ id, record.namedSpace = some id →
    ∃ space, facts.call (.space id) = .ok (some space) ∧ space.id = id

/-- **What is cached and not out of date** is what its record maps to, under its own identifier. -/
def Current (facts : Facts) (m : Mapper) (listing : List AppRecord) (c : Contents) : Prop :=
  ∀ record ∈ listing, ∀ x, c record.guid = some x → x.id = record.guid ∧
    (record.isStale (some x) = false →
      ∃ y, facts.mapped m record = .ok (some y) ∧ x.name = y.name ∧ x.space = y.space)

theorem current_of_empty (facts : Facts) (m : Mapper) (listing : List AppRecord) {c : Contents}
    (h : ∀ key, c key = none) : facts.Current m listing c := by
  intro record _ x hx
  rw [h] at hx
  cases hx

end Facts

/-! ## What is cached -/

/-- **A workload depicts a record**: it has its identifier and its name, and is in the space that it names. -/
structure Workload.Depicts (x : Workload) (record : AppRecord) : Prop where
  id : x.id = record.guid
  name : x.name = record.name
  space : x.space.map (·.id) = record.namedSpace

variable {facts : Facts} {apps : List AppRecord}

/-- What a record maps to depicts it. -/
theorem Facts.Hosts.depicts (h : facts.Hosts apps) {m : Mapper} {record : AppRecord} (hrecord : record ∈ apps)
    {y : Workload} (hmapped : facts.mapped m record = .ok (some y)) : y.Depicts record := by
  obtain ⟨hid, -⟩ := mapped_eq_some hmapped
  obtain ⟨_, space, _, _, assembled, -, hspace, -, -, hassembled, rfl⟩ := mapped_eq_some_iff.1 hmapped
  obtain ⟨-, hname, hplaced, -⟩ := assemble_rendered hassembled
  refine ⟨hid, hname, ?_⟩
  show assembled.space.map (·.id) = record.namedSpace
  have hplaced : assembled.space = space := hplaced
  rw [hplaced]
  unfold Facts.spaceOf at hspace
  cases hnamed : record.namedSpace with
  | none =>
    rw [hnamed] at hspace
    cases hspace
    rfl
  | some id =>
    obtain ⟨known, hcall, hknown⟩ := h.spaces record hrecord id hnamed
    rw [hnamed] at hspace
    have hsame : space = some known := Except.ok.inj (hspace.symm.trans hcall)
    rw [hsame, Option.map_some, hknown]

/-- A workload has a name in a space as the record does that it depicts. -/
theorem Workload.Depicts.isNamed_eq {x : Workload} {record : AppRecord} (h : x.Depicts record) (name space : String) :
    Roster.isNamed name space x = record.isAlike name space := by
  unfold Roster.isNamed AppRecord.isAlike
  rw [h.name, ← h.space]
  cases x.space with
  | none => simp
  | some s => simp

/-- The values of a list without duplicate keys, by its keys. -/
theorem Keyed.map_snd_eq {κ α : Type} [DecidableEq κ] {entries : List (κ × α)} (h : (entries.map (·.1)).Nodup) :
    entries.map (·.2) = (entries.map (·.1)).filterMap fun key => entries.lookup key := by
  rw [List.filterMap_map, ← List.filterMap_eq_map]
  apply List.filterMap_congr
  intro e he
  exact ((mem_iff_lookup h e.1 e.2).1 he).symm

variable {τ σ : Type} [Sub τ] [LE τ] [DecidableLE τ] {platform : Handler Inquiry σ}

namespace Roster

/-- **After a cycle that skips nothing** every application is cached as its record maps to, but for its health. -/
theorem current_of_refresh (hfacts : facts.Govern platform) (r : Roster) (hdistinct : (apps.map (·.guid)).Nodup)
    {w w' : Workshop τ σ} {t : List (Exchange Keeping)} {done : Refresh} (hw : w.Calm)
    (hcurrent : facts.Current r.mapper apps w.contents)
    (h : Attempt.Runs (Workshop.Answers platform) (r.refresh apps) w t (.ok done) w') (hdone : done.skipped = [])
    {record : AppRecord} (hrecord : record ∈ apps) :
    ∃ x y, w'.contents record.guid = some x ∧ facts.mapped r.mapper record = .ok (some y) ∧
      x.id = record.guid ∧ x.name = y.name ∧ x.space = y.space := by
  have hown : ∀ record ∈ apps, ∀ x, w.contents record.guid = some x → x.id = record.guid :=
    fun record hrecord x hx => (hcurrent record hrecord x hx).1
  obtain ⟨-, hcycle⟩ := refresh_cycle (Workshop.keeps_of_govern hfacts) r hw.lasting h
  obtain ⟨-, hskipped, -⟩ := Facts.of_finished hcycle
  have hsteps := facts.steps r.mapper hdistinct hown
  rw [contents_of_refresh hfacts hw.lasting h, Facts.overlay_remap_eq]
  -- the second step changes at most health, so it is enough to look at the first
  suffices hmapped : ∃ x y, w.contents.withMapped apps (facts.remapped r.mapper) record.guid = some x ∧
      facts.mapped r.mapper record = .ok (some y) ∧ x.id = record.guid ∧ x.name = y.name ∧ x.space = y.space by
    obtain ⟨x, y, hx, hy, hid, hname, hspace⟩ := hmapped
    obtain ⟨state, replicas, hnew⟩ := hsteps.read_of_mapped hrecord hx
    exact ⟨{ x with state, replicas }, y, hnew, hy, hid, hname, hspace⟩
  by_cases hstale : record ∈ w.contents.stale apps
  · cases hremapped : facts.remapped r.mapper record with
    | none =>
      have hmem := (hsteps.mem_skippedBy hrecord).2 ⟨hstale, hremapped⟩
      rw [← hskipped, hdone] at hmem
      cases hmem
    | some y =>
      have hmapped := Facts.mapped_of_remapped hremapped
      refine ⟨y, y, ?_, hmapped, (Facts.mapped_eq_some hmapped).1, rfl, rfl⟩
      rw [hsteps.mapped_of_stale hstale, hremapped, Option.some_or]
  · have hnotStale : record.isStale (w.contents record.guid) = false := by
      simpa [Contents.stale, hrecord] using hstale
    obtain ⟨x, hx, -⟩ := AppRecord.of_not_isStale hnotStale
    obtain ⟨hid, hmaps⟩ := hcurrent record hrecord x hx
    rw [hx] at hnotStale
    obtain ⟨y, hy, hname, hspace⟩ := hmaps hnotStale
    exact ⟨x, y, (hsteps.mapped_of_current hrecord hstale).trans hx, hy, hid, hname, hspace⟩

/-- So every record maps to a workload. -/
theorem mapped_of_refresh (hfacts : facts.Govern platform) (r : Roster) (hdistinct : (apps.map (·.guid)).Nodup)
    {w w' : Workshop τ σ} {t : List (Exchange Keeping)} {done : Refresh} (hw : w.Calm)
    (hcurrent : facts.Current r.mapper apps w.contents)
    (h : Attempt.Runs (Workshop.Answers platform) (r.refresh apps) w t (.ok done) w') (hdone : done.skipped = []) :
    ∀ record ∈ apps, ∃ y, facts.mapped r.mapper record = .ok (some y) := by
  intro record hrecord
  obtain ⟨_, y, -, hy, -⟩ := current_of_refresh hfacts r hdistinct hw hcurrent h hdone hrecord
  exact ⟨y, hy⟩

/-- The first of some workloads with a name in a space is the first of the records that they depict. -/
theorem find?_isNamed {records : List AppRecord} {shown : AppRecord → Option Workload}
    (h : ∀ record ∈ records, ∃ x, shown record = some x ∧ x.Depicts record) (name space : String) :
    ((records.filterMap shown).find? (isNamed name space)).map (·.id)
      = (records.find? (·.isAlike name space)).map (·.guid) := by
  induction records with
  | nil => rfl
  | cons record rest ih =>
    obtain ⟨⟨x, hx, hdepicts⟩, hrest⟩ := List.forall_mem_cons.1 h
    rw [List.filterMap_cons_some hx, List.find?_cons, List.find?_cons, hdepicts.isNamed_eq]
    cases record.isAlike name space with
    | true => exact congrArg some hdepicts.id
    | false => exact ih hrest

/-- The first application with a name in a space, in any case, in the order of a cache. -/
def firstAlike (apps : List AppRecord) (keys : List String) (name space : String) : Option AppRecord :=
  (ranked apps keys).find? (·.isAlike name space)

/-- The first application with exactly this name in a space. -/
def firstAt (apps : List AppRecord) (name space : String) : Option AppRecord :=
  apps.find? (·.isAt name space)

/-- **What the cache says of a name** after a cycle that skips nothing. -/
theorem find?_held_of_refresh (hfacts : facts.Govern platform) (r : Roster) (hhosts : facts.Hosts apps)
    {w w' : Workshop τ σ} {t : List (Exchange Keeping)} {done : Refresh} (hw : w.session.Tidy)
    (hcurrent : facts.Current r.mapper apps w.contents)
    (h : Attempt.Runs (Workshop.Answers platform) (r.refresh apps) w t (.ok done) w') (hdone : done.skipped = [])
    (name space : String) :
    ((w'.session.cache.held.map (·.2)).find? (isNamed name space)).map (·.id)
      = (firstAlike apps (w.session.cache.held.map (·.1)) name space).map (·.guid) := by
  have hw' := Workshop.tidy_of_leads h.leads hw
  have hown : ∀ record ∈ apps, ∀ x, w.contents record.guid = some x → x.id = record.guid :=
    fun record hrecord x hx => (hcurrent record hrecord x hx).1
  rw [Keyed.map_snd_eq hw'.distinct, keys_of_refresh_ranked hfacts r hhosts.distinct hw.calm hown h hdone,
    List.filterMap_map]
  apply find?_isNamed
  intro record hrecord
  have hrecord := mem_of_ranked hrecord
  obtain ⟨x, y, hx, hy, hid, hname, hspace⟩ :=
    current_of_refresh hfacts r hhosts.distinct hw.calm hcurrent h hdone hrecord
  have hdepicts := hhosts.depicts hrecord hy
  rw [Workshop.contents_eq_lookup hw'] at hx
  refine ⟨x, hx, hid, hname.trans hdepicts.name, ?_⟩
  rw [hspace]
  exact hdepicts.space

end Roster

/-! ## What a lookup comes to -/

namespace Attempt

variable {I : Interface} {α β : Type}

theorem run_bind_of_ok {h : Handler I σ} {p : Attempt I β} {s m : σ} {b : β} (hp : p.run h s = (.ok b, m))
    (f : β → Attempt I α) : (p >>= f).run h s = (f b).run h m := by
  have hbind : (p >>= f).run h s = Program.run h (ExceptT.bindCont f (p.run h s).1) (p.run h s).2 :=
    Program.run_bind h p.outcome _ s
  rw [hbind, hp]
  rfl

end Attempt

namespace Workshop

/-- **Whatever workers do, the program comes to this**: it has a run, and every run of it ends so. -/
def ComesTo {α : Type} (platform : Handler Inquiry σ) (p : Attempt Keeping α) (w : Workshop τ σ)
    (o : Except Fault α) : Prop :=
  (∃ t w', Attempt.Runs (Answers platform) p w t o w') ∧
    ∀ t o' w', Attempt.Runs (Answers platform) p w t o' w' → o' = o

/-- A program comes to what it comes to by the board. -/
theorem comesTo_of_run {α : Type} (hfacts : facts.Govern platform) {p : Attempt Keeping α} {w : Workshop τ σ}
    {o : Except Fault α} (hw : w.Calm) (h : (p.run facts.consult w.board).1 = o) : ComesTo platform p w o := by
  have hall : ∀ t o' w', Attempt.Runs (Answers platform) p w t o' w' → o' = o := by
    intro t o' w' hruns
    obtain ⟨hrun, -⟩ := run_consult hfacts hruns hw
    exact (congrArg Prod.fst hrun).symm.trans h
  obtain ⟨t, left, hruns⟩ := runs_of_run platform p.outcome w.session w.stray
  have hruns : Attempt.Runs (Answers platform) p w t (p.run (Session.answer platform) w.session).1
      ⟨(p.run (Session.answer platform) w.session).2, left⟩ := hruns
  rw [hall _ _ _ hruns] at hruns
  exact ⟨⟨t, _, hruns⟩, hall⟩

end Workshop

namespace Roster

variable {name space : String} {b : Board}

/-- Inquiries come to what the facts say, and leave the board. -/
theorem run_inquire {α : Type} (facts : Facts) (p : Attempt Inquiry α) (b : Board) :
    (Keeping.inquire p).run facts.consult b = (p.eval facts.inquiry, b) := by
  have hlift : ∀ q : Program Inquiry (Except Fault α),
      Program.run facts.consult
        (q.lift fun r => Program.request (I := Keeping) (Keeping.Request.inquiry r)) b = (q.eval facts.inquiry, b) := by
    intro q
    induction q with
    | done a => rfl
    | ask r next ih => exact ih (facts.inquiry r)
  exact hlift p.outcome

/-- A search comes to the first application with exactly that name in the space. -/
theorem run_findRecord (hsearch : facts.Searches apps name space) :
    (findRecord name space).run facts.consult b = (.ok (firstAt apps name space), b) := by
  obtain ⟨answer, hcall, hresources⟩ := hsearch
  have hasked : (Keeping.inquire (Inquiry.call (.listing none 1 (some [name]) (some space)))).run facts.consult b
      = (.ok answer, b) := by
    rw [run_inquire]
    exact congrArg (·, b) hcall
  have hexact : firstAt apps name space = (answer.elim [] (·.resources)).head? := by
    unfold firstAt
    rw [hresources, List.head?_take, List.head?_filter]
    simp
  unfold findRecord
  rw [Attempt.run_bind_of_ok hasked, hexact]
  cases answer with
  | none => rfl
  | some page =>
    obtain ⟨total, pages, resources⟩ := page
    cases resources with
    | nil => rfl
    | cons record rest => rfl

/-- What is found on the platform: the first application with exactly that name in the space, if it can be put together. -/
theorem run_findRemotely (r : Roster) (hsearch : facts.Searches apps name space)
    (hmapped : ∀ record ∈ apps, ∃ y, facts.mapped r.mapper record = .ok (some y)) :
    ∃ found m, (r.findRemotely name space).run facts.consult b = (.ok found, m) ∧
      (found = .missing ∧ firstAt apps name space = none ∨
        ∃ y record, found = .found y ∧ firstAt apps name space = some record ∧ y.id = record.guid) := by
  have hrecord := run_findRecord (b := b) hsearch
  unfold findRemotely
  rw [Attempt.run_bind_of_ok hrecord]
  cases hexact : firstAt apps name space with
  | none => exact ⟨_, _, rfl, Or.inl ⟨rfl, rfl⟩⟩
  | some record =>
    obtain ⟨y, hy⟩ := hmapped record (List.mem_of_find?_eq_some hexact)
    have hread : (Keeping.inquire (r.mapper.map record)).run facts.consult b = (.ok (some y), b) := by
      rw [run_inquire]
      exact congrArg (·, b) hy
    refine ⟨.found y, { b with held := Keyed.put b.held y.id y }, ?_,
      Or.inr ⟨y, record, rfl, rfl, (Facts.mapped_eq_some hy).1⟩⟩
    exact Attempt.run_bind_of_ok hread _

/-- **What a lookup by name comes to**: the identifier that the cache tells, or the one that the platform tells. -/
theorem run_findId (r : Roster) (hsearch : facts.Searches apps name space)
    (hmapped : ∀ record ∈ apps, ∃ y, facts.mapped r.mapper record = .ok (some y)) :
    ((r.findId name space).run facts.consult b).1
      = .ok ((((b.held.map (·.2)).find? (isNamed name space)).map (·.id)).or
          ((firstAt apps name space).map (·.guid))) := by
  have hvalues : (Keeping.ask .values).run facts.consult b = (.ok (b.held.map (·.2)), b) := rfl
  unfold findId
  rw [Attempt.run_bind_of_ok hvalues]
  cases (b.held.map (·.2)).find? (isNamed name space) with
  | some x => rfl
  | none =>
    obtain ⟨found, m, hrun, ⟨rfl, hexact⟩ | ⟨y, record, rfl, hexact, hid⟩⟩ := run_findRemotely (b := b) r hsearch hmapped
    · rw [hexact]
      exact congrArg Prod.fst (Attempt.run_bind_of_ok hrun _)
    · rw [hexact, Option.map_some, ← hid]
      exact congrArg Prod.fst (Attempt.run_bind_of_ok hrun _)

/-! ## Lookups after a cycle -/

/-- Where nothing was cached before, the two agree if the first application in any case has exactly the name. -/
theorem firstAt_of_alike {record : AppRecord} (halike : firstAlike apps [] name space = some record) :
    firstAt apps name space = some record ↔ record.name = name := by
  unfold firstAlike at halike
  rw [ranked_nil] at halike
  constructor
  · intro hexact
    exact (AppRecord.isAt_iff.1 (List.find?_some hexact)).1
  · intro hname
    obtain ⟨hlike, before, after, rfl, hbefore⟩ := List.find?_eq_some_iff_append.1 halike
    obtain ⟨-, hspace⟩ := AppRecord.isAlike_iff.1 hlike
    obtain ⟨hguid, hnonempty⟩ := AppRecord.namedSpace_eq_some.1 hspace
    refine List.find?_eq_some_iff_append.2 ⟨AppRecord.isAt_iff.2 ⟨hname, hguid⟩, before, after, rfl, ?_⟩
    -- what has the name exactly has it in any case, so there is none before the first
    intro other hother
    have hunlike := hbefore other hother
    contrapose! hunlike
    have hat : other.isAt name space = true := by simpa using hunlike
    obtain ⟨hname', hguid'⟩ := AppRecord.isAt_iff.1 hat
    have hlike' : other.isAlike name space = true :=
      AppRecord.isAlike_iff.2 ⟨congrArg Text.lower hname', AppRecord.namedSpace_eq_some.2 ⟨hguid', hnonempty⟩⟩
    simpa using hlike'

/-- A lookup with nothing cached comes to what the platform tells. -/
theorem findId_of_nothing (hfacts : facts.Govern platform) (r : Roster)
    (hmapped : ∀ record ∈ apps, ∃ y, facts.mapped r.mapper record = .ok (some y)) {e : Workshop τ σ} (he : e.Calm)
    (hempty : e.session.cache.held = []) (hsearch : facts.Searches apps name space) :
    e.ComesTo platform (r.findId name space) (.ok ((firstAt apps name space).map (·.guid))) := by
  refine Workshop.comesTo_of_run hfacts he ?_
  have hnone : e.board.held = [] := hempty
  rw [run_findId r hsearch hmapped, hnone]
  rfl

/-- A lookup after a cycle that skipped nothing comes to what the cache tells, if it tells anything. -/
theorem findId_of_all (hfacts : facts.Govern platform) (r : Roster) (hhosts : facts.Hosts apps)
    {w w' : Workshop τ σ} {t : List (Exchange Keeping)} {done : Refresh} (hw : w.session.Tidy)
    (hcurrent : facts.Current r.mapper apps w.contents)
    (h : Attempt.Runs (Workshop.Answers platform) (r.refresh apps) w t (.ok done) w') (hdone : done.skipped = [])
    (hsearch : facts.Searches apps name space) :
    w'.ComesTo platform (r.findId name space) (.ok
      (((firstAlike apps (w.session.cache.held.map (·.1)) name space).or (firstAt apps name space)).map (·.guid))) := by
  refine Workshop.comesTo_of_run hfacts (Workshop.tidy_of_leads h.leads hw).calm ?_
  have hmapped := mapped_of_refresh hfacts r hhosts.distinct hw.calm hcurrent h hdone
  have hheld := find?_held_of_refresh hfacts r hhosts hw hcurrent h hdone name space
  rw [run_findId r hsearch hmapped, Option.map_or, ← hheld]
  rfl

/-- **A lookup by name after a cycle over all applications**, in which none was skipped, and the same lookup with nothing
cached both come to their end, on a platform that does not change its mind, while nothing expires and whatever workers
do. What was cached before the cycle and was not out of date is what its record maps to. With the full cache it is the
first application of the space, in the order of the cache, whose name is the given one in any case; with the empty one
it is the first in the order of the platform whose name it is exactly. So both agree if and only if the former, if there
is one, is the latter; if nothing was cached before the cycle, if and only if it has exactly that name. -/
theorem findId_of_refresh (hfacts : facts.Govern platform) (r : Roster) (hhosts : facts.Hosts apps)
    {w w' : Workshop τ σ} {t : List (Exchange Keeping)} {done : Refresh} (hw : w.session.Tidy)
    (hcurrent : facts.Current r.mapper apps w.contents)
    (h : Attempt.Runs (Workshop.Answers platform) (r.refresh apps) w t (.ok done) w') (hdone : done.skipped = [])
    {e : Workshop τ σ} (he : e.Calm) (hempty : e.session.cache.held = []) {name space : String}
    (hsearch : facts.Searches apps name space) {cached remote : Option AppRecord}
    (hcached : firstAlike apps (w.session.cache.held.map (·.1)) name space = cached)
    (hremote : firstAt apps name space = remote) :
    w'.ComesTo platform (r.findId name space) (.ok ((cached.or remote).map (·.guid))) ∧
      e.ComesTo platform (r.findId name space) (.ok (remote.map (·.guid))) ∧
      ((cached.or remote).map (·.guid) = remote.map (·.guid) ↔ ∀ record, cached = some record → remote = some record) ∧
      (w.session.cache.held = [] → ∀ record, cached = some record → (remote = some record ↔ record.name = name)) := by
  have hmapped := mapped_of_refresh hfacts r hhosts.distinct hw.calm hcurrent h hdone
  have hfull := findId_of_all hfacts r hhosts hw hcurrent h hdone hsearch
  have hnone := findId_of_nothing hfacts r hmapped he hempty hsearch
  rw [hcached, hremote] at hfull
  rw [hremote] at hnone
  refine ⟨hfull, hnone, ?_, ?_⟩
  · constructor
    · rintro hsame record rfl
      rw [Option.some_or, Option.map_some] at hsame
      obtain ⟨other, hother, hguid⟩ := Option.map_eq_some_iff.1 hsame.symm
      have hrecord : record ∈ apps := mem_of_ranked (List.mem_of_find?_eq_some hcached)
      have hmem : other ∈ apps := List.mem_of_find?_eq_some (hremote.trans hother)
      rw [hother, List.inj_on_of_nodup_map hhosts.distinct hmem hrecord hguid]
    · intro hagree
      cases cached with
      | none => rw [Option.none_or]
      | some record => rw [hagree record rfl, Option.some_or]
  · rintro hnothing record rfl
    rw [hnothing, List.map_nil] at hcached
    rw [← hremote]
    exact firstAt_of_alike hcached

/-- A stopped application in a space. -/
def appIn (guid name space : String) : AppRecord :=
  ⟨guid, name, "STOPPED", ⟨0, 0, false⟩, ⟨0, 0, false⟩, [("space", ⟨none, some space⟩)]⟩

end Roster

/-- A platform with certain applications, and with every space. -/
def Facts.town (apps : List AppRecord) : Facts where
  call
    | .listing _ _ (some [name]) (some space) => .ok (some ⟨1, 1, (apps.filter (·.isAt name space)).take 1⟩)
    | .space id => .ok (some ⟨id, none, none⟩)
    | .process _ => .ok none
    | _ => .error .cancelled
  clock := .whole 0

theorem Facts.searches_town (apps : List AppRecord) (name space : String) :
    (Facts.town apps).Searches apps name space :=
  ⟨_, rfl, rfl⟩

theorem Facts.hosts_town {apps : List AppRecord} (hdistinct : (apps.map (·.guid)).Nodup) :
    (Facts.town apps).Hosts apps :=
  ⟨hdistinct, fun _ _ id _ => ⟨⟨id, none, none⟩, rfl, rfl⟩⟩

namespace Roster

theorem tidy_bareSession : bareSession.Tidy :=
  ⟨Cache.calm_of_never rfl rfl _, List.nodup_nil⟩

/-- Where nothing is cached, nothing is out of step. -/
theorem current_bareSession (facts : Facts) (m : Mapper) (listing : List AppRecord) :
    facts.Current m listing (⟨bareSession, []⟩ : Workshop Nat Unit).contents :=
  facts.current_of_empty m listing fun _ => rfl

/-- Two applications in two spaces, whose names are the same but for their case. -/
def namesakes : List AppRecord :=
  [appIn "app-1" "Web" "space-1", appIn "app-2" "web" "space-2"]

/-- The second is found by its name, with it cached and without. -/
theorem findId_of_refresh_namesakes :
    ∃ t done w', Attempt.Runs (Workshop.Answers (Facts.town namesakes).platform) (bare.refresh namesakes)
        ⟨bareSession, []⟩ t (.ok done) w' ∧ done.skipped = [] ∧
      w'.ComesTo (Facts.town namesakes).platform (bare.findId "web" "space-2") (.ok (some "app-2")) ∧
      (⟨bareSession, []⟩ : Workshop Nat Unit).ComesTo (Facts.town namesakes).platform (bare.findId "web" "space-2")
        (.ok (some "app-2")) := by
  have hdone : ((bare.refresh namesakes).run (Session.answer (Facts.town namesakes).platform) bareSession).1.toOption
      = some ⟨[], ["app-1", "app-2"], [], ["app-1", "app-2"]⟩ := by
    decide +kernel
  obtain ⟨t, left, h⟩ := Workshop.runs_of_toOption (Facts.town namesakes).platform (bare.refresh namesakes)
    bareSession [] hdone
  have hhosts : (Facts.town namesakes).Hosts namesakes := Facts.hosts_town (by decide)
  have hcached : firstAlike namesakes [] "web" "space-2" = some (appIn "app-2" "web" "space-2") := by
    decide +kernel
  have hremote : firstAt namesakes "web" "space-2" = some (appIn "app-2" "web" "space-2") := by
    decide +kernel
  have hcurrent := current_bareSession (Facts.town namesakes) bare.mapper namesakes
  obtain ⟨hfull, hnone, -, -⟩ := findId_of_refresh (Facts.govern_platform _) bare hhosts tidy_bareSession hcurrent h rfl
    (e := ⟨bareSession, []⟩) tidy_bareSession.calm rfl (Facts.searches_town _ _ _) hcached hremote
  exact ⟨t, _, _, h, rfl, hfull, hnone⟩

/-- One application, whose name has a capital letter. -/
def capital : List AppRecord :=
  [appIn "app-1" "Web" "space-1"]

/-- **The cache finds more than the platform**: a name in another case is found after a cycle that skips nothing, but
not with nothing cached. -/
theorem findId_of_other_case :
    ∃ t done w', (Facts.town capital).Hosts capital ∧ (Facts.town capital).Searches capital "web" "space-1" ∧
      Attempt.Runs (Workshop.Answers (Facts.town capital).platform) (bare.refresh capital) ⟨bareSession, []⟩ t
        (.ok done) w' ∧ done.skipped = [] ∧
      w'.ComesTo (Facts.town capital).platform (bare.findId "web" "space-1") (.ok (some "app-1")) ∧
      (⟨bareSession, []⟩ : Workshop Nat Unit).ComesTo (Facts.town capital).platform (bare.findId "web" "space-1")
        (.ok none) := by
  have hdone : ((bare.refresh capital).run (Session.answer (Facts.town capital).platform) bareSession).1.toOption
      = some ⟨[], ["app-1"], [], ["app-1"]⟩ := by
    decide +kernel
  obtain ⟨t, left, h⟩ := Workshop.runs_of_toOption (Facts.town capital).platform (bare.refresh capital) bareSession []
    hdone
  have hfacts := Facts.govern_platform (Facts.town capital)
  have hhosts : (Facts.town capital).Hosts capital := Facts.hosts_town (by decide)
  have hsearch := Facts.searches_town capital "web" "space-1"
  have hcurrent := current_bareSession (Facts.town capital) bare.mapper capital
  have hcached : firstAlike capital [] "web" "space-1" = some (appIn "app-1" "Web" "space-1") := by
    decide +kernel
  have hremote : firstAt capital "web" "space-1" = none := by
    decide +kernel
  have hfull := findId_of_all hfacts bare hhosts tidy_bareSession hcurrent h rfl hsearch
  have hmapped := mapped_of_refresh hfacts bare hhosts.distinct tidy_bareSession.calm hcurrent h rfl
  have hnone := findId_of_nothing hfacts bare hmapped (e := ⟨bareSession, []⟩) tidy_bareSession.calm rfl hsearch
  rw [hremote] at hfull hnone
  refine ⟨t, _, _, hhosts, hsearch, h, rfl, ?_, hnone⟩
  have hsame : (⟨bareSession, []⟩ : Workshop Nat Unit).session.cache.held.map (·.1) = [] := rfl
  rw [hsame, hcached] at hfull
  exact hfull

end Roster

end Steward
