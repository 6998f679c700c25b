import Steward.Roster.Refresh
import Steward.Proofs.Roster.Lookups
import Steward.Proofs.Workload.Soundness

/-!
# Upkeep of a roster

Every program of a roster stores sound workloads only, each under its key, as long as what it looks up is sound and
the platform is honest. Lookups, loads, searches and cycles come to a workload in different ways, and each of them is
checked against one contract, `Keeping.honest`; the work of a batch is checked against `Errand.honest`.

## Contents

* `Errand.honest`, `Keeping.honest` — the contracts of workers and of keepers; `Roster.admits_honest` — what they admit;
* `Roster.meets_load`, `meets_findById`, `meets_findByNameAndSpace`, `meets_findId`, `meets_create`, `meets_delete`,
  `meets_appState` — lookups and changes;
* `Roster.isSound_remapTask`, `isSound_evaluateTask`, `meets_fanOut` — the work of a cycle;
* `Roster.meets_refresh`, `meets_all` — cycles.
-/

namespace Steward

open Attempt

/-! ## Contracts -/

/-- **Honest answers to a worker.** Whatever it looks up is sound. -/
def Errand.honest (account : String) : Contract Errand where
  asks _ := True
  replies
    | .inquiry r, reply => Inquiry.honest.replies r reply
    | .lookup key, reply => ∀ w, reply = some w → w.Sound account key

/-- What becomes of an application: a sound workload, or nothing. -/
def IsSound (account : String) (o : Option Workload) : Prop :=
  ∀ w, o = some w → w.Sound account w.id

/-- **A keeper's upkeep.** It stores sound workloads, hands out work that comes to sound workloads, and gets back what
such work came to. -/
def Keeping.honest (account : String) : Contract Keeping where
  asks
    | .store key w => w.Sound account key
    | .batch tasks => ∀ task ∈ tasks, task.Meets (Errand.honest account) (IsSound account)
    | _ => True
  replies
    | .inquiry r, reply => Inquiry.honest.replies r reply
    | .lookup key, reply => ∀ w, reply = some w → w.Sound account key
    | .batch _, reply => Good (fun outcomes => ∀ o ∈ outcomes, Good (IsSound account) o) reply
    | _, _ => True

variable {account : String} {α : Type} {post : α → Prop}

namespace Errand

/-- A worker inquires as anybody does. -/
theorem meets_inquire {p : Attempt Inquiry α} (h : p.Meets Inquiry.honest post) :
    (inquire p).Meets (honest account) post :=
  h.lift fun _ _ => Program.Meets.ask trivial fun _ hreply => Program.Meets.done hreply

/-- Fields bound around events make no difference. -/
theorem meets_under {p : Program Errand α} (h : p.Meets (honest account) post) (fields : List (String × Value)) :
    (under fields p).Meets (honest account) post := by
  refine h.lift fun r _ => ?_
  unfold requestUnder
  split
  · exact Program.Meets.ask trivial fun _ _ => Program.Meets.done trivial
  · exact Program.Meets.ask trivial fun _ hreply => Program.Meets.done hreply

end Errand

namespace Keeping

/-- A keeper inquires as anybody does. -/
theorem meets_inquire {p : Attempt Inquiry α} (h : p.Meets Inquiry.honest post) :
    (inquire p).Meets (honest account) post :=
  h.lift fun _ _ => Program.Meets.ask trivial fun _ hreply => Program.Meets.done hreply

theorem meets_ask {r : Keeping.Request} (hr : (honest account).asks r) :
    (ask r).Meets (honest account) ((honest account).replies r) :=
  meets_ofProgram (Program.Meets.ask hr fun _ hreply => Program.Meets.done hreply)

theorem meets_report (level : Level) (text : String) (fields : List (String × Value)) :
    (report level text fields).Meets (honest account) fun _ => True :=
  meets_inquire (Inquiry.meets _)

/-- Fields bound around events make no difference. -/
theorem meets_under {p : Attempt Keeping α} (h : p.Meets (honest account) post) (fields : List (String × Value)) :
    (under fields p).Meets (honest account) post := by
  refine h.lift fun r hr => ?_
  unfold requestUnder
  split
  · exact Program.Meets.ask trivial fun _ _ => Program.Meets.done trivial
  · -- the work of a batch is as sound with its events bound
    refine Program.Meets.ask ?_ fun _ hreply => Program.Meets.done hreply
    intro task htask
    obtain ⟨task, hmem, rfl⟩ := List.mem_map.1 htask
    exact Errand.meets_under (hr task hmem) fields
  · exact Program.Meets.ask hr fun _ hreply => Program.Meets.done hreply

theorem meets_drop (key : String) : (drop key).Meets (honest account) fun _ => True := by
  unfold drop
  have hinvalidate : (ask (.invalidate key)).Meets (honest account) ((honest account).replies (.invalidate key)) :=
    meets_ask trivial
  refine hinvalidate.bind fun held _ => ?_
  cases held with
  | true => exact meets_report _ _ _
  | false => exact meets_pure trivial

end Keeping

namespace Roster

open Keeping

variable (r : Roster)

/-! ## Lookups and changes -/

/-- What is loaded is sound under the identifier that was asked for. -/
theorem meets_load (id : String) : (r.load id).Meets Inquiry.honest (Workload.Sound r.account id) := by
  unfold load
  refine (Inquiry.meets_application id).bind fun found hfound => ?_
  cases found with
  | none => exact meets_throw _
  | some record =>
    obtain rfl := hfound record rfl
    refine (r.mapper.meets_map record).bind fun mapped hmapped => ?_
    cases mapped with
    | none => exact meets_throw _
    | some w => exact meets_pure (hmapped w rfl)

theorem meets_findById (id : String) : (r.findById id).Meets (honest r.account) fun _ => True := by
  have hload : (r.loadAndStore id).Meets (honest r.account) fun _ => True := by
    unfold loadAndStore
    refine (meets_inquire (r.meets_load id)).bind fun w hw => ?_
    exact (meets_ask (r := .store id w) hw).bind fun _ _ => meets_pure trivial
  unfold findById
  refine (meets_ask (r := .lookup id) trivial).bind fun cached _ => ?_
  cases cached with
  | some w => exact meets_pure trivial
  | none => exact hload.settle.bind fun outcome _ => meets_ofExcept_any _

/-- Upkeep admits inquiries of any kind, and what is put together from an answer is sound. -/
theorem admits_honest :
    Admits (honest r.account) Inquiry.honest r.mapper (fun _ => True) (fun _ => True) fun w => w.Sound r.account w.id where
  asks _ _ := trivial
  replies _ _ := id
  call _ := ((Inquiry.meets _).mono fun _ _ _ _ => trivial).ends
  report _ _ _ := (Inquiry.meets _).ends
  map record _ := ((r.mapper.meets_map record).mono fun _ hmapped w hw => (hmapped w hw).own).ends
  parse _ _ _ _ := trivial

theorem meets_findByNameAndSpace (name space : String) :
    (r.findByNameAndSpace name space).Meets (honest r.account) fun _ => True :=
  (r.admits_honest.ends_findByNameAndSpace (fun _ => id) trivial name space).meets

theorem meets_findId (name space : String) : (r.findId name space).Meets (honest r.account) fun _ => True :=
  (r.admits_honest.ends_findId (fun _ => id) trivial name space).meets

theorem meets_appState (id : String) : (appState id).Meets (honest r.account) fun _ => True :=
  (r.admits_honest.ends_appState id).meets

theorem meets_create (name : String) (space : Space) (env : Option (List (String × Value)))
    (lifecycle : Option Lifecycle) : (r.create name space env lifecycle).Meets (honest r.account) fun _ => True :=
  (r.admits_honest.ends_create trivial (fun _ => trivial) name space env lifecycle).meets

theorem meets_delete (id : String) : (r.delete id).Meets (honest r.account) fun _ => True :=
  (r.admits_honest.ends_delete trivial).meets

/-! ## Work -/

/-- A fault comes to nothing, which is sound. -/
theorem isSound_orNothing {text : String} {record : AppRecord} {p : Attempt Errand (Option Workload)}
    (h : p.Meets (Errand.honest account) (IsSound account)) :
    (orNothing text record p).Meets (Errand.honest account) (IsSound account) := by
  unfold orNothing
  refine h.outcome.bind fun outcome houtcome => ?_
  cases outcome with
  | ok done => exact Program.Meets.done (houtcome done rfl)
  | error f =>
    refine (Program.meets_of_asks (fun _ => trivial) _).bind fun reported _ => ?_
    cases reported with
    | ok | error => exact Program.Meets.done fun w hw => nomatch hw

theorem isSound_remapTask (record : AppRecord) :
    (r.remapTask record).Meets (Errand.honest r.account) (IsSound r.account) := by
  refine isSound_orNothing (Errand.meets_inquire ((r.mapper.meets_map record).mono ?_))
  exact fun mapped hmapped w hw => (hmapped w hw).own

theorem isSound_evaluateTask (record : AppRecord) :
    (evaluateTask record).Meets (Errand.honest account) (IsSound account) := by
  have hlookup : (Errand.lookup record.guid).Meets (Errand.honest account) fun cached =>
      ∀ w, cached = some w → w.Sound account record.guid :=
    Program.Meets.ask trivial fun _ hreply => Program.Meets.done hreply
  unfold evaluateTask
  refine hlookup.bind fun cached hcached => ?_
  cases cached with
  | none => exact Program.Meets.done fun w hw => nomatch hw
  | some w =>
    have hevaluated : (some <$> w.evaluate record).Meets Inquiry.honest (IsSound account) := by
      refine (((hcached w rfl).evaluate record).mono ?_).map
      rintro w' hw' _ ⟨⟩
      exact hw'.own
    exact isSound_orNothing (Errand.meets_inquire hevaluated)

/-- What a batch of sound work comes to is sound. -/
theorem meets_fanOut {tasks : List Task} (h : ∀ task ∈ tasks, task.Meets (Errand.honest account) (IsSound account)) :
    (fanOut tasks).Meets (honest account) fun results => ∀ o ∈ results, IsSound account o := by
  have hresults : ∀ outcomes : List (Except Fault (Option Workload)), (∀ o ∈ outcomes, Good (IsSound account) o) →
      Good (fun results => ∀ o ∈ results, IsSound account o) (resultsOf outcomes) := by
    intro outcomes houtcomes
    induction outcomes with
    | nil => exact good_ok (List.forall_mem_nil _)
    | cons first rest ih =>
      obtain ⟨hfirst, hrest⟩ := List.forall_mem_cons.1 houtcomes
      cases first with
      | error f => exact good_error _
      | ok done =>
        unfold resultsOf
        intro results hmap
        cases htail : resultsOf rest with
        | error f =>
          rw [htail] at hmap
          cases hmap
        | ok tail =>
          rw [htail] at hmap
          cases hmap
          exact List.forall_mem_cons.2 ⟨hfirst done rfl, ih hrest tail htail⟩
  unfold fanOut
  refine (meets_ask (r := .batch tasks) h).bind fun reply hreply => ?_
  cases reply with
  | error f => exact meets_throw _
  | ok outcomes => exact meets_ofExcept (hresults outcomes (hreply outcomes rfl))

/-! ## Commits -/

theorem meets_commitRemapped {pairs : List (AppRecord × Option Workload)} (h : ∀ pair ∈ pairs, IsSound account pair.2) :
    (commitRemapped pairs).Meets (honest account) fun _ => True := by
  induction pairs with
  | nil => exact meets_pure trivial
  | cons first rest ih =>
    obtain ⟨hfirst, hrest⟩ := List.forall_mem_cons.1 h
    obtain ⟨record, done⟩ := first
    cases done with
    | none => exact (ih hrest).bind fun _ _ => meets_pure trivial
    | some w =>
      refine (meets_ask (r := .store w.id w) (hfirst w rfl)).bind fun _ _ => ?_
      exact (ih hrest).bind fun _ _ => meets_pure trivial

theorem meets_commitEvaluated {results : List (Option Workload)} (h : ∀ o ∈ results, IsSound account o) :
    (commitEvaluated results).Meets (honest account) fun _ => True := by
  induction results with
  | nil => exact meets_pure trivial
  | cons first rest ih =>
    obtain ⟨hfirst, hrest⟩ := List.forall_mem_cons.1 h
    cases first with
    | none => exact ih hrest
    | some w =>
      refine (meets_ask (r := .store w.id w) (hfirst w rfl)).bind fun _ _ => ?_
      exact (ih hrest).bind fun _ _ => meets_pure trivial

/-! ## Cycles -/

theorem meets_evict (listing : List AppRecord) : (evict listing).Meets (honest account) fun _ => True := by
  have hdropAll : ∀ keys, (dropAll keys).Meets (honest account) fun _ => True := by
    intro keys
    induction keys with
    | nil => exact meets_pure trivial
    | cons key rest ih => exact (meets_report _ _ _).bind fun _ _ => (meets_drop key).bind fun _ _ => ih
  unfold evict
  refine (meets_ask (r := .keys) trivial).bind fun keys _ => ?_
  exact (hdropAll _).bind fun _ _ => meets_pure trivial

theorem meets_staleOf (listing : List AppRecord) : (staleOf listing).Meets (honest account) fun _ => True := by
  have hstale : ∀ record, (isStale record).Meets (honest account) fun _ => True := by
    intro record
    unfold isStale
    refine (meets_ask (r := .lookup record.guid) trivial).bind fun cached _ => ?_
    cases cached with
    | none => exact (meets_report _ _ _).bind fun _ _ => meets_pure trivial
    | some w =>
      refine (meets_ofExcept_any _).bind fun millis _ => ?_
      split
      · exact meets_pure trivial
      · exact (meets_report _ _ _).bind fun _ _ => meets_pure trivial
  induction listing with
  | nil => exact meets_pure trivial
  | cons record rest ih => exact (hstale record).bind fun _ _ => ih.bind fun _ _ => meets_pure trivial

theorem meets_remap (stale : List AppRecord) : (r.remap stale).Meets (honest r.account) fun _ => True := by
  have hwork : ∀ task ∈ stale.map r.remapTask, task.Meets (Errand.honest r.account) (IsSound r.account) := by
    intro task htask
    obtain ⟨record, -, rfl⟩ := List.mem_map.1 htask
    exact r.isSound_remapTask record
  unfold remap
  refine (meets_fanOut hwork).bind fun mapped hmapped => ?_
  have hpairs : ∀ pair ∈ stale.zip mapped, IsSound r.account pair.2 :=
    fun pair hpair => hmapped pair.2 (List.of_mem_zip hpair).2
  refine (meets_commitRemapped hpairs).bind fun committed _ => ?_
  refine (meets_ask (r := .measure _) trivial).bind fun _ _ => ?_
  exact (meets_ask (r := .measure _) trivial).bind fun _ _ => meets_pure trivial

theorem meets_evaluateAll (listing : List AppRecord) : (evaluateAll listing).Meets (honest account) fun _ => True := by
  have hwork : ∀ task ∈ listing.map evaluateTask, task.Meets (Errand.honest account) (IsSound account) := by
    intro task htask
    obtain ⟨record, -, rfl⟩ := List.mem_map.1 htask
    exact isSound_evaluateTask record
  unfold evaluateAll
  refine (meets_fanOut hwork).bind fun results hresults => ?_
  refine (meets_commitEvaluated hresults).bind fun evaluated _ => ?_
  exact (meets_ask (r := .measure _) trivial).bind fun _ _ => meets_pure trivial

/-- **A cycle** does its upkeep, whether it succeeds, fails or is aborted. -/
theorem meets_refresh (listing : List AppRecord) : (r.refresh listing).Meets (honest r.account) fun _ => True := by
  have hpooled : ∀ stale, (r.pooledSteps listing stale).Meets (honest r.account) fun _ => True := by
    intro stale
    unfold pooledSteps
    exact (r.meets_remap stale).bind fun _ _ => (meets_evaluateAll listing).bind fun _ _ => meets_pure trivial
  refine meets_under ?_ _
  unfold refreshUnbound
  refine (meets_ask (r := .stopwatch) trivial).bind fun began _ => ?_
  refine (meets_evict listing).bind fun evicted _ => ?_
  refine (meets_ask (r := .measure _) trivial).bind fun _ _ => ?_
  refine (meets_report _ _ _).bind fun _ _ => (meets_staleOf listing).bind fun stale _ => ?_
  refine (hpooled stale).settle.bind fun outcome _ => ?_
  cases outcome with
  | error f =>
    dsimp only
    split
    · refine (meets_ask (r := .stopwatch) trivial).bind fun ended _ => ?_
      exact (meets_ask (r := .measure _) trivial).bind fun _ _ => meets_throw _
    · exact meets_throw _
  | ok results =>
    refine (meets_ask (r := .stopwatch) trivial).bind fun ended _ => ?_
    refine (meets_ask (r := .measure _) trivial).bind fun _ _ => ?_
    exact (meets_report _ _ _).bind fun _ _ => meets_pure trivial

theorem meets_all (spaces : Option (List String)) : (r.all spaces).Meets (honest r.account) fun _ => True := by
  -- collecting pages only inquires
  have hfetch : ∀ page : Int, (inquire (Inquiry.call (.listing (some page) r.pageSize none (spaceFilter spaces)))).Meets
      (honest r.account) fun _ => True := fun page => meets_inquire (Inquiry.meets _)
  have hlater : ∀ left page, (laterPages report "applications"
      (fun page => inquire (Inquiry.call (.listing (some page) r.pageSize none (spaceFilter spaces)))) left page).Meets
      (honest r.account) fun _ => True := by
    intro left
    induction left with
    | zero => exact fun _ => meets_pure trivial
    | succ left ih =>
      intro page
      refine (hfetch page).bind fun fetched _ => ?_
      cases fetched with
      | none => exact (meets_report _ _ _).bind fun _ _ => meets_pure trivial
      | some p => exact (ih (page + 1)).bind fun _ _ => meets_pure trivial
  have hpages : (collectPages report "applications"
      (fun page => inquire (Inquiry.call (.listing (some page) r.pageSize none (spaceFilter spaces))))).Meets
      (honest r.account) fun _ => True := by
    unfold collectPages
    refine (hfetch 1).bind fun fetched _ => ?_
    cases fetched with
    | none => exact meets_pure trivial
    | some first =>
      exact (hlater _ _).bind fun _ _ => (meets_report _ _ _).bind fun _ _ => meets_pure trivial
  unfold all
  refine (meets_report _ _ _).bind fun _ _ => hpages.bind fun listing _ => ?_
  refine (meets_report _ _ _).bind fun _ _ => (r.meets_refresh listing).bind fun _ _ => ?_
  exact (meets_ask (r := .values) trivial).bind fun _ _ => meets_inquire (Inquiry.meets _)

end Roster

end Steward
