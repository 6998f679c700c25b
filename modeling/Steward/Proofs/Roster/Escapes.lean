import Steward.Proofs.Roster.Lookups
import Steward.Proofs.Roster.Pages
import Steward.Proofs.Roster.Reconcile
import Steward.Proofs.Roster.Work

/-!
# What operations fail with

An operation of a roster comes to a result or to a fault. As long as the calls that it makes fail with nothing but
faults of the library, most of its faults are the library's own too. Not all are: what the platform answers is taken as
it is, and only when it is put to use it may turn out that a run state is not known, a time has no place in the calendar
or a variable has too many digits. Lookups by identifier turn such a fault into one of the library's, and cycles keep
those of their workers to themselves; the other operations let it through. What the pool rejects a submission with is
let through as well, unless it is a runtime error.

## Contents

* `AppRecord.Blemish`, `Call.Blemish` — faults that come to light when an answer is put to use;
* `Inquiry.told`, `Mapper.ends_map` — what putting a workload together fails with;
* `Roster.admits_told`, `ends_findById`, `runs_delete_cases`, `runs_appState` — operations one by one;
* `Roster.failures` — what operations fail with;
* `Roster.appState_of_unknown` — a fault that is let through.
-/

namespace Steward

open Attempt

/-! ## Blemishes -/

/-- A fault that comes to light when a record is put to use. -/
def AppRecord.Blemish (record : AppRecord) (f : Fault) : Prop :=
  RunState.parse record.state = .error f ∨ record.createdMillis = .error f ∨ record.updatedMillis = .error f

/-- A fault that comes to light when an environment is put to use. -/
def EnvironmentBlemish (environment : Option Environment) (f : Fault) : Prop :=
  ∃ p : Provenance, p.read (variablesOf environment) = .error f

/-- A fault that comes to light when the answer to a call is put to use. -/
def Call.Blemish : (c : Call) → c.Answer → Fault → Prop
  | .listing _ _ _ _, page, f => ∃ p, page = some p ∧ ∃ record ∈ p.resources, record.Blemish f
  | .application _, found, f => ∃ record, found = some record ∧ record.Blemish f
  | .createApplication _ _ _ _, created, f => ∃ record, created = some record ∧ record.Blemish f
  | .environment _, found, f => EnvironmentBlemish found f
  | _, _, _ => False

/-- Calls fail with these faults, and these come to light in their answers. -/
def Inquiry.told (faults : Fault → Prop) : Contract Inquiry where
  asks _ := True
  replies
    | .call _, .error f => faults f
    | .call c, .ok answer => ∀ f, c.Blemish answer f → faults f
    | .report _, _ => True
    | .clock, _ => True

/-- The same for a keeper, of whose other requests nothing is known. -/
def Keeping.told (faults : Fault → Prop) : Contract Keeping where
  asks _ := True
  replies
    | .inquiry q, reply => (Inquiry.told faults).replies q reply
    | _, _ => True

/-- Two steps that may fail do if either does. -/
theorem except_bind_eq_error {ε α β : Type} {x : Except ε α} {f : α → Except ε β} {e : ε} :
    x >>= f = .error e ↔ x = .error e ∨ ∃ a, x = .ok a ∧ f a = .error e := by
  cases x with
  | error e' =>
    constructor
    · intro h
      cases h
      exact Or.inl rfl
    · rintro (h | ⟨a, h, -⟩)
      · cases h
        rfl
      · cases h
  | ok a =>
    constructor
    · intro h
      exact Or.inr ⟨a, rfl, h⟩
    · rintro (h | ⟨a', h, h'⟩)
      · cases h
      · cases h
        exact h'

variable {faults : Fault → Prop}

/-! ## Putting a workload together -/

namespace Inquiry

theorem ends_call (c : Call) :
    (call c).Ends (told faults) (fun answer => ∀ f, c.Blemish answer f → faults f) faults := by
  refine ⟨Program.Meets.ask trivial fun reply hreply => Program.Meets.done ?_⟩
  cases reply with
  | error f => exact hreply
  | ok answer => exact hreply

theorem ends_report (level : Level) (text : String) (fields : List (String × Value)) :
    (report level text fields).Ends (told faults) (fun _ => True) faults :=
  ends_ofProgram (Program.Meets.ask trivial fun _ _ => Program.Meets.done trivial)

theorem ends_any {α : Type} (p : Attempt Inquiry α) : p.Ends (told faults) (fun _ => True) fun _ => True :=
  ends_of_asks (fun _ => trivial) p

end Inquiry

theorem ends_spaceOf (record : AppRecord) : (spaceOf record).Ends (Inquiry.told faults) (fun _ => True) faults := by
  unfold spaceOf
  split
  · exact ends_pure trivial
  · exact ends_pure trivial
  · next space _ _ => exact (Inquiry.ends_call (.space space)).mono (fun _ _ => trivial) fun _ => id

/-- An environment that cannot be read has no blemish, since it has no variables. -/
theorem ends_environmentOf (record : AppRecord) :
    (environmentOf record).Ends (Inquiry.told faults)
      (fun found => ∀ environment, found = .read environment → ∀ f, EnvironmentBlemish environment f → faults f)
      faults := by
  unfold environmentOf
  refine (Inquiry.ends_call (.environment record.guid)).settle_bind fun outcome houtcome => ?_
  cases outcome with
  | ok environment =>
    refine ends_pure ?_
    rintro _ ⟨⟩
    exact houtcome
  | error f =>
    dsimp only
    split
    · refine (Inquiry.ends_report _ _ _).bind fun _ _ => ends_pure ?_
      rintro _ ⟨⟩
    · refine (Inquiry.ends_report _ _ _).bind fun _ _ => ends_pure ?_
      rintro _ ⟨⟩ f ⟨p, hp⟩
      cases hp

theorem ends_dropletOf (record : AppRecord) (space : Option Space) :
    (dropletOf record space).Ends (Inquiry.told faults) (fun _ => True) faults := by
  unfold dropletOf
  refine (Inquiry.ends_any (readDroplet record space)).settle_bind fun outcome _ => ?_
  cases outcome with
  | ok droplet => exact ends_pure trivial
  | error f => exact (Inquiry.ends_report _ _ _).bind fun _ _ => ends_pure trivial

/-- Once everything is read, only what is told by the record and the environment can fail. -/
theorem Mapper.assemble_eq_error {m : Mapper} {record : AppRecord} {found : Findings} {f : Fault}
    (h : m.assemble record found = .error f) : record.Blemish f ∨ EnvironmentBlemish found.environment f := by
  unfold Mapper.assemble at h
  rcases except_bind_eq_error.1 h with h | ⟨createdTime, -, h⟩
  · exact Or.inl (Or.inr (Or.inl h))
  rcases except_bind_eq_error.1 h with h | ⟨updatedTime, -, h⟩
  · exact Or.inl (Or.inr (Or.inr h))
  refine Or.inr ?_
  -- the variables of the build, those of the artifact, and that of the pipeline
  rcases except_bind_eq_error.1 h with h | ⟨build, -, h⟩
  · unfold BuildInfo.ofVariables at h
    rcases except_bind_eq_error.1 h with h | ⟨name, -, h⟩
    · exact ⟨_, h⟩
    rcases except_bind_eq_error.1 h with h | ⟨number, -, h⟩
    · exact ⟨_, h⟩
    rcases except_bind_eq_error.1 h with h | ⟨url, -, h⟩
    · exact ⟨_, h⟩
    cases h
  rcases except_bind_eq_error.1 h with h | ⟨artifact, -, h⟩
  · unfold ArtifactInfo.ofVariables at h
    rcases except_bind_eq_error.1 h with h | ⟨name, -, h⟩
    · exact ⟨_, h⟩
    rcases except_bind_eq_error.1 h with h | ⟨version, -, h⟩
    · exact ⟨_, h⟩
    rcases except_bind_eq_error.1 h with h | ⟨url, -, h⟩
    · exact ⟨_, h⟩
    cases h
  rcases except_bind_eq_error.1 h with h | ⟨pipelineId, -, h⟩
  · exact ⟨_, h⟩
  cases h

/-- **Putting a workload together** fails with what its calls fail with, and with what comes to light in the record and
in the answers. -/
theorem Mapper.ends_map (m : Mapper) {record : AppRecord} (hrecord : ∀ f, record.Blemish f → faults f) :
    (m.map record).Ends (Inquiry.told faults) (fun _ => True) faults := by
  unfold Mapper.map
  cases hstate : RunState.parse record.state with
  | error f => exact ends_throw (hrecord f (Or.inl hstate))
  | ok state =>
    rw [ofExcept_ok_bind]
    refine (ends_spaceOf record).bind fun space _ => (ends_environmentOf record).bind fun found hfound => ?_
    cases found with
    | refused => exact ends_pure trivial
    | read environment =>
      refine (Inquiry.ends_call (.process record.guid)).bind fun process _ =>
        (ends_dropletOf record space).bind fun droplet _ => ?_
      have hassembled : (Attempt.ofExcept (m.assemble record ⟨state, space, environment, process, droplet⟩) :
          Attempt Inquiry Workload).Ends (Inquiry.told faults) (fun _ => True) faults := by
        refine ends_ofExcept ?_
        cases hassemble : m.assemble record ⟨state, space, environment, process, droplet⟩ with
        | ok x => trivial
        | error f =>
          rcases Mapper.assemble_eq_error hassemble with hblemish | hblemish
          · exact hrecord f hblemish
          · exact hfound environment rfl f hblemish
      refine hassembled.bind fun x _ => ?_
      have hevaluated : (x.evaluate record).Ends (Contract.any Inquiry) (fun _ => True) faults :=
        (x.delivers_evaluate hstate).ends.mono (fun _ _ => trivial) fun _ => id
      have htold : (x.evaluate record).Ends (Inquiry.told faults) (fun _ => True) faults :=
        ⟨hevaluated.outcome.weaken (fun _ _ => trivial) fun _ _ _ => trivial⟩
      exact htold.bind fun _ _ => ends_pure trivial

/-! ## Operations -/

namespace Roster

open Keeping

variable (r : Roster)

/-- **A lookup by identifier** fails with nothing but a failed call: whatever else goes wrong is told as one. -/
theorem ends_findById (id : String) :
    (r.findById id).Ends (Contract.any Keeping) (fun _ => True) (·.isRemote = true) := by
  have hloaded : ∀ outcome, Ended (fun _ => True) (·.isRemote = true) (loaded outcome) := by
    intro outcome
    cases outcome with
    | ok w => trivial
    | error f =>
      unfold loaded
      dsimp only
      split
      · trivial
      · split
        · assumption
        · rfl
  have hlookup : (ask (.lookup id)).Ends (Contract.any Keeping) (fun _ => True) (·.isRemote = true) :=
    ends_ofProgram (Program.meets_of_asks (fun _ => trivial) _)
  unfold findById
  refine hlookup.bind fun cached _ => ?_
  cases cached with
  | some w => exact ends_pure trivial
  | none =>
    refine (ends_of_asks (fun _ => trivial) (r.loadAndStore id)).settle_bind fun outcome _ => ?_
    exact ends_ofExcept (hloaded outcome)

/-- What comes to light in a record comes to light in the answer that it is in. -/
theorem blemish_of_records {c : Call} {answer : c.Answer} {record : AppRecord} {f : Fault}
    (hrecord : record ∈ c.records answer) (hf : record.Blemish f) : c.Blemish answer f := by
  cases c with
  | listing =>
    cases answer with
    | none => cases hrecord
    | some page => exact ⟨page, rfl, record, hrecord, hf⟩
  | application | createApplication => exact ⟨record, Option.mem_toList.1 hrecord, hf⟩
  | _ => cases hrecord

/-- Records whose faults are such faults are put together, and fail with no others. -/
theorem admits_told :
    Admits (Keeping.told faults) (Inquiry.told faults) r.mapper faults (fun record => ∀ f, record.Blemish f → faults f)
      fun _ => True where
  asks _ _ := trivial
  replies _ _ := id
  call c := (Inquiry.ends_call c).mono
    (fun _ hanswer _ hrecord f hf => hanswer f (blemish_of_records hrecord hf)) fun _ => id
  report := Inquiry.ends_report
  map _ hrecord := (r.mapper.ends_map hrecord).mono (fun _ _ _ _ => trivial) fun _ => id
  parse _ f hrecord hparse := hrecord f (Or.inl hparse)

/-- A search by name and space fails with what its calls fail with and what comes to light, or because the environment
is refused. -/
theorem ends_findByNameAndSpace (hown : ∀ f : Fault, f.category.isOwn = true → faults f) (name space : String) :
    (r.findByNameAndSpace name space).Ends (Keeping.told faults) (fun _ => True) faults :=
  r.admits_told.ends_findByNameAndSpace (fun _ _ => trivial) (hown _ rfl) name space

theorem ends_findId (name space : String) :
    (r.findId name space).Ends (Keeping.told faults) (fun _ => True) faults :=
  r.admits_told.ends_findId (fun _ _ => trivial) trivial name space

theorem ends_create (hown : ∀ f : Fault, f.category.isOwn = true → faults f) (name : String) (space : Space)
    (env : Option (List (String × Value))) (lifecycle : Option Lifecycle) :
    (r.create name space env lifecycle).Ends (Keeping.told faults) (fun _ => True) faults :=
  r.admits_told.ends_create (hown _ rfl) (fun _ => hown _ rfl) name space env lifecycle

variable {r} {ω : Type} {A : Answering Keeping ω} {w w' : ω} {t : List (Exchange Keeping)}

/-- **A deletion** that succeeds has succeeded on the platform, and then drops the entry; what follows are reports. One
that fails has done nothing else. -/
theorem runs_delete_cases {id : String} {o : Except Fault Unit} (h : Attempt.Runs A (r.delete id) w t o w') :
    (∃ f, o = .error f ∧ t = [⟨.inquiry (.call (.deleteApplication id)), .error f⟩]) ∨
      ∃ held m m' rest, o = .ok () ∧
        t = ⟨.inquiry (.call (.deleteApplication id)), .ok ()⟩ :: ⟨.invalidate id, held⟩ :: rest ∧
        A (.inquiry (.call (.deleteApplication id))) w (.ok ()) m ∧ A (.invalidate id) m held m' ∧
        A.Leads m' rest w' ∧ ∀ e ∈ rest, e.request.isInquiry = true := by
  have hreport : ∀ {level text fields t o w w'}, Attempt.Runs A (report level text fields) w t o w' →
      o = .ok () ∧ ∀ e ∈ t, e.request.isInquiry = true := by
    intro level text fields t o w w' h
    obtain ⟨⟨⟩, ho, -⟩ := runs_ofProgram.1 h
    exact ⟨ho, inquiries_of_runs h⟩
  -- what comes of a drop is a report, or nothing
  have hdrop : ∀ {t o w w'}, Attempt.Runs A (drop id) w t o w' → o = .ok () ∧ ∃ held m rest,
      t = ⟨.invalidate id, held⟩ :: rest ∧ A (.invalidate id) w held m ∧ A.Leads m rest w' ∧
        ∀ e ∈ rest, e.request.isInquiry = true := by
    intro t o w w' h
    unfold drop at h
    obtain ⟨held, m, rest, rfl, hinvalidate, h⟩ := runs_ask_bind.1 h
    cases held with
    | true =>
      obtain ⟨ho, hrest⟩ := hreport h
      exact ⟨ho, true, m, rest, rfl, hinvalidate, h.leads, hrest⟩
    | false =>
      obtain ⟨rfl, ho, rfl⟩ := runs_pure.1 h
      exact ⟨ho, false, _, [], rfl, hinvalidate, Answering.Leads.nil _, List.forall_mem_nil _⟩
  unfold delete at h
  rcases runs_call_bind h with ⟨f, rfl, rfl, -⟩ | ⟨⟨⟩, m, rest, rfl, hcall, h⟩
  · exact Or.inl ⟨f, rfl, rfl⟩
  rcases runs_bind.1 h with ⟨f, rfl, hfailed⟩ | ⟨t₁, ⟨⟩, m', t₂, rfl, hdropped, hend⟩
  · cases (hdrop hfailed).1
  · obtain ⟨-, held, m'', rest, rfl, hinvalidate, hleads, hrest⟩ := hdrop hdropped
    obtain ⟨rfl, hlast⟩ := hreport hend
    exact Or.inr ⟨held, m, m'', rest ++ t₂, rfl, rfl, hcall, hinvalidate, hleads.append hend.leads,
      List.forall_mem_append.2 ⟨hrest, hlast⟩⟩

/-- A deletion fails if the platform's does, and with its fault. -/
theorem runs_delete {id : String} {o : Except Fault Unit} (h : Attempt.Runs A (r.delete id) w t o w') :
    Called t (.deleteApplication id) o := by
  rcases runs_delete_cases h with ⟨f, rfl, rfl⟩ | ⟨held, m, m', rest, rfl, rfl, -⟩
  · exact List.mem_singleton.2 rfl
  · exact List.mem_cons_self

/-- What the run state of an application implies about its process. -/
def implied : RunState → String
  | .started => "RUNNING"
  | .stopped => "DOWN"

/-- **The state of an application** is that of its process, and if there is none what its run state implies. -/
theorem runs_appState {id : String} {o : Except Fault String} (h : Attempt.Runs A (appState id) w t o w') :
    (∃ f, o = .error f ∧ ∃ c, Called t c (.error f)) ∨
      (∃ state, Called t (.processState id) (.ok (some state)) ∧ o = .ok state) ∨
      (Called t (.application id) (.ok none) ∧ o = .ok "DOWN") ∨
      ∃ record, Called t (.application id) (.ok (some record)) ∧ o = (RunState.parse record.state).map implied := by
  unfold appState at h
  rcases runs_call_bind h with ⟨f, rfl, rfl, -⟩ | ⟨state, m, rest, rfl, -, h⟩
  · exact Or.inl ⟨f, rfl, _, List.mem_singleton.2 rfl⟩
  cases state with
  | some state =>
    obtain ⟨rfl, rfl, -⟩ := runs_pure.1 h
    exact Or.inr (Or.inl ⟨state, List.mem_singleton.2 rfl, rfl⟩)
  | none =>
    rcases runs_call_bind h with ⟨f, rfl, rfl, -⟩ | ⟨found, m', rest', rfl, -, h⟩
    · exact Or.inl ⟨f, rfl, _, List.mem_cons_of_mem _ (List.mem_singleton.2 rfl)⟩
    cases found with
    | none =>
      obtain ⟨rfl, rfl, -⟩ := runs_pure.1 h
      exact Or.inr (Or.inr (Or.inl ⟨List.mem_cons_of_mem _ (List.mem_singleton.2 rfl), rfl⟩))
    | some record =>
      refine Or.inr (Or.inr (Or.inr ⟨record, List.mem_cons_of_mem _ List.mem_cons_self, ?_⟩))
      cases hstate : RunState.parse record.state with
      | error f =>
        dsimp only at h
        rw [hstate, ofExcept_error_bind] at h
        exact (runs_throw.1 h).2.1
      | ok state =>
        dsimp only at h
        rw [hstate, ofExcept_ok_bind] at h
        cases state with
        | started => exact (runs_pure.1 h).2.1
        | stopped => exact (runs_pure.1 h).2.1

/-! ## What operations fail with -/

/-- A fault of the library, or one that has come to light in what a call was answered. -/
def Excusable (t : List (Exchange Keeping)) (f : Fault) : Prop :=
  f.category.isOwn = true ∨ ∃ c answer, Called t c (.ok answer) ∧ c.Blemish answer f

/-- What is exchanged in a run tells which faults are excusable in it. -/
theorem told_excusable (hown : ∀ c f, Called t c (.error f) → f.category.isOwn = true) :
    ∀ e ∈ t, (Keeping.told (Excusable t)).replies e.request e.reply := by
  rintro ⟨request, reply⟩ he
  cases request with
  | inquiry q =>
    cases q with
    | call c =>
      cases reply with
      | error f => exact Or.inl (hown c f he)
      | ok answer => exact fun f hf => Or.inr ⟨c, answer, he, hf⟩
    | report event => trivial
    | clock => trivial
  | _ => trivial

/-- A record that was fetched was on some page. -/
theorem mem_fetched {record : AppRecord} (h : record ∈ fetched t) :
    ∃ page size names spaces p, Called t (.listing page size names spaces) (.ok (some p)) ∧ record ∈ p.resources := by
  obtain ⟨e, he, hrecord⟩ := List.mem_flatMap.1 h
  unfold recordsOf at hrecord
  split at hrecord
  · exact ⟨_, _, _, _, _, he, hrecord⟩
  · cases hrecord

/-- **What operations fail with**, in any state and whatever is answered, as long as the calls that they make themselves
fail with nothing but faults of the library. A lookup by identifier fails with nothing but failed calls, and a deletion
with nothing but faults of the library. A cycle is aborted, or the pool rejected a submission with that fault and it is
no runtime error, or the time of a listed record cannot be read. The other operations fail with faults of the library,
with what comes to light in an answer, and, where there is a cycle and workloads are grouped, with what the pool
rejected a submission with or with a name that cannot be resolved. The state of an application that has no process is
what its run state implies. -/
theorem failures (r : Roster) (A : Answering Keeping ω) (w w' : ω) (t : List (Exchange Keeping))
    (hown : ∀ c f, Called t c (.error f) → f.category.isOwn = true) :
    (∀ id f, Attempt.Runs A (r.findById id) w t (.error f) w' → f.isRemote = true) ∧
    (∀ name space f, Attempt.Runs A (r.findByNameAndSpace name space) w t (.error f) w' → Excusable t f) ∧
    (∀ name space f, Attempt.Runs A (r.findId name space) w t (.error f) w' → Excusable t f) ∧
    (∀ name space env lifecycle f, Attempt.Runs A (r.create name space env lifecycle) w t (.error f) w' →
      Excusable t f) ∧
    (∀ id f, Attempt.Runs A (r.delete id) w t (.error f) w' → f.category.isOwn = true) ∧
    (∀ id o, Attempt.Runs A (appState id) w t o w' →
      (∃ f, o = .error f ∧ f.category.isOwn = true) ∨
        (∃ state, Called t (.processState id) (.ok (some state)) ∧ o = .ok state) ∨
        (Called t (.application id) (.ok none) ∧ o = .ok "DOWN") ∨
        ∃ record, Called t (.application id) (.ok (some record)) ∧ o = (RunState.parse record.state).map implied) ∧
    (∀ records f, Attempt.Runs A (r.refresh records) w t (.error f) w' →
      f.category = .refreshAborted ∨ Refused t f ∨ ∃ record ∈ records, record.updatedMillis = .error f) ∧
    ∀ spaces f, Attempt.Runs A (r.all spaces) w t (.error f) w' →
      Excusable t f ∨ Refused t f ∨ ∃ ws, ⟨.values, ws⟩ ∈ t ∧ ∃ x ∈ ws, r.naming x.name = .error f := by
  have htold := told_excusable hown
  refine ⟨?_, ?_, ?_, ?_, ?_, ?_, ?_, ?_⟩
  · intro id f h
    exact ((r.ends_findById id).of_trace h fun _ _ => trivial).1
  · intro name space f h
    exact ((r.ends_findByNameAndSpace (fun _ => Or.inl) name space).of_trace h htold).1
  · intro name space f h
    exact ((r.ends_findId name space).of_trace h htold).1
  · intro name space env lifecycle f h
    exact ((r.ends_create (fun _ => Or.inl) name space env lifecycle).of_trace h htold).1
  · intro id f h
    exact hown _ f (runs_delete h)
  · intro id o h
    rcases runs_appState h with ⟨f, rfl, c, hc⟩ | hanswered
    · exact Or.inl ⟨f, rfl, hown c f hc⟩
    · exact Or.inr hanswered
  · intro records f h
    exact (rounds_of_refresh h).1.imp of_decide_eq_true id
  · intro spaces f h
    rcases runs_all r spaces h with ⟨f', ho, ⟨c, hc⟩, -⟩ | ⟨t₁, m, t₂, asked, rfl, -, -, -, hpresent⟩
    · cases ho
      exact Or.inl (Or.inl (hown c f hc))
    obtain ⟨-, ⟨f', ho, hrefresh⟩ | ⟨t₃, done, m', ws, m'', t₄, rfl, -, -, hgroup⟩⟩ := runs_present r hpresent
    · -- the cycle failed: it was aborted, the pool refused work, or the time of a record on some page cannot be read
      cases ho
      have hends := (rounds_of_refresh hrefresh).1
      rcases hends with haborted | hrefused | ⟨record, hrecord, hf⟩
      · refine Or.inl (Or.inl ?_)
        rw [of_decide_eq_true haborted]
        rfl
      · exact Or.inr (Or.inl (refused_append.2 (Or.inr hrefused)))
      · obtain ⟨page, size, names, spaces, p, hcalled, hmem⟩ := mem_fetched hrecord
        exact Or.inl (Or.inr ⟨_, _, called_append.2 (Or.inl hcalled), p, rfl, record, hmem, Or.inr (Or.inr hf)⟩)
    · -- the view failed: a name among the values cannot be resolved
      have hends : (inquire (r.grouper.group ws)).Ends (rounds fun _ => False) (fun _ => True)
          fun f => ∃ x ∈ ws, r.naming x.name = .error f := ends_inquire_group r ws
      refine Or.inr (Or.inr ⟨ws, ?_, (hends.of_trace hgroup fun _ _ => trivial).1⟩)
      exact List.mem_append_right _ (List.mem_append_right _ List.mem_cons_self)

/-- A platform that answers with one and the same application, whichever is asked for, and knows of no process. -/
def processless (record : AppRecord) : Facts where
  call
    | .application _ => .ok (some record)
    | .processState _ => .ok none
    | _ => .error (.reported (.of .remote none none none))
  clock := .whole 0

/-- What is exchanged when such a platform is asked for the state of an application. -/
theorem runs_appState_processless (record : AppRecord) (s : Session Nat Unit) :
    Attempt.Runs (Session.answer (processless record).platform).answering (appState "app-1") s
      [⟨.inquiry (.call (.processState "app-1")), .ok none⟩,
        ⟨.inquiry (.call (.application "app-1")), .ok (some record)⟩]
      ((RunState.parse record.state).map implied) s := by
  refine Program.Runs.ask rfl (Program.Runs.ask rfl ?_)
  -- nothing is exchanged any more
  cases hstate : RunState.parse record.state with
  | error f =>
    show Attempt.Runs _ (Attempt.ofExcept (RunState.parse record.state) >>= _) _ _ _ _
    rw [hstate, ofExcept_error_bind]
    exact runs_throw.2 ⟨rfl, rfl, rfl⟩
  | ok state =>
    show Attempt.Runs _ (Attempt.ofExcept (RunState.parse record.state) >>= _) _ _ _ _
    rw [hstate, ofExcept_ok_bind]
    cases state with
    | started => exact runs_pure.2 ⟨rfl, rfl, rfl⟩
    | stopped => exact runs_pure.2 ⟨rfl, rfl, rfl⟩

/-- No call fails there. -/
theorem not_called_error_processless {record : AppRecord} {c : Call} {f : Fault}
    (h : Called [⟨.inquiry (.call (.processState "app-1")), .ok none⟩,
      ⟨.inquiry (.call (.application "app-1")), .ok (some record)⟩] c (.error f)) : False := by
  rcases List.mem_cons.1 h with hfirst | hrest
  · cases hfirst
  · cases List.mem_singleton.1 hrest

/-- A stopped application without a process is down. -/
theorem failures_stopped :
    ∃ t o, Attempt.Runs (Session.answer (processless (webApp "app-1" "STOPPED")).platform).answering (appState "app-1")
        bareSession t o bareSession ∧
      (∀ c f, Called t c (.error f) → f.category.isOwn = true) ∧ o = .ok "DOWN" ∧
      ((∃ f, o = .error f ∧ f.category.isOwn = true) ∨
        (∃ state, Called t (.processState "app-1") (.ok (some state)) ∧ o = .ok state) ∨
        (Called t (.application "app-1") (.ok none) ∧ o = .ok "DOWN") ∨
        ∃ record, Called t (.application "app-1") (.ok (some record)) ∧
          o = (RunState.parse record.state).map implied) := by
  have h := runs_appState_processless (webApp "app-1" "STOPPED") bareSession
  have hown : ∀ c f, Called [⟨.inquiry (.call (.processState "app-1")), .ok none⟩,
      ⟨.inquiry (.call (.application "app-1")), .ok (some (webApp "app-1" "STOPPED"))⟩] c (.error f) →
      f.category.isOwn = true :=
    fun c f hcalled => (not_called_error_processless hcalled).elim
  obtain ⟨-, -, -, -, -, happState, -, -⟩ := failures bare _ bareSession bareSession _ hown
  exact ⟨_, _, h, hown, rfl, happState "app-1" _ h⟩

/-- The state of an application that is in a run state which nobody knows is no state but a fault that is not the
library's, though no call has failed. -/
theorem appState_of_unknown :
    ∃ t, Attempt.Runs (Session.answer (processless (webApp "app-1" "STAGING")).platform).answering (appState "app-1")
        bareSession t (.error (.unknownRunState "STAGING")) bareSession ∧
      (∀ c f, Called t c (.error f) → f.category.isOwn = true) ∧
      (Fault.unknownRunState "STAGING").category.isOwn = false := by
  have h := runs_appState_processless (webApp "app-1" "STAGING") bareSession
  have hunknown : (RunState.parse (webApp "app-1" "STAGING").state).map implied
      = .error (.unknownRunState "STAGING") := by
    rfl
  rw [hunknown] at h
  exact ⟨_, h, fun c f hcalled => (not_called_error_processless hcalled).elim, rfl⟩

end Roster

end Steward
