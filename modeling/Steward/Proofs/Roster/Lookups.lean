import Steward.Roster.Lookup
import Steward.Proofs.Program.Endings

/-!
# Lookups and changes under a contract

What is looked up by name, and what is changed on the platform, is a matter of inquiries, and of storing what they come
to. So such a program keeps every contract that admits inquiries and those stores, and it fails with what its inquiries
fail with. The programs are walked through once here. What is known of answers, of the workloads put together from them
and of faults is up to the contract: `Keeping.Admits`.

## Contents

* `Call.records` — the records in an answer;
* `Keeping.Admits` — contracts for which this is enough; `admits_any` — where nothing is known of answers;
* `Admits.ends_findRemotely`, `ends_findByNameAndSpace`, `ends_findId`, `ends_appState`, `ends_create`, `ends_delete` —
  the programs.
-/

namespace Steward

open Attempt

/-- The records in the answer to a call. -/
def Call.records : (c : Call) → c.Answer → List AppRecord
  | .listing _ _ _ _, page => page.elim [] (·.resources)
  | .application _, found => found.toList
  | .createApplication _ _ _ _, created => created.toList
  | _, _ => []

namespace Keeping

/-- **The contract admits inquiries** that keep a contract of their own and fail with such faults. Records that are
answered are fit, and workloads that are put together from fit records may be kept. -/
structure Admits (K : Contract Keeping) (I : Contract Inquiry) (m : Mapper) (faults : Fault → Prop)
    (fit : AppRecord → Prop) (kept : Workload → Prop) : Prop where
  asks : ∀ q, I.asks q → K.asks (.inquiry q)
  replies : ∀ q reply, K.replies (.inquiry q) reply → I.replies q reply
  call : ∀ c, (Inquiry.call c).Ends I (fun answer => ∀ record ∈ c.records answer, fit record) faults
  report : ∀ level text fields, (Inquiry.report level text fields).Ends I (fun _ => True) faults
  map : ∀ record, fit record → (m.map record).Ends I (fun mapped => ∀ w, mapped = some w → kept w) faults
  parse : ∀ record f, fit record → RunState.parse record.state = .error f → faults f

/-- If all inquiries are allowed, it is enough that whatever they come to may be kept, and that any fault will do. -/
theorem admits_any {K : Contract Keeping} (h : ∀ q, K.asks (.inquiry q)) (m : Mapper) :
    Admits K (Contract.any Inquiry) m (fun _ => True) (fun _ => True) fun _ => True where
  asks q _ := h q
  replies _ _ _ := trivial
  call _ := (ends_of_asks (fun _ => trivial) _).mono (fun _ _ _ _ => trivial) fun _ => id
  report _ _ _ := ends_of_asks (fun _ => trivial) _
  map _ _ := (ends_of_asks (fun _ => trivial) _).mono (fun _ _ _ _ => trivial) fun _ => id
  parse _ _ _ _ := trivial

theorem ends_ask {K : Contract Keeping} {faults : Fault → Prop} {r : Keeping.Request} (hr : K.asks r) :
    (ask r).Ends K (K.replies r) faults :=
  ends_ofProgram (Program.Meets.ask hr fun _ hreply => Program.Meets.done hreply)

namespace Admits

variable {K : Contract Keeping} {I : Contract Inquiry} {r : Roster} {faults : Fault → Prop} {fit : AppRecord → Prop}
  {kept : Workload → Prop}

/-- A keeper inquires as anybody does. -/
theorem ends_inquire (h : Admits K I r.mapper faults fit kept) {α : Type} {post : α → Prop} {p : Attempt Inquiry α}
    (hp : p.Ends I post faults) : (inquire p).Ends K post faults :=
  hp.lift fun q hq => Program.Meets.ask (h.asks q hq) fun reply hreply => Program.Meets.done (h.replies q reply hreply)

theorem ends_report (h : Admits K I r.mapper faults fit kept) (level : Level) (text : String)
    (fields : List (String × Value)) : (Keeping.report level text fields).Ends K (fun _ => True) faults :=
  h.ends_inquire (h.report level text fields)

/-! ## Lookups -/

theorem ends_findRecord (h : Admits K I r.mapper faults fit kept) (name space : String) :
    (Roster.findRecord name space).Ends K (fun found => ∀ record, found = some record → fit record) faults := by
  unfold Roster.findRecord
  refine (h.ends_inquire (h.call (.listing none 1 (some [name]) (some space)))).bind fun page hpage => ?_
  split
  · refine ends_pure ?_
    rintro _ ⟨⟩
    exact hpage _ List.mem_cons_self
  · refine ends_pure ?_
    rintro _ ⟨⟩

/-- What is found on the platform is kept under its own identifier. -/
theorem ends_findRemotely (h : Admits K I r.mapper faults fit kept) (hstore : ∀ w, kept w → K.asks (.store w.id w))
    (name space : String) : (r.findRemotely name space).Ends K (fun _ => True) faults := by
  unfold Roster.findRemotely
  refine (h.ends_findRecord name space).bind fun found hfound => ?_
  cases found with
  | none => exact ends_pure trivial
  | some record =>
    refine (h.ends_inquire (h.map record (hfound record rfl))).bind fun mapped hmapped => ?_
    cases mapped with
    | none => exact ends_pure trivial
    | some w => exact (ends_ask (hstore w (hmapped w rfl))).bind fun _ _ => ends_pure trivial

theorem ends_findByNameAndSpace (h : Admits K I r.mapper faults fit kept)
    (hstore : ∀ w, kept w → K.asks (.store w.id w)) (hrefused : faults .detailsRefused) (name space : String) :
    (r.findByNameAndSpace name space).Ends K (fun _ => True) faults := by
  unfold Roster.findByNameAndSpace
  refine (h.ends_findRemotely hstore name space).bind fun found _ => ?_
  cases found with
  | missing | found => exact ends_pure trivial
  | unreadable => exact ends_throw hrefused

theorem ends_findId (h : Admits K I r.mapper faults fit kept) (hstore : ∀ w, kept w → K.asks (.store w.id w))
    (hvalues : K.asks .values) (name space : String) : (r.findId name space).Ends K (fun _ => True) faults := by
  unfold Roster.findId
  refine (ends_ask hvalues).bind fun ws _ => ?_
  split
  · exact ends_pure trivial
  · refine (h.ends_findRemotely hstore name space).bind fun found _ => ?_
    cases found with
    | found | missing | unreadable => exact ends_pure trivial

theorem ends_appState (h : Admits K I r.mapper faults fit kept) (id : String) :
    (Roster.appState id).Ends K (fun _ => True) faults := by
  unfold Roster.appState
  refine (h.ends_inquire (h.call (.processState id))).bind fun state _ => ?_
  cases state with
  | some state => exact ends_pure trivial
  | none =>
    refine (h.ends_inquire (h.call (.application id))).bind fun found hfound => ?_
    cases found with
    | none => exact ends_pure trivial
    | some record =>
      have hstate : (Attempt.ofExcept (RunState.parse record.state) : Attempt Keeping RunState).Ends K (fun _ => True)
          faults := by
        refine ends_ofExcept ?_
        cases hparse : RunState.parse record.state with
        | ok state => trivial
        | error f => exact h.parse record f (hfound record List.mem_cons_self) hparse
      refine hstate.bind fun state _ => ?_
      cases state with
      | started | stopped => exact ends_pure trivial

/-! ## Changes -/

theorem ends_create (h : Admits K I r.mapper faults fit kept) (hunanswered : faults .creationUnanswered)
    (hunreadable : ∀ id, faults (.creationNotReadable id)) (name : String) (space : Space)
    (env : Option (List (String × Value))) (lifecycle : Option Lifecycle) :
    (r.create name space env lifecycle).Ends K (fun _ => True) faults := by
  unfold Roster.create
  refine (h.ends_inquire (h.call (.createApplication name space.id env lifecycle))).bind fun created hcreated => ?_
  cases created with
  | none => exact ends_throw hunanswered
  | some record =>
    refine (h.ends_inquire (h.map record (hcreated record List.mem_cons_self))).bind fun mapped _ => ?_
    cases mapped with
    | none => exact ends_throw (hunreadable _)
    | some w => exact (h.ends_report _ _ _).bind fun _ _ => ends_pure trivial

/-- What is dropped has to be allowed to be. -/
theorem ends_drop (h : Admits K I r.mapper faults fit kept) {key : String} (hdrop : K.asks (.invalidate key)) :
    (drop key).Ends K (fun _ => True) faults := by
  unfold drop
  refine (ends_ask hdrop).bind fun held _ => ?_
  cases held with
  | true => exact h.ends_report _ _ _
  | false => exact ends_pure trivial

theorem ends_delete (h : Admits K I r.mapper faults fit kept) {id : String} (hdrop : K.asks (.invalidate id)) :
    (r.delete id).Ends K (fun _ => True) faults := by
  unfold Roster.delete
  refine (h.ends_inquire (h.call (.deleteApplication id))).bind fun _ _ => ?_
  exact (h.ends_drop hdrop).bind fun _ _ => h.ends_report _ _ _

end Admits

end Keeping

end Steward
