import Steward.Proofs.Grouping.Filing
import Steward.Proofs.Roster.Keeper
import Steward.Proofs.Roster.Rounds

/-!
# The pages of a listing

What a keeper learns from the platform is in what it exchanges: which calls it made, and what they were answered.
`Roster.all` makes no calls but those for the pages of its listing. It asks for them in order, and works on all records
that it was given; a page that cannot be had ends it at once, before it has requested anything else.

## Contents

* `Keeping.Called`, `Keeping.calls`, `Keeping.fetched`, `Keeping.Vanishes` — calls in what was exchanged;
* `Keeping.runs_call_bind` — a call and what follows; `Keeping.inquiring` — programs that only inquire;
* `Roster.Paged`, `Roster.runs_laterPages`, `Roster.runs_listing` — the pages of a listing;
* `Roster.present`, `Roster.runs_present` — a cycle and the view after it, which make no calls;
* `Roster.runs_all` — a listing, then a cycle and a view.
-/

namespace Steward

open Attempt

namespace Keeping

/-! ## Calls -/

/-- The call was made, and answered so. -/
def Called (t : List (Exchange Keeping)) (c : Call) (reply : Except Fault c.Answer) : Prop :=
  ⟨.inquiry (.call c), reply⟩ ∈ t

/-- The call of an exchange. -/
def callOf? : Exchange Keeping → Option Call
  | ⟨.inquiry (.call c), _⟩ => some c
  | _ => none

/-- The calls that were made, in order. -/
def calls (t : List (Exchange Keeping)) : List Call :=
  t.filterMap callOf?

/-- The records on a page that was answered. -/
def recordsOf : Exchange Keeping → List AppRecord
  | ⟨.inquiry (.call (.listing _ _ _ _)), .ok (some page)⟩ => page.resources
  | _ => []

/-- The records on all pages that were answered, in order. -/
def fetched (t : List (Exchange Keeping)) : List AppRecord :=
  t.flatMap recordsOf

/-- A page was asked for that is not there. -/
def Vanishes : Exchange Keeping → Prop
  | ⟨.inquiry (.call (.listing _ _ _ _)), .ok none⟩ => True
  | _ => False

theorem calls_append (t₁ t₂ : List (Exchange Keeping)) : calls (t₁ ++ t₂) = calls t₁ ++ calls t₂ :=
  List.filterMap_append

theorem fetched_append (t₁ t₂ : List (Exchange Keeping)) : fetched (t₁ ++ t₂) = fetched t₁ ++ fetched t₂ :=
  List.flatMap_append

theorem called_append {t₁ t₂ : List (Exchange Keeping)} {c : Call} {reply : Except Fault c.Answer} :
    Called (t₁ ++ t₂) c reply ↔ Called t₁ c reply ∨ Called t₂ c reply :=
  List.mem_append

/-- What was called for is among the calls. -/
theorem Called.mem_calls {t : List (Exchange Keeping)} {c : Call} {reply : Except Fault c.Answer}
    (h : Called t c reply) : c ∈ calls t :=
  List.mem_filterMap.2 ⟨_, h, rfl⟩

/-! ## Single calls -/

variable {ω : Type} {A : Answering Keeping ω} {w w' : ω} {t : List (Exchange Keeping)} {α : Type}

/-- A call is a single request, and its outcome is what it was answered. -/
theorem runs_call {c : Call} {o : Except Fault c.Answer} :
    Attempt.Runs A (inquire (Inquiry.call c)) w t o w' ↔
      t = [⟨.inquiry (.call c), o⟩] ∧ A (.inquiry (.call c)) w o w' :=
  Program.runs_request (I := Keeping) (r := .inquiry (.call c))

/-- A call that fails ends a program; one that is answered lets it go on. -/
theorem runs_call_bind {c : Call} {f : c.Answer → Attempt Keeping α} {o : Except Fault α}
    (h : Attempt.Runs A (inquire (Inquiry.call c) >>= f) w t o w') :
    (∃ e, o = .error e ∧ t = [⟨.inquiry (.call c), .error e⟩] ∧ A (.inquiry (.call c)) w (.error e) w') ∨
      ∃ a m rest, t = ⟨.inquiry (.call c), .ok a⟩ :: rest ∧ A (.inquiry (.call c)) w (.ok a) m ∧
        Attempt.Runs A (f a) m rest o w' := by
  rcases Attempt.runs_bind.1 h with ⟨e, rfl, he⟩ | ⟨t₁, a, m, t₂, rfl, hcall, hrest⟩
  · obtain ⟨rfl, answer⟩ := runs_call.1 he
    exact Or.inl ⟨e, rfl, rfl, answer⟩
  · obtain ⟨rfl, answer⟩ := runs_call.1 hcall
    exact Or.inr ⟨a, m, t₂, rfl, answer, hrest⟩

/-- A report and what follows. -/
theorem runs_report_bind {level : Level} {text : String} {fields : List (String × Value)}
    {f : Unit → Attempt Keeping α} {o : Except Fault α}
    (h : Attempt.Runs A (report level text fields >>= f) w t o w') :
    ∃ e m rest, t = ⟨.inquiry (.report e), ()⟩ :: rest ∧ A (.inquiry (.report e)) w () m ∧
      Attempt.Runs A (f ()) m rest o w' := by
  have hask : Attempt.Runs A (ofProgram (Program.request (I := Keeping) (.inquiry (.report ⟨level, text, fields⟩)))
      >>= f) w t o w' := h
  obtain ⟨⟨⟩, m, rest, rfl, answer, hrest⟩ := runs_request_bind.1 hask
  exact ⟨_, m, rest, rfl, answer, hrest⟩

/-! ## Programs that only inquire -/

/-- Whether a request is an inquiry, which has nothing to do with the cache. -/
def Request.isInquiry : Keeping.Request → Bool
  | .inquiry _ => true
  | _ => false

/-- Nothing but inquiries. -/
def inquiring : Contract Keeping where
  asks r := r.isInquiry = true
  replies _ _ := True

theorem ends_inquire (p : Attempt Inquiry α) : (inquire p).Ends inquiring (fun _ => True) fun _ => True := by
  have hp : p.Ends (Contract.any Inquiry) (fun _ => True) fun _ => True := ends_of_asks (fun _ => trivial) p
  exact hp.lift fun _ _ => Program.Meets.ask rfl fun _ _ => Program.Meets.done trivial

/-- A program that only inquires requests inquiries. -/
theorem inquiries_of_runs {p : Attempt Inquiry α} {o : Except Fault α} (h : Attempt.Runs A (inquire p) w t o w') :
    ∀ e ∈ t, e.request.isInquiry = true :=
  ((ends_inquire p).of_trace h fun _ _ => trivial).2

end Keeping

namespace Roster

open Keeping

variable {ω : Type} {A : Answering Keeping ω} {w w' : ω} {t : List (Exchange Keeping)}

/-! ## Pages -/

/-- The call for a page of the listing of some spaces. -/
def pageCall (r : Roster) (spaces : Option (List String)) (page : Int) : Call :=
  .listing (some page) r.pageSize none (spaceFilter spaces)

/-- The calls for so many pages from a page on. -/
def pageCalls (r : Roster) (spaces : Option (List String)) : Nat → Int → List Call
  | 0, _ => []
  | left + 1, page => r.pageCall spaces page :: pageCalls r spaces left (page + 1)

/-- **How pages were collected.** Nothing but inquiries was made. If a page could not be had, that is the end; if not,
what was collected is what was fetched, and unless some page had vanished, these were the calls. -/
structure Paged (t : List (Exchange Keeping)) (o : Except Fault (List AppRecord)) (asked : List Call) : Prop where
  inquiries : ∀ e ∈ t, e.request.isInquiry = true
  failed : ∀ c f, Called t c (.error f) → o = .error f
  fails : ∀ f, o = .error f → ∃ c, Called t c (.error f)
  collected : ∀ records, o = .ok records → records = fetched t
  calls : ∀ records, o = .ok records → (∀ e ∈ t, ¬ Vanishes e) → Keeping.calls t = asked

namespace Paged

variable {o : Except Fault (List AppRecord)} {asked : List Call}

/-- A page that cannot be had is the end. -/
theorem of_failed {c : Call} {f : Fault} {asked : List Call} :
    Paged [⟨.inquiry (.call c), .error f⟩] (.error f) asked where
  inquiries := List.forall_mem_singleton.2 rfl
  failed := by
    intro c' f' hcalled
    cases List.mem_singleton.1 hcalled
    rfl
  fails := by
    rintro _ ⟨⟩
    exact ⟨c, List.mem_singleton.2 rfl⟩
  collected := by
    rintro records ⟨⟩
  calls := by
    rintro records ⟨⟩

/-- A page that has vanished ends the listing. -/
theorem of_vanished {r : Roster} {spaces : Option (List String)} {page : Int} {asked : List Call} :
    Paged [⟨.inquiry (.call (r.pageCall spaces page)), .ok none⟩] (.ok []) asked where
  inquiries := List.forall_mem_singleton.2 rfl
  failed := by
    intro c f hcalled
    cases List.mem_singleton.1 hcalled
  fails := by
    rintro f ⟨⟩
  collected := by
    rintro _ ⟨⟩
    rfl
  calls := by
    intro records _ hthere
    exact absurd trivial (hthere _ (List.mem_singleton.2 rfl))

/-- A report belongs to no page. -/
theorem reported (h : Paged t o asked) (event : Event) :
    Paged (t ++ [⟨.inquiry (.report event), ()⟩]) o asked where
  inquiries := List.forall_mem_append.2 ⟨h.inquiries, List.forall_mem_singleton.2 rfl⟩
  failed := by
    intro c f hcalled
    rcases called_append.1 hcalled with hcalled | hreport
    · exact h.failed c f hcalled
    · cases List.mem_singleton.1 hreport
  fails := by
    intro f hf
    obtain ⟨c, hc⟩ := h.fails f hf
    exact ⟨c, called_append.2 (Or.inl hc)⟩
  collected := by
    intro records hrecords
    rw [h.collected records hrecords, fetched_append]
    exact (List.append_nil _).symm
  calls := by
    intro records hrecords hthere
    rw [← h.calls records hrecords fun e he => hthere e (List.mem_append_left _ he), Keeping.calls_append]
    exact List.append_nil _

/-- A page stands before the pages that come after it. -/
theorem cons (h : Paged t o asked) (r : Roster) (spaces : Option (List String)) (page : Int) (p : Page AppRecord) :
    Paged (⟨.inquiry (.call (r.pageCall spaces page)), .ok (some p)⟩ :: t) (o.map (p.resources ++ ·))
      (r.pageCall spaces page :: asked) where
  inquiries := List.forall_mem_cons.2 ⟨rfl, h.inquiries⟩
  failed := by
    intro c f hcalled
    rcases List.mem_cons.1 hcalled with hhead | hrest
    · cases hhead
    · rw [h.failed c f hrest]
      rfl
  fails := by
    intro f hf
    cases o with
    | ok records => cases hf
    | error e =>
      obtain ⟨c, hc⟩ := h.fails e rfl
      cases hf
      exact ⟨c, List.mem_cons_of_mem _ hc⟩
  collected := by
    intro records hrecords
    cases o with
    | error e => cases hrecords
    | ok others =>
      cases hrecords
      rw [h.collected others rfl]
      rfl
  calls := by
    intro records hrecords hthere
    cases o with
    | error e => cases hrecords
    | ok others =>
      rw [← h.calls others rfl (List.forall_mem_cons.1 hthere).2]
      rfl

end Paged

/-- The pages after the first. -/
theorem runs_laterPages (r : Roster) (spaces : Option (List String)) {left : Nat} {page : Int}
    {o : Except Fault (List AppRecord)}
    (h : Attempt.Runs A (laterPages report "applications" (fun page => inquire (Inquiry.call (r.pageCall spaces page)))
      left page) w t o w') :
    Paged t o (r.pageCalls spaces left page) := by
  induction left generalizing page w w' t o with
  | zero =>
    obtain ⟨rfl, rfl, -⟩ := runs_pure.1 h
    refine ⟨List.forall_mem_nil _, fun c f hcalled => ?_, fun f hf => ?_, ?_, fun _ _ _ => rfl⟩
    · cases hcalled
    · cases hf
    · rintro _ ⟨⟩
      rfl
  | succ left ih =>
    unfold laterPages at h
    rcases runs_call_bind h with ⟨e, rfl, rfl, -⟩ | ⟨found, m, rest, rfl, -, h⟩
    · exact Paged.of_failed
    cases found with
    | none =>
      obtain ⟨event, m', rest', rfl, -, h⟩ := runs_report_bind h
      obtain ⟨rfl, rfl, -⟩ := runs_pure.1 h
      exact Paged.of_vanished.reported event
    | some p =>
      -- the pages after this one follow, and only their outcome is put behind it
      rcases runs_bind.1 h with ⟨e, rfl, he⟩ | ⟨t₁, others, m', t₂, rfl, hothers, h⟩
      · exact (ih he).cons r spaces page p
      · obtain ⟨rfl, rfl, -⟩ := runs_pure.1 h
        rw [List.append_nil]
        exact (ih hothers).cons r spaces page p

/-- The listing of some spaces. -/
def listing (r : Roster) (spaces : Option (List String)) : Attempt Keeping (List AppRecord) :=
  collectPages report "applications" fun page => inquire (Inquiry.call (r.pageCall spaces page))

/-- **A listing** asks for its pages in order, each once, and comes to the records on them. -/
theorem runs_listing (r : Roster) (spaces : Option (List String)) {o : Except Fault (List AppRecord)}
    (h : Attempt.Runs A (r.listing spaces) w t o w') :
    ∃ asked, Paged t o asked ∧ ∀ records, o = .ok records → (∀ e ∈ t, ¬ Vanishes e) →
      ∃ first, Called t (r.pageCall spaces 1) (.ok (some first)) ∧
        asked = r.pageCalls spaces ((first.totalPages - 1).toNat + 1) 1 := by
  unfold listing collectPages at h
  rcases runs_call_bind h with ⟨e, rfl, rfl, -⟩ | ⟨found, m, rest, rfl, -, h⟩
  · refine ⟨[], Paged.of_failed, ?_⟩
    rintro records ⟨⟩
  cases found with
  | none =>
    obtain ⟨rfl, rfl, -⟩ := runs_pure.1 h
    refine ⟨[], Paged.of_vanished, ?_⟩
    intro records _ hthere
    exact absurd trivial (hthere _ (List.mem_singleton.2 rfl))
  | some first =>
    refine ⟨_, ?_, fun records _ _ => ⟨first, List.mem_cons_self, rfl⟩⟩
    rcases runs_bind.1 h with ⟨e, rfl, he⟩ | ⟨t₁, others, m', t₂, rfl, hothers, h⟩
    · exact (runs_laterPages r spaces he).cons r spaces 1 first
    · obtain ⟨event, m'', rest, rfl, -, h⟩ := runs_report_bind h
      obtain ⟨rfl, rfl, -⟩ := runs_pure.1 h
      exact ((runs_laterPages r spaces hothers).reported event).cons r spaces 1 first

/-- A report belongs to no page. -/
theorem Paged.afterReport {o : Except Fault (List AppRecord)} {asked : List Call} (h : Paged t o asked)
    (event : Event) :
    Paged (⟨.inquiry (.report event), ()⟩ :: t) o asked where
  inquiries := List.forall_mem_cons.2 ⟨rfl, h.inquiries⟩
  failed := by
    intro c f hcalled
    rcases List.mem_cons.1 hcalled with hreport | hcalled
    · cases hreport
    · exact h.failed c f hcalled
  fails := by
    intro f hf
    obtain ⟨c, hc⟩ := h.fails f hf
    exact ⟨c, List.mem_cons_of_mem _ hc⟩
  collected := h.collected
  calls := fun records hrecords hthere => h.calls records hrecords (List.forall_mem_cons.1 hthere).2

/-! ## Views -/

/-- A cycle over a listing, and the view of what is cached then. -/
def present (r : Roster) (records : List AppRecord) : Attempt Keeping (List Application) := do
  let _ ← r.refresh records
  let workloads ← ask .values
  inquire (r.grouper.group workloads)

/-- Grouping belongs to the rounds of a keeper, and fails only where a name cannot be resolved. -/
theorem ends_inquire_group (r : Roster) (workloads : List Workload) :
    (inquire (r.grouper.group workloads)).Ends (rounds fun _ => False) (fun _ => True)
      fun f => ∃ x ∈ workloads, r.naming x.name = .error f := by
  have hgroup := (r.grouper.ends_group workloads).mono (fun _ _ => trivial) fun _ => id
  refine hgroup.lift fun q hq => ?_
  cases q with
  | report event => exact Program.Meets.ask trivial fun _ _ => Program.Meets.done trivial
  | call c => exact hq.elim
  | clock => exact hq.elim

/-- Rounds make no calls. -/
theorem calls_of_rounds {gone : String → Prop} (h : ∀ e ∈ t, (rounds gone).asks e.request) : Keeping.calls t = [] := by
  refine List.filterMap_eq_nil_iff.2 fun e he => ?_
  have hrequest := h e he
  obtain ⟨request, reply⟩ := e
  cases request with
  | inquiry q =>
    cases q with
    | call c => exact hrequest.elim
    | report event => rfl
    | clock => rfl
  | _ => rfl

/-- **A view** is taken of the values that are cached after the cycle, if that ends well. No calls are made for it. -/
theorem runs_present (r : Roster) {records : List AppRecord} {o : Except Fault (List Application)}
    (h : Attempt.Runs A (r.present records) w t o w') :
    Keeping.calls t = [] ∧
      ((∃ f, o = .error f ∧ Attempt.Runs A (r.refresh records) w t (.error f) w') ∨
        ∃ t₁ done m ws m' t₂, t = t₁ ++ ⟨.values, ws⟩ :: t₂ ∧ Attempt.Runs A (r.refresh records) w t₁ (.ok done) m ∧
          A .values m ws m' ∧ Attempt.Runs A (inquire (r.grouper.group ws)) m' t₂ o w') := by
  have hrefresh : ∀ {t o w w'}, Attempt.Runs A (r.refresh records) w t o w' → Keeping.calls t = [] := fun h =>
    calls_of_rounds (rounds_of_refresh h).2
  have hgroup : ∀ {ws t o w w'}, Attempt.Runs A (inquire (r.grouper.group ws)) w t o w' → Keeping.calls t = [] :=
    fun h => calls_of_rounds ((ends_inquire_group r _).of_trace h fun _ _ => trivial).2
  unfold present at h
  rcases runs_bind.1 h with ⟨f, rfl, hf⟩ | ⟨t₁, done, m, t₂, rfl, hdone, h⟩
  · exact ⟨hrefresh hf, Or.inl ⟨f, rfl, hf⟩⟩
  · obtain ⟨ws, m', t₃, rfl, hvalues, h⟩ := runs_ask_bind.1 h
    refine ⟨?_, Or.inr ⟨t₁, done, m, ws, m', t₃, rfl, hdone, hvalues, h⟩⟩
    have hrest : Keeping.calls t₃ = [] := hgroup h
    rw [Keeping.calls_append, hrefresh hdone]
    exact hrest

/-- **A view of everything** is a listing, and then a cycle over what was fetched with the view after it. A page that
cannot be had ends it, and until then nothing but inquiries was made. -/
theorem runs_all (r : Roster) (spaces : Option (List String)) {o : Except Fault (List Application)}
    (h : Attempt.Runs A (r.all spaces) w t o w') :
    (∃ f, o = .error f ∧ (∃ c, Called t c (.error f)) ∧ (∀ c f', Called t c (.error f') → f' = f) ∧
        ∀ e ∈ t, e.request.isInquiry = true) ∨
      ∃ t₁ m t₂ asked, t = t₁ ++ t₂ ∧ A.Leads w t₁ m ∧ Paged t₁ (.ok (fetched t₁)) asked ∧
        ((∀ e ∈ t₁, ¬ Vanishes e) → ∃ first, Called t₁ (r.pageCall spaces 1) (.ok (some first)) ∧
          asked = r.pageCalls spaces ((first.totalPages - 1).toNat + 1) 1) ∧
        Attempt.Runs A (r.present (fetched t₁)) m t₂ o w' := by
  obtain ⟨event, m₀, t₀, rfl, hstart, h⟩ := runs_report_bind h
  rcases runs_bind.1 h with ⟨f, rfl, hf⟩ | ⟨t₁, records, m, t₂, rfl, hlisting, h⟩
  · -- a page could not be had
    obtain ⟨asked, hpaged, -⟩ := runs_listing r spaces hf
    have hpaged := hpaged.afterReport event
    refine Or.inl ⟨f, rfl, hpaged.fails f rfl, ?_, hpaged.inquiries⟩
    intro c f' hcalled
    exact (Except.error.inj (hpaged.failed c f' hcalled)).symm
  · obtain ⟨event', m', t₃, rfl, hend, h⟩ := runs_report_bind h
    obtain ⟨asked, hpaged, hasked⟩ := runs_listing r spaces hlisting
    obtain rfl := hpaged.collected records rfl
    -- the reports before and after the listing have no records on them
    have hall := (hpaged.reported event').afterReport event
    have hfetched : fetched (⟨.inquiry (.report event), ()⟩ :: (t₁ ++ [⟨.inquiry (.report event'), ()⟩]))
        = fetched t₁ :=
      (fetched_append t₁ _).trans (List.append_nil _)
    rw [← hfetched] at hall h
    refine Or.inr ⟨_, m', t₃, asked, ?_, ?_, hall, ?_, h⟩
    · rw [List.cons_append, List.append_assoc, List.singleton_append]
    · exact Answering.Leads.cons hstart (hlisting.leads.append (Answering.Leads.cons hend (Answering.Leads.nil _)))
    · intro hthere
      have hthere := (List.forall_mem_append.1 (List.forall_mem_cons.1 hthere).2).1
      obtain ⟨first, hfirst, rfl⟩ := hasked _ rfl hthere
      exact ⟨first, List.mem_cons_of_mem _ (List.mem_append_left _ hfirst), rfl⟩

end Roster

end Steward
