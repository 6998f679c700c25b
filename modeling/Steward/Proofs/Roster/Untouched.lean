import Steward.Proofs.Roster.Escapes
import Steward.Proofs.Roster.Tending

/-!
# What an operation leaves untouched

What a run does to the cache can be read off its exchanges: a lookup that finds something touches its entry, a store and
a drop touch theirs, and that is all. A lookup that finds nothing drops what had expired, which nobody will see again.
So an operation that has failed, or has found nothing, leaves everything that the cache shows, at the time and at any
later one; an operation that has found an application touches the entry of that application only.

## Contents

* `Cache.peek?_find?_later`, `Cache.peek?_put_of_ne` — what a lookup and a store leave to be seen later;
* `Keeping.Touches`, `Session.Untouched` — what exchanges touch, and sessions that differ in nothing else;
* `Workshop.untouched_of_leads` — runs;
* `Roster.touches_findById`, `touches_findByNameAndSpace`, `touches_findId`, `ends_create_inquiring`,
  `ends_appState_inquiring` — operations;
* `Roster.untouched` — what each of them leaves.
-/

namespace Steward

open Attempt

/-! ## Caches -/

namespace Cache

variable {τ α : Type} [Sub τ] [LE τ] [LT τ] [DecidableLE τ] [Clock τ]

/-- What is past its time stays so. -/
theorem isPast_later {expiry : Option τ} {since now later : τ} (hlater : now ≤ later)
    (h : isPast expiry since now = true) : isPast expiry since later = true := by
  unfold isPast at h ⊢
  cases expiry with
  | none => exact h
  | some allowed =>
    rw [Option.any_some, decide_eq_true_iff] at h ⊢
    exact Clock.le_trans h (Clock.sub_le_sub since hlater)

theorem isExpired_later {c : Cache τ α} {e : Entry τ α} {now later : τ} (hlater : now ≤ later)
    (h : c.isExpired e now = true) : c.isExpired e later = true := by
  unfold isExpired at h ⊢
  rw [Bool.or_eq_true] at h ⊢
  exact h.imp (isPast_later hlater) (isPast_later hlater)

/-- **A lookup that finds nothing leaves everything** that is seen later: what it drops has expired for good. One that
finds something leaves all other entries. -/
theorem peek?_find?_later {c : Cache τ α} {key other : String} {now later : τ} (hlater : now ≤ later)
    (h : other = key → (c.find? key now).1 = none) :
    (c.find? key now).2.peek? other later = c.peek? other later := by
  by_cases hother : other = key
  · have hnone := h hother
    subst hother
    unfold find? at hnone ⊢
    cases he : c.entries.lookup other with
    | none => rfl
    | some e =>
      rw [he] at hnone
      dsimp only at hnone ⊢
      cases hexp : c.isExpired e now with
      | false =>
        rw [hexp] at hnone
        cases hnone
      | true =>
        rw [if_pos rfl, peek?_eq, peek?_eq, he]
        show (((Keyed.erase c.entries other).lookup other).filter _).map _ = _
        rw [Keyed.lookup_erase, if_pos rfl]
        simp [isExpired_later hlater hexp, Option.filter]
  · unfold find?
    cases c.entries.lookup key with
    | none => rfl
    | some e =>
      dsimp only
      split
      · rw [peek?_eq, peek?_eq]
        show (((Keyed.erase c.entries key).lookup other).filter fun e => !c.isExpired e later).map _ = _
        rw [Keyed.lookup_erase, if_neg hother]
      · rw [peek?_eq, peek?_eq]
        show (((Keyed.put c.entries key _).lookup other).filter fun e => !c.isExpired e later).map _ = _
        rw [Keyed.lookup_put, if_neg hother]

omit [LT τ] [Clock τ] in
/-- A store leaves all other entries. -/
theorem peek?_put_of_ne (c : Cache τ α) {key other : String} (h : other ≠ key) (a : α) (now later : τ) :
    (c.put key a now).peek? other later = c.peek? other later := by
  rw [peek?_eq, peek?_eq]
  show (((Keyed.put c.entries key _).lookup other).filter fun e => !c.isExpired e later).map _ = _
  rw [Keyed.lookup_put, if_neg h]

end Cache

/-! ## Exchanges -/

/-- **What an exchange touches**: the entry that was found, stored or dropped. Of a batch nothing is said. -/
def Keeping.Touches : Exchange Keeping → String → Prop
  | ⟨.lookup key, some _⟩, other => other = key
  | ⟨.store key _, _⟩, other => other = key
  | ⟨.invalidate key, _⟩, other => other = key
  | ⟨.batch _, _⟩, _ => True
  | _, _ => False

/-- Inquiries touch nothing. -/
theorem Keeping.not_touches_of_inquiry {e : Exchange Keeping} (h : e.request.isInquiry = true) (key : String) :
    ¬ Touches e key := by
  obtain ⟨request, reply⟩ := e
  cases request with
  | inquiry q => exact id
  | _ => cases h

variable {τ σ : Type} [Sub τ] [LE τ] [DecidableLE τ]

/-- **Only these keys were touched.** Time has gone on, and whatever the cache shows under another key from now on it
would have shown before. -/
structure Session.Untouched (touched : String → Prop) (s s' : Session τ σ) : Prop where
  clock : s.clock ≤ s'.clock
  same : ∀ key, ¬ touched key → ∀ now, s'.clock ≤ now → s'.cache.peek? key now = s.cache.peek? key now

variable [LT τ] [Clock τ] {platform : Handler Inquiry σ}

namespace Session

variable {touched more : String → Prop} {s m s' : Session τ σ}

theorem Untouched.trans (h₁ : Untouched touched s m) (h₂ : Untouched touched m s') : Untouched touched s s' := by
  refine ⟨Clock.le_trans h₁.clock h₂.clock, fun key hkey now hnow => ?_⟩
  rw [h₂.same key hkey now hnow, h₁.same key hkey now (Clock.le_trans h₂.clock hnow)]

omit [LT τ] [Clock τ] in
theorem Untouched.mono (h : Untouched touched s s') (hmore : ∀ key, touched key → more key) :
    Untouched more s s' :=
  ⟨h.clock, fun key hkey => h.same key fun hold => hkey (hmore key hold)⟩

/-- A single request touches what its exchange touches. -/
theorem untouched_answer (platform : Handler Inquiry σ) {r : Keeping.Request} (hr : ∀ tasks, r ≠ .batch tasks)
    (s : Session τ σ) :
    Untouched (Keeping.Touches ⟨r, (answer platform r s).1⟩) s (answer platform r s).2 := by
  refine ⟨(onward_answer platform hr s).1.clock, fun key hkey now hnow => ?_⟩
  rw [(onward_answer platform hr s).2] at hnow
  cases r with
  | batch tasks => exact absurd rfl (hr tasks)
  | lookup other =>
    refine Cache.peek?_find?_later hnow fun hother => ?_
    cases hfound : (s.cache.find? other s.clock).1 with
    | none => rfl
    | some x =>
      refine absurd ?_ hkey
      show Keeping.Touches ⟨.lookup other, (s.cache.find? other s.clock).1⟩ key
      rw [hfound]
      exact hother
  | store other x => exact Cache.peek?_put_of_ne s.cache hkey x s.clock now
  | invalidate other => exact (Cache.peek?_invalidate s.cache other key now).trans (if_neg hkey)
  | _ => rfl

end Session

/-! ## Runs -/

namespace Workshop

variable {w w' : Workshop τ σ}

/-- **A run touches what its exchanges touch**, if nobody else is at work. -/
theorem untouched_of_leads {t : List (Exchange Keeping)} (h : (Proceeds platform).Leads w t w') (hw : w.stray = []) :
    w.session.Untouched (fun key => ∃ e ∈ t, Keeping.Touches e key) w'.session := by
  induction h with
  | nil w => exact ⟨Clock.le_refl _, fun _ _ _ _ => rfl⟩
  | @cons r reply w m w' t answer rest ih =>
    by_cases hr : ∃ tasks, r = .batch tasks
    · -- of a batch nothing is said, so every key counts as touched
      obtain ⟨tasks, rfl⟩ := hr
      have hlate := (onward_of_leads (Answering.Leads.cons answer rest)).clock
      exact ⟨hlate, fun key hkey => absurd ⟨_, List.mem_cons_self, trivial⟩ hkey⟩
    · have hsingle : ∀ tasks, r ≠ .batch tasks := fun tasks htasks => hr ⟨tasks, htasks⟩
      obtain ⟨hm, now, hnow, hanswer⟩ := answer.alone hsingle hw
      have hlater : w.session.Untouched (fun _ => False) { w.session with clock := now } :=
        ⟨hnow, fun _ _ _ _ => rfl⟩
      have hstep := Session.untouched_answer platform hsingle { w.session with clock := now }
      rw [hanswer] at hstep
      refine (hlater.mono fun _ => False.elim).trans ((hstep.mono ?_).trans ((ih hm).mono ?_))
      · exact fun key htouched => ⟨_, List.mem_cons_self, htouched⟩
      · rintro key ⟨e, he, htouched⟩
        exact ⟨e, List.mem_cons_of_mem _ he, htouched⟩

/-- A run that touches only such keys. -/
theorem untouched_of_runs {α : Type} {p : Attempt Keeping α} {t : List (Exchange Keeping)} {o : Except Fault α}
    {touched : String → Prop} {s : Session τ σ} (h : Attempt.Runs (Proceeds platform) p ⟨s, []⟩ t o w')
    (ht : ∀ e ∈ t, ∀ key, Keeping.Touches e key → touched key) : s.Untouched touched w'.session := by
  refine (untouched_of_leads h.leads rfl).mono ?_
  rintro key ⟨e, he, htouched⟩
  exact ht e he key htouched

end Workshop

/-! ## Operations -/

namespace Roster

open Keeping

variable {r : Roster} {ω : Type} {A : Answering Keeping ω} {w w' : ω} {t : List (Exchange Keeping)}

/-- Inquiries touch nothing, and neither does what is put before a store. -/
theorem touches_of_inquiries {touched : String → Prop} (h : ∀ e ∈ t, e.request.isInquiry = true) :
    ∀ e ∈ t, ∀ key, Touches e key → touched key :=
  fun e he key htouched => (not_touches_of_inquiry (h e he) key htouched).elim

/-- **A lookup by identifier** touches that entry, and only if it finds an application. -/
theorem touches_findById {id : String} {o : Except Fault (Option Workload)}
    (h : Attempt.Runs A (r.findById id) w t o w') :
    ∀ e ∈ t, ∀ key, Touches e key → key = id ∧ ∃ x, o = .ok (some x) := by
  unfold findById at h
  obtain ⟨cached, m, rest, rfl, -, h⟩ := runs_ask_bind.1 h
  cases cached with
  | some x =>
    obtain ⟨rfl, rfl, -⟩ := runs_pure.1 h
    exact List.forall_mem_singleton.2 fun key htouched => ⟨htouched, x, rfl⟩
  | none =>
    refine List.forall_mem_cons.2 ⟨fun key htouched => htouched.elim, ?_⟩
    obtain ⟨t₁, outcome, m', t₂, rfl, hload, h⟩ := runs_settle_bind.1 h
    obtain ⟨rfl, rfl, -⟩ := runs_ofExcept.1 h
    rw [List.append_nil]
    unfold loadAndStore at hload
    rcases runs_bind.1 hload with ⟨f, rfl, hfailed⟩ | ⟨t₃, x, m'', t₄, rfl, hloaded, hstore⟩
    · exact touches_of_inquiries (inquiries_of_runs hfailed)
    · obtain ⟨-, m₃, t₅, rfl, -, hend⟩ := runs_ask_bind.1 hstore
      obtain ⟨rfl, rfl, -⟩ := runs_pure.1 hend
      refine List.forall_mem_append.2 ⟨touches_of_inquiries (inquiries_of_runs hloaded), ?_⟩
      exact List.forall_mem_singleton.2 fun key htouched => ⟨htouched, x, rfl⟩

/-- A search on the platform touches the entry of the application that it finds. -/
theorem touches_findRemotely {name space : String} {o : Except Fault Found}
    (h : Attempt.Runs A (r.findRemotely name space) w t o w') :
    ∀ e ∈ t, ∀ key, Touches e key → ∃ x, o = .ok (.found x) ∧ key = x.id := by
  have hrecord : (findRecord name space).Ends inquiring (fun found => ∀ record, found = some record → True) fun _ => True :=
    (admits_any (fun _ => rfl) r.mapper).ends_findRecord name space
  unfold findRemotely at h
  rcases runs_bind.1 h with ⟨f, rfl, hfailed⟩ | ⟨t₁, found, m, t₂, rfl, hfound, h⟩
  · exact touches_of_inquiries (hrecord.of_trace hfailed fun _ _ => trivial).2
  refine List.forall_mem_append.2 ⟨touches_of_inquiries (hrecord.of_trace hfound fun _ _ => trivial).2, ?_⟩
  cases found with
  | none =>
    obtain ⟨rfl, -, -⟩ := runs_pure.1 h
    exact List.forall_mem_nil _
  | some record =>
    rcases runs_bind.1 h with ⟨f, rfl, hfailed⟩ | ⟨t₃, mapped, m', t₄, rfl, hmapped, h⟩
    · exact touches_of_inquiries (inquiries_of_runs hfailed)
    refine List.forall_mem_append.2 ⟨touches_of_inquiries (inquiries_of_runs hmapped), ?_⟩
    cases mapped with
    | none =>
      obtain ⟨rfl, -, -⟩ := runs_pure.1 h
      exact List.forall_mem_nil _
    | some x =>
      obtain ⟨-, m'', t₅, rfl, -, hend⟩ := runs_ask_bind.1 h
      obtain ⟨rfl, rfl, -⟩ := runs_pure.1 hend
      exact List.forall_mem_singleton.2 fun key htouched => ⟨x, rfl, htouched⟩

/-- A search that has something to say of what it finds on the platform touches the entry of the application that it
finds, and no other. -/
theorem touches_findRemotely_bind {α : Type} {f : Found → Attempt Keeping α} {name space : String} {o : Except Fault α}
    (told : Workload → Except Fault α)
    (hf : ∀ {found m t}, Attempt.Runs A (f found) m t o w' → t = [] ∧ ∀ x, found = .found x → o = told x)
    (h : Attempt.Runs A (r.findRemotely name space >>= f) w t o w') :
    ∀ e ∈ t, ∀ key, Touches e key → ∃ x, o = told x ∧ key = x.id := by
  intro e he key htouched
  rcases runs_bind.1 h with ⟨f, rfl, hfailed⟩ | ⟨t₁, found, m, t₂, rfl, hfound, h⟩
  · obtain ⟨x, hx, -⟩ := touches_findRemotely hfailed e he key htouched
    cases hx
  · obtain ⟨rfl, ho⟩ := hf h
    rw [List.append_nil] at he
    obtain ⟨x, hx, hkey⟩ := touches_findRemotely hfound e he key htouched
    exact ⟨x, ho x (Except.ok.inj hx), hkey⟩

/-- **A search by name and space** touches the entry of the application that it comes to. -/
theorem touches_findByNameAndSpace {name space : String} {o : Except Fault (Option Workload)}
    (h : Attempt.Runs A (r.findByNameAndSpace name space) w t o w') :
    ∀ e ∈ t, ∀ key, Touches e key → ∃ x, o = .ok (some x) ∧ key = x.id := by
  unfold findByNameAndSpace at h
  refine touches_findRemotely_bind (fun x => .ok (some x)) ?_ h
  intro found m t h
  cases found with
  | missing =>
    obtain ⟨rfl, -, -⟩ := runs_pure.1 h
    exact ⟨rfl, fun x hx => nomatch hx⟩
  | unreadable =>
    obtain ⟨rfl, -, -⟩ := runs_throw.1 h
    exact ⟨rfl, fun x hx => nomatch hx⟩
  | found x =>
    obtain ⟨rfl, rfl, -⟩ := runs_pure.1 h
    refine ⟨rfl, ?_⟩
    rintro _ ⟨⟩
    rfl

/-- **A search for an identifier** touches the entry with that identifier. -/
theorem touches_findId {name space : String} {o : Except Fault (Option String)}
    (h : Attempt.Runs A (r.findId name space) w t o w') :
    ∀ e ∈ t, ∀ key, Touches e key → o = .ok (some key) := by
  unfold findId at h
  obtain ⟨ws, m, rest, rfl, -, h⟩ := runs_ask_bind.1 h
  refine List.forall_mem_cons.2 ⟨fun key htouched => htouched.elim, ?_⟩
  split at h
  · obtain ⟨rfl, -, -⟩ := runs_pure.1 h
    exact List.forall_mem_nil _
  suffices hfound : ∀ e ∈ _, ∀ key, Touches e key → ∃ x : Workload, o = .ok (some x.id) ∧ key = x.id by
    intro e he key htouched
    obtain ⟨x, ho, rfl⟩ := hfound e he key htouched
    exact ho
  refine touches_findRemotely_bind (fun x => .ok (some x.id)) ?_ h
  intro found m t h
  cases found with
  | missing | unreadable =>
    obtain ⟨rfl, -, -⟩ := runs_pure.1 h
    exact ⟨rfl, fun x hx => nomatch hx⟩
  | found x =>
    obtain ⟨rfl, rfl, -⟩ := runs_pure.1 h
    refine ⟨rfl, ?_⟩
    rintro _ ⟨⟩
    rfl

/-- The state of an application is inquired after, and nothing else. -/
theorem ends_appState_inquiring (r : Roster) (id : String) :
    (appState id).Ends inquiring (fun _ => True) fun _ => True :=
  (admits_any (fun _ => rfl) r.mapper).ends_appState id

/-- So is the creation of an application, which is not kept. -/
theorem ends_create_inquiring (r : Roster) (name : String) (space : Space) (env : Option (List (String × Value)))
    (lifecycle : Option Lifecycle) :
    (r.create name space env lifecycle).Ends inquiring (fun _ => True) fun _ => True :=
  (admits_any (fun _ => rfl) r.mapper).ends_create trivial (fun _ => trivial) name space env lifecycle

/-- **What an operation leaves untouched**, on any platform, whatever that answers and whatever it fails with, while time
goes on and nobody else is at work:

* a lookup by identifier, a search by name and space and a search for an identifier leave every entry but that of the
  application that they come to, and every entry if they fail or come to nothing;
* asking for the state of an application and creating one leave every entry;
* a deletion succeeds if the platform's does, and only then the entry is gone; every other entry is left;
* if a page of the listing cannot be had, that is what a view of everything fails with, and every entry is left. -/
theorem untouched (r : Roster) (platform : Handler Inquiry σ) (s : Session τ σ) {t : List (Exchange Keeping)}
    {w' : Workshop τ σ} :
    (∀ id o, Attempt.Runs (Workshop.Proceeds platform) (r.findById id) ⟨s, []⟩ t o w' →
      s.Untouched (fun key => key = id ∧ ∃ x, o = .ok (some x)) w'.session) ∧
    (∀ name space o, Attempt.Runs (Workshop.Proceeds platform) (r.findByNameAndSpace name space) ⟨s, []⟩ t o w' →
      s.Untouched (fun key => ∃ x, o = .ok (some x) ∧ key = x.id) w'.session) ∧
    (∀ name space o, Attempt.Runs (Workshop.Proceeds platform) (r.findId name space) ⟨s, []⟩ t o w' →
      s.Untouched (fun key => o = .ok (some key)) w'.session) ∧
    (∀ id o, Attempt.Runs (Workshop.Proceeds platform) (appState id) ⟨s, []⟩ t o w' →
      s.Untouched (fun _ => False) w'.session) ∧
    (∀ name space env lifecycle o,
      Attempt.Runs (Workshop.Proceeds platform) (r.create name space env lifecycle) ⟨s, []⟩ t o w' →
      s.Untouched (fun _ => False) w'.session) ∧
    (∀ id o, Attempt.Runs (Workshop.Proceeds platform) (r.delete id) ⟨s, []⟩ t o w' →
      s.Untouched (fun key => key = id ∧ o = .ok ()) w'.session ∧
        (o = .ok () ↔ Called t (.deleteApplication id) (.ok ())) ∧
        (o = .ok () → ∀ now, w'.session.clock ≤ now → w'.session.cache.peek? id now = none)) ∧
    ∀ spaces o, Attempt.Runs (Workshop.Proceeds platform) (r.all spaces) ⟨s, []⟩ t o w' →
      ∀ c f, Called t c (.error f) → o = .error f ∧ s.Untouched (fun _ => False) w'.session := by
  refine ⟨?_, ?_, ?_, ?_, ?_, ?_, ?_⟩
  · exact fun id o h => Workshop.untouched_of_runs h (touches_findById h)
  · exact fun name space o h => Workshop.untouched_of_runs h (touches_findByNameAndSpace h)
  · exact fun name space o h => Workshop.untouched_of_runs h (touches_findId h)
  · intro id o h
    have hinquiries := ((ends_appState_inquiring r id).of_trace h fun _ _ => trivial).2
    exact Workshop.untouched_of_runs h (touches_of_inquiries hinquiries)
  · intro name space env lifecycle o h
    have hinquiries := ((ends_create_inquiring r name space env lifecycle).of_trace h fun _ _ => trivial).2
    exact Workshop.untouched_of_runs h (touches_of_inquiries hinquiries)
  · intro id o h
    rcases runs_delete_cases h with ⟨f, rfl, rfl⟩ | ⟨held, m, m', rest, rfl, rfl, hcall, hdrop, hleads, hrest⟩
    · refine ⟨Workshop.untouched_of_runs h (touches_of_inquiries (List.forall_mem_singleton.2 rfl)), ?_, ?_⟩
      · refine iff_of_false (fun ho => nomatch ho) fun hcalled => ?_
        cases List.mem_singleton.1 hcalled
      · exact fun ho => nomatch ho
    · refine ⟨?_, iff_of_true rfl List.mem_cons_self, fun _ now hnow => ?_⟩
      · refine Workshop.untouched_of_runs h (List.forall_mem_cons.2 ⟨fun _ htouched => htouched.elim, ?_⟩)
        exact List.forall_mem_cons.2 ⟨fun key htouched => ⟨htouched, rfl⟩, touches_of_inquiries hrest⟩
      · -- the reports after the drop touch nothing
        obtain ⟨hm, -⟩ := hcall.alone (by rintro tasks ⟨⟩) rfl
        obtain ⟨hm', later, -, hanswer⟩ := hdrop.alone (by rintro tasks ⟨⟩) hm
        have hlast : ¬ ∃ e ∈ rest, Touches e id := by
          rintro ⟨e, he, htouched⟩
          exact not_touches_of_inquiry (hrest e he) id htouched
        have hdropped : m.session.cache.invalidate id = m'.session.cache :=
          congrArg (fun answer => answer.2.cache) hanswer
        rw [(Workshop.untouched_of_leads hleads hm').same id hlast now hnow, ← hdropped]
        exact (Cache.peek?_invalidate _ id id now).trans (if_pos rfl)
  · intro spaces o h c f hcalled
    rcases runs_all r spaces h with ⟨f', rfl, -, honly, hinquiries⟩ | ⟨t₁, m, t₂, asked, rfl, -, hpaged, -, hpresent⟩
    · obtain rfl := honly c f hcalled
      exact ⟨rfl, Workshop.untouched_of_runs h (touches_of_inquiries hinquiries)⟩
    · -- no call fails if all pages could be had
      rcases called_append.1 hcalled with hpage | hview
      · cases hpaged.failed c f hpage
      · have hmem := hview.mem_calls
        rw [(runs_present r hpresent).1] at hmem
        cases hmem

/-- A platform on which two applications can be put together. -/
abbrev lapsingShop : Handler Inquiry Nat :=
  (Facts.alone (webApp "app-2" "STARTED")).dwindling

/-- A session in which one entry has expired and one has not, on a platform that will fail from now on. -/
def lapsedSession : Session Int Nat :=
  ((bare.findById "app-2").run (Session.answer lapsingShop)
    { ((bare.refresh [webApp "app-1" "STARTED"]).run (Session.answer lapsingShop)
        { leasedSession with world := 10 }).2 with clock := 5 }).2

/-- A lookup of the application whose entry has expired fails and drops that entry, which leaves everything to be seen. -/
theorem untouched_lapsed :
    ∃ t o w', Attempt.Runs (Workshop.Proceeds lapsingShop) (bare.findById "app-1") ⟨lapsedSession, []⟩ t o w' ∧
      lapsedSession.cache.entries.map (·.1) = ["app-1", "app-2"] ∧ w'.session.cache.entries.map (·.1) = ["app-2"] ∧
      o.isOk = false ∧ lapsedSession.Untouched (fun key => key = "app-1" ∧ ∃ x, o = .ok (some x)) w'.session := by
  have hleased : IsLeased lapsedSession := ⟨by decide +kernel, by decide +kernel, by decide +kernel⟩
  obtain ⟨t, h⟩ := Session.proceeds_of_runBackwards lapsingShop (bare.findById "app-1").outcome hleased.lasting
    hleased.pool
  exact ⟨t, _, _, h, by decide +kernel, by decide +kernel, by decide +kernel,
    (untouched bare lapsingShop lapsedSession).1 "app-1" _ h⟩

end Roster

end Steward
