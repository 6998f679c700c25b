import Steward.Proofs.Roster.Freshness
import Steward.Proofs.Roster.Pages
import Steward.Proofs.Roster.Passage
import Steward.Proofs.Roster.Reachable

/-!
# Applications that are tended do not fall out of the cache

A cycle writes every listed application that is cached anew, even if nothing can be learned about it: reading its health
comes to a workload whatever the platform answers, and that is stored. So it does not count when an application was put
together. As long as cycles follow one another fast enough, its entry was written and read recently enough at any time,
and no lookup calls the platform for it.

## Contents

* `Session.InTime`, `Session.Renewed` — moments that are near enough, and entries that were touched since then;
* `Passage.renewed`, `Workshop.renewed_step` — an entry in time is kept, whatever happens meanwhile;
* `Keeping.tending`, `Roster.meets_serve_tending` — visits that leave the entry;
* `Keeping.StoredForGood`, `Workshop.renewed_of_refresh` — a cycle that stores an application renews its entry;
* `Roster.evaluated_of_cycle` — a cycle stores every listed application that is cached;
* `Tended`, `Tended.found` — an application that is tended is found without a call.
-/

namespace Steward

open Attempt

variable {τ σ : Type} [Sub τ] [LE τ] [LT τ] [OfNat τ 0] [DecidableLE τ]

/-! ## Entries in time -/

/-- An expiry that takes effect. -/
def Cache.Enabled {α : Type} (c : Cache τ α) (allowed : τ) : Prop :=
  c.writeExpiry = some allowed ∨ c.readExpiry = some allowed

/-- Less time has passed since a moment than any expiry allows. -/
def Session.InTime (s : Session τ σ) (began : τ) : Prop :=
  ∀ allowed, s.cache.Enabled allowed → s.clock - began < allowed

/-- **The entry of an application was renewed** at a moment or after it: it is there, under the application's own
identifier, and has not been written or read before that moment for the last time. -/
structure Session.Renewed (s : Session τ σ) (key : String) (began : τ) : Prop where
  since : began ≤ s.clock
  entry : ∃ e, s.cache.entries.lookup key = some e ∧ e.value.id = key ∧ began ≤ e.writtenAt ∧ began ≤ e.readAt

variable [Timepiece τ] {platform : Handler Inquiry σ} {s s' : Session τ σ} {key : String} {began : τ}

namespace Session

omit [Sub τ] [LT τ] [OfNat τ 0] [DecidableLE τ] [Timepiece τ] in
/-- The expiries that take effect stay the same. -/
theorem Onward.enabled_iff (h : s.Onward s') {allowed : τ} : s'.cache.Enabled allowed ↔ s.cache.Enabled allowed := by
  unfold Cache.Enabled
  rw [h.writeExpiry, h.readExpiry]

omit [DecidableLE τ] in
/-- What happened before a moment in time was in time. -/
theorem InTime.back (h : s'.InTime began) (honward : s.Onward s') : s.InTime began := by
  intro allowed henabled
  have hlate : s'.clock - began < allowed := h allowed (honward.enabled_iff.2 henabled)
  rw [Clock.lt_iff_not_le] at hlate ⊢
  exact fun hle => hlate (Clock.le_trans hle (Clock.sub_le_sub began honward.clock))

/-- An entry that was touched since a moment is not past its time, while that moment is near enough. -/
theorem InTime.isPast (h : s.InTime began) {expiry : Option τ}
    (henabled : ∀ allowed, expiry = some allowed → s.cache.Enabled allowed) {touched : τ} (htouched : began ≤ touched) :
    Cache.isPast expiry touched s.clock = false := by
  unfold Cache.isPast
  cases expiry with
  | none => rfl
  | some allowed =>
    have hlate := Clock.lt_iff_not_le.1 (h allowed (henabled allowed rfl))
    rw [Option.any_some, decide_eq_false_iff_not]
    exact fun hle => hlate (Clock.le_trans hle (Timepiece.sub_le_sub_left s.clock htouched))

theorem InTime.isExpired (h : s.InTime began) {e : Entry τ Workload} (hwritten : began ≤ e.writtenAt)
    (hread : began ≤ e.readAt) : s.cache.isExpired e s.clock = false := by
  unfold Cache.isExpired
  rw [h.isPast (fun _ => Or.inl) hwritten, h.isPast (fun _ => Or.inr) hread]
  rfl

/-- A lookup finds an entry in time, and leaves it renewed. -/
theorem Renewed.find (h : s.Renewed key began) (hs : s.InTime began) (other : String) :
    (other = key → ∃ x, (s.cache.find? other s.clock).1 = some x ∧ x.id = key) ∧
      Renewed { s with cache := (s.cache.find? other s.clock).2 } key began := by
  obtain ⟨e, he, hid, hwritten, hread⟩ := h.entry
  have hlive := hs.isExpired hwritten hread
  unfold Cache.find?
  by_cases hother : other = key
  · subst hother
    rw [he]
    dsimp only
    rw [if_neg (by simp [hlive])]
    refine ⟨fun _ => ⟨e.value, rfl, hid⟩, h.since, { e with readAt := s.clock }, ?_, hid, hwritten, h.since⟩
    show (Keyed.put s.cache.entries other _).lookup other = _
    rw [Keyed.lookup_put, if_pos rfl]
  · refine ⟨fun hsame => absurd hsame hother, ?_⟩
    have hne : key ≠ other := Ne.symm hother
    -- neither an entry that is dropped nor one that is touched is that of the application
    cases hlookup : s.cache.entries.lookup other with
    | none => exact ⟨h.since, h.entry⟩
    | some e' =>
      dsimp only
      split
      · refine ⟨h.since, e, ?_, hid, hwritten, hread⟩
        show (Keyed.erase s.cache.entries other).lookup key = _
        rw [Keyed.lookup_erase, if_neg hne, he]
      · refine ⟨h.since, e, ?_, hid, hwritten, hread⟩
        show (Keyed.put s.cache.entries other _).lookup key = _
        rw [Keyed.lookup_put, if_neg hne, he]

omit [DecidableLE τ] in
/-- A later moment does not touch the entry. -/
theorem Renewed.later (h : s.Renewed key began) {t : τ} (ht : s.clock ≤ t) :
    Renewed { s with clock := t } key began :=
  ⟨Clock.le_trans h.since ht, h.entry⟩

omit [Sub τ] [LT τ] [OfNat τ 0] [DecidableLE τ] [Timepiece τ] in
/-- A workload that is stored under its own identifier renews its entry. -/
theorem renewed_put (hs : began ≤ s.clock) {x : Workload} (hx : x.id = key) :
    Renewed { s with cache := s.cache.put key x s.clock } key began := by
  refine ⟨hs, ⟨x, s.clock, s.clock⟩, ?_, hx, hs, hs⟩
  show (Keyed.put s.cache.entries key _).lookup key = _
  rw [Keyed.lookup_put, if_pos rfl]

end Session

/-- **In a span of time that ends in time**, an entry stays renewed, whatever workers do. -/
theorem Passage.renewed {jobs jobs' : List Job} (h : Passage platform jobs s jobs' s') (hend : s'.InTime began)
    (hs : s.Renewed key began) : s'.Renewed key began := by
  induction h with
  | idle => exact hs
  | @work _ _ _ r _ s _ rest ih =>
    have hnow : s.InTime began := (hend.back rest.onward).back (Session.onward_answerErrand r s)
    refine ih hend ?_
    cases r with
    | inquiry q => exact ⟨hs.since, hs.entry⟩
    | lookup other => exact (hs.find hnow other).2
  | tick t ht _ ih => exact ih hend (hs.later ht)

/-! ## Requests that leave the entry -/

/-- **What leaves the entry of an application.** It is not dropped, and nothing is stored under it that has another
identifier. While it is in time, it is found. -/
def Keeping.tending (key : String) : Contract Keeping where
  asks
    | .store other x => other = key → x.id = key
    | .invalidate other => other ≠ key
    | _ => True
  replies
    | .lookup other, reply => other = key → ∃ x, reply = some x ∧ x.id = key
    | _, _ => True

/-- A single request in time keeps the entry renewed, and a lookup finds it. -/
theorem Session.renewed_answer (platform : Handler Inquiry σ) {r : Keeping.Request} (hr : ∀ tasks, r ≠ .batch tasks)
    (hasks : (Keeping.tending key).asks r) (h : s.Renewed key began) (hs : s.InTime began) :
    (Keeping.tending key).replies r (answer platform r s).1 ∧ (answer platform r s).2.Renewed key began := by
  obtain ⟨e, he, hid, hwritten, hread⟩ := h.entry
  cases r with
  | batch tasks => exact absurd rfl (hr tasks)
  | lookup other => exact h.find hs other
  | store other x =>
    by_cases hother : other = key
    · subst hother
      exact ⟨trivial, renewed_put h.since (hasks rfl)⟩
    · refine ⟨trivial, h.since, e, ?_, hid, hwritten, hread⟩
      show (Keyed.put s.cache.entries other _).lookup key = _
      rw [Keyed.lookup_put, if_neg (Ne.symm hother), he]
  | invalidate other =>
    refine ⟨trivial, h.since, e, ?_, hid, hwritten, hread⟩
    show (Keyed.erase s.cache.entries other).lookup key = _
    rw [Keyed.lookup_erase, if_neg (Ne.symm hasks), he]
  | inquiry | keys | values | stopwatch | measure => exact ⟨trivial, h.since, h.entry⟩

namespace Workshop

variable {w w' : Workshop τ σ} {r : Keeping.Request} {reply : Keeping.Reply r}

/-- The time of a workshop is in time. -/
abbrev InTime (w : Workshop τ σ) (began : τ) : Prop :=
  w.session.InTime began

/-- The answers to a keeper up to a moment that is in time. -/
def ProceedsInTime (platform : Handler Inquiry σ) (began : τ) : Answering Keeping (Workshop τ σ) :=
  fun r w reply w' => Proceeds platform r w reply w' ∧ w'.InTime began

/-- A run that ends in time was in time all along. -/
theorem runs_inTime {α : Type} {p : Program Keeping α} {t : List (Exchange Keeping)} {a : α}
    (h : p.Runs (Proceeds platform) w t a w') (hend : w'.session.InTime began) :
    p.Runs (ProceedsInTime platform began) w t a w' := by
  obtain ⟨hconfined, -⟩ := h.confine (P := fun w => w.InTime began) (fun answer hlate => hlate.back answer.onward) hend
  exact hconfined

/-- **A step in time** keeps the entry renewed, and lookups find it. -/
theorem renewed_step (hasks : (Keeping.tending key).asks r) (hw : w.session.Renewed key began)
    (h : ProceedsInTime platform began r w reply w') :
    (Keeping.tending key).replies r reply ∧ w'.session.Renewed key began := by
  obtain ⟨h, hend⟩ := h
  by_cases hr : ∃ tasks, r = .batch tasks
  · obtain ⟨tasks, rfl⟩ := hr
    obtain ⟨jobs, pool, jobs', passage⟩ := Round.passage h
    exact ⟨trivial, passage.renewed hend ⟨hw.since, hw.entry⟩⟩
  · have hsingle : ∀ tasks, r ≠ .batch tasks := fun tasks htasks => hr ⟨tasks, htasks⟩
    obtain ⟨m, passage, hanswer⟩ := h.single hsingle
    have honward := (Session.onward_answer platform hsingle m).1
    rw [hanswer] at honward
    have hm : m.InTime began := hend.back honward
    have hstep := Session.renewed_answer platform hsingle hasks (passage.renewed hm hw) hm
    rw [hanswer] at hstep
    exact hstep

/-- A program that leaves the entry keeps it renewed, if it ends in time. -/
theorem renewed_of_runs {α : Type} {p : Attempt Keeping α} {post : α → Prop} {t : List (Exchange Keeping)}
    {o : Except Fault α} (hp : p.Meets (Keeping.tending key) post) (hw : w.session.Renewed key began)
    (h : Attempt.Runs (Proceeds platform) p w t o w') (hend : w'.session.InTime began) :
    Good post o ∧ w'.session.Renewed key began := by
  exact hp.outcome.keeps (P := fun w => w.session.Renewed key began)
    (fun hasks hm answer => renewed_step hasks hm answer) (runs_inTime h hend) hw

end Workshop

/-! ## Visits -/

namespace Keeping

variable {α : Type} {post : α → Prop}

theorem meets_inquire_tending (p : Attempt Inquiry α) : (inquire p).Meets (tending key) fun _ => True := by
  have hp : p.Meets (Contract.any Inquiry) fun _ => True := Inquiry.meets_any p
  exact hp.lift fun _ _ => Program.Meets.ask trivial fun _ _ => Program.Meets.done trivial

theorem meets_ask_tending {r : Keeping.Request} (hr : (tending key).asks r) :
    (ask r).Meets (tending key) ((tending key).replies r) :=
  meets_ofProgram (Program.Meets.ask hr fun _ hreply => Program.Meets.done hreply)

end Keeping

namespace Roster

open Keeping

variable (r : Roster)

/-- Whoever asks for the application itself is answered from the cache; who asks for another stores another. -/
theorem meets_findById_tending (id : String) :
    (r.findById id).Meets (tending key) fun found => id = key → ∃ x, found = some x ∧ x.id = key := by
  unfold findById
  refine (meets_ask_tending (r := .lookup id) trivial).bind fun cached hcached => ?_
  cases cached with
  | some x =>
    refine meets_pure fun hid => ?_
    obtain ⟨_, ⟨⟩, hx⟩ := hcached hid
    exact ⟨x, rfl, hx⟩
  | none =>
    have hid : id ≠ key := by
      intro hid
      obtain ⟨_, ⟨⟩, -⟩ := hcached hid
    have hload : (r.loadAndStore id).Meets (tending key) fun _ => True := by
      unfold loadAndStore
      refine (meets_inquire_tending _).bind fun w _ => ?_
      exact (meets_ask_tending (r := .store id w) fun h => absurd h hid).bind fun _ _ => meets_pure trivial
    refine hload.settle.bind fun outcome _ => (meets_ofExcept_any _).mono ?_
    exact fun _ _ h => absurd h hid

end Roster

/-- **Orders that leave an application alone**: lookups and changes on the platform, but for its own deletion. -/
def Order.Leaves (key : String) : Order → Prop
  | .delete id => id ≠ key
  | .refresh _ | .all _ => False
  | _ => True

open Keeping in
/-- What is found by name is stored under its own identifier, and whatever else is asked for is not kept. -/
theorem Roster.meets_serve_tending (r : Roster) {order : Order} (h : order.Leaves key) :
    (r.serve order).Meets (tending key) fun _ => True := by
  have hinquiries : Admits (tending key) (Contract.any Inquiry) r.mapper (fun _ => True) (fun _ => True) fun _ => True :=
    admits_any (fun _ => trivial) r.mapper
  have hstore : ∀ w : Workload, True → (tending key).asks (.store w.id w) := fun _ _ => id
  cases order with
  | findById id => exact ((r.meets_findById_tending id).mono fun _ _ => trivial).map
  | findByNameAndSpace name space => exact (hinquiries.ends_findByNameAndSpace hstore trivial name space).meets.map
  | findId name space => exact (hinquiries.ends_findId hstore trivial name space).meets.map
  | appState id => exact (hinquiries.ends_appState id).meets.map
  | create name space env lifecycle =>
    exact (hinquiries.ends_create trivial (fun _ => trivial) name space env lifecycle).meets.map
  | delete id => exact (hinquiries.ends_delete h).meets
  | refresh _ | all _ => exact h.elim

/-! ## What a cycle stores -/

namespace Keeping

/-- A workload was stored under its own identifier, which is this one. -/
def Stored (t : List (Exchange Keeping)) (key : String) : Prop :=
  ∃ x : Workload, x.id = key ∧ ⟨.store key x, ()⟩ ∈ t

/-- It was stored, and nothing was dropped after that. -/
def StoredForGood (t : List (Exchange Keeping)) (key : String) : Prop :=
  ∃ before x after, t = before ++ ⟨.store key x, ()⟩ :: after ∧ x.id = key ∧
    ∀ e ∈ after, (rounds fun _ => False).asks e.request

variable {t t₁ t₂ : List (Exchange Keeping)}

theorem stored_append : Stored (t₁ ++ t₂) key ↔ Stored t₁ key ∨ Stored t₂ key := by
  simp only [Stored, List.mem_append, and_or_left, exists_or]

theorem Stored.forGood (h : Stored t key) (ht : ∀ e ∈ t, (rounds fun _ => False).asks e.request) :
    StoredForGood t key := by
  obtain ⟨x, hx, hstore⟩ := h
  obtain ⟨before, after, rfl⟩ := List.append_of_mem hstore
  exact ⟨before, x, after, rfl, hx, fun e he => ht e (List.mem_append_right _ (List.mem_cons_of_mem _ he))⟩

theorem StoredForGood.append (h : StoredForGood t key) (front : List (Exchange Keeping)) :
    StoredForGood (front ++ t) key := by
  obtain ⟨before, x, after, rfl, hx, hafter⟩ := h
  exact ⟨front ++ before, x, after, (List.append_assoc _ _ _).symm, hx, hafter⟩

theorem StoredForGood.ending (h : StoredForGood t₁ key) (ht : ∀ e ∈ t₂, (rounds fun _ => False).asks e.request) :
    StoredForGood (t₁ ++ t₂) key := by
  obtain ⟨before, x, after, rfl, hx, hafter⟩ := h
  exact ⟨before, x, after ++ t₂, by rw [List.append_assoc, List.cons_append], hx,
    List.forall_mem_append.2 ⟨hafter, ht⟩⟩

end Keeping

namespace Roster

open Keeping

variable {ω : Type} {A : Answering Keeping ω} {w w' : ω} {t : List (Exchange Keeping)}

/-- Whoever is among these has been stored with them. -/
theorem stored_stores {ws : List Workload} (h : key ∈ ws.map (·.id)) : Stored (stores ws) key := by
  obtain ⟨x, hx, rfl⟩ := List.mem_map.1 h
  exact ⟨x, rfl, List.mem_map.2 ⟨x, hx, rfl⟩⟩

theorem stored_committed {tasks : List Task} {reply : BatchReply} {ws : List Workload} {ms : List Measure}
    (h : key ∈ ws.map (·.id)) : Stored (⟨.batch tasks, reply⟩ :: (stores ws ++ ms.map counted)) key := by
  obtain ⟨x, hx, hstored⟩ := stored_stores h
  exact ⟨x, hx, List.mem_cons_of_mem _ (List.mem_append_left _ hstored)⟩

/-- Both steps store what they say. -/
theorem stored_of_pooled {r : Roster} {listing stale : List AppRecord} {remapped skipped evaluated : List String}
    (h : PooledTranscript r listing stale t (.ok ((remapped, skipped), evaluated)))
    (hkey : key ∈ remapped ∨ key ∈ evaluated) : Stored t key := by
  cases h with
  | @finished mapped results =>
    refine stored_append.2 (hkey.imp (fun hkey => stored_committed hkey) fun hkey => ?_)
    exact stored_committed hkey

/-- **What a cycle says that it stored** it has stored, and dropped nothing after that. -/
theorem storedForGood_of_refreshUnbound {r : Roster} {listing : List AppRecord} {done : Refresh}
    (h : Attempt.Runs A (r.refreshUnbound listing) w t (.ok done) w')
    (hkey : key ∈ done.remapped ∨ key ∈ done.evaluated) : StoredForGood t key := by
  obtain ⟨began, keys, gone, seen, rest, -, rfl, htranscript⟩ := runs_refreshUnbound h
  refine (StoredForGood.append ?_ (looks seen)).append (opening began keys gone)
  cases htranscript with
  | finished looked tells pooled =>
    -- after the steps there are but measures and a report
    refine ((stored_of_pooled pooled hkey).forGood (rounds_of_pooled pooled).2).ending ?_
    exact List.forall_mem_append.2 ⟨rounds_closing _ _ _, List.forall_mem_singleton.2 trivial⟩

end Roster

/-! ## Cycles -/

namespace Workshop

variable {w w' : Workshop τ σ} {t : List (Exchange Keeping)}

/-- A step in time keeps the entry renewed, also if fields are bound around events. -/
theorem renewed_step_under {fields : List (String × Value)} {r : Keeping.Request} {reply : Keeping.Reply r}
    (hasks : (Keeping.tending key).asks r) (hw : w.session.Renewed key began)
    (h : Keeping.answersUnder fields (ProceedsInTime platform began) r w reply w') : w'.session.Renewed key began := by
  unfold Keeping.answersUnder at h
  split at h
  · exact (renewed_step (by exact trivial) hw h).2
  · exact (renewed_step (by exact trivial) hw h).2
  · exact (renewed_step hasks hw h).2

theorem onward_under {fields : List (String × Value)} {r : Keeping.Request} {reply : Keeping.Reply r}
    (h : Keeping.answersUnder fields (ProceedsInTime platform began) r w reply w') : w.session.Onward w'.session := by
  unfold Keeping.answersUnder at h
  split at h
  · exact h.1.onward
  · exact h.1.onward
  · exact h.1.onward

/-- **A workload that is stored for good** has a renewed entry from then on. -/
theorem renewed_of_storedForGood {fields : List (String × Value)}
    (h : (Keeping.answersUnder fields (ProceedsInTime platform began)).Leads w t w')
    (hstored : Keeping.StoredForGood t key) (hw : began ≤ w.session.clock) : w'.session.Renewed key began := by
  obtain ⟨before, x, after, rfl, hx, hafter⟩ := hstored
  obtain ⟨m, hbefore, hrest⟩ := h.split
  have hm : began ≤ m.session.clock := hbefore.keeps (P := fun w => began ≤ w.session.clock)
    (Q := fun _ => True) (fun _ hs answer => Clock.le_trans hs (onward_under answer).clock) (fun _ _ => trivial) hw
  cases hrest with
  | cons answer hrest =>
    -- workers may go on before the store, and then it renews the entry
    obtain ⟨m', passage, hput⟩ := answer.1
    have hsession : { m' with cache := m'.cache.put key x m'.clock } = _ := congrArg Prod.snd hput
    have hrenewed := Session.renewed_put (Clock.le_trans hm passage.onward.clock) hx (s := m')
    rw [hsession] at hrenewed
    refine hrest.keeps (P := fun w => w.session.Renewed key began) (Q := (Keeping.tending key).asks)
      (fun hasks hs answer => renewed_step_under hasks hs answer) ?_ hrenewed
    intro e he
    have hasks := hafter e he
    cases hrequest : e.request with
    | store other y =>
      rw [hrequest] at hasks
      exact fun hother => hasks.trans hother
    | invalidate other =>
      rw [hrequest] at hasks
      exact hasks.elim
    | _ => trivial

/-- **A cycle that stores an application renews its entry.** -/
theorem renewed_of_refresh {r : Roster} {listing : List AppRecord} {done : Refresh}
    (h : Attempt.Runs (Proceeds platform) (r.refresh listing) w t (.ok done) w')
    (hkey : key ∈ done.remapped ∨ key ∈ done.evaluated) (hw : began ≤ w.session.clock)
    (hend : w'.session.InTime began) : w'.session.Renewed key began := by
  have hin : Attempt.Runs (ProceedsInTime platform began) (r.refresh listing) w t (.ok done) w' := runs_inTime h hend
  obtain ⟨t', hunbound, -⟩ := Keeping.runs_under hin
  exact renewed_of_storedForGood hunbound.leads (Roster.storedForGood_of_refreshUnbound hunbound hkey) hw

end Workshop

/-- An entry in time is shown. -/
theorem Session.Renewed.contents (h : s.Renewed key began) (hs : s.InTime began) :
    ∃ x, s.contents key = some x ∧ x.id = key := by
  obtain ⟨x, hx, hid⟩ := (h.find hs key).1 rfl
  rw [Cache.find?_fst] at hx
  exact ⟨x, hx, hid⟩

/-- Workloads that are stored under their own identifiers leave one that is its own under a key. -/
theorem Contents.own_putAll {c : Contents} (h : ∃ x, c key = some x ∧ x.id = key) (ws : List Workload) :
    ∃ x, c.putAll ws key = some x ∧ x.id = key := by
  obtain ⟨x, hx, hid⟩ := h
  rw [putAll_apply]
  cases hlast : (ws.filter (·.id = key)).getLast? with
  | none => exact ⟨x, hx, hid⟩
  | some y =>
    have hmem := List.mem_of_getLast? hlast
    exact ⟨y, rfl, by simpa using (List.mem_filter.1 hmem).2⟩

/-- **A cycle stores every listed application that is cached**, if its run state is known: that its health cannot be
read does not matter, and neither does what became of it in the first step. -/
theorem Roster.evaluated_of_cycle {r : Roster} {fields : List (String × Value)} {listing : List AppRecord}
    {old new : Contents} {replies : List BatchReply} {done : Refresh} {record : AppRecord} (hrecord : record ∈ listing)
    (hstate : record.hasState = true) (hold : ∃ x, old record.guid = some x ∧ x.id = record.guid)
    (h : Cycle (fun c tasks => Errand.Came c (tasks.map (Errand.under fields))) r listing old replies (.ok done) new) :
    record.guid ∈ done.evaluated := by
  cases h with
  | @finished gone mapped evaluated tells mapping evaluating =>
    rw [← Contents.within_of_mem old hrecord] at hold
    obtain ⟨x, hx, hid⟩ := Contents.own_putAll hold (mapped.filterMap id)
    obtain ⟨result, hresult, hread⟩ := forall₂_exists_right (evaluating.forall₂ evaluates_evaluateTask) hrecord
    -- the entry is there and the run state is known, so its health came to something
    unfold AppRecord.Evaluates at hread
    unfold AppRecord.hasState at hstate
    cases hparse : RunState.parse record.state with
    | error f =>
      rw [hparse] at hstate
      cases hstate
    | ok state =>
      rw [hx, hparse] at hread
      obtain ⟨replicas, rfl, -⟩ := hread
      refine List.mem_map.2 ⟨{ x with state, replicas }, List.mem_filterMap.2 ⟨_, hresult, rfl⟩, hid⟩

/-! ## Tending -/

/-- Every expiry that takes effect allows some time. -/
def Cache.Positive {α : Type} (c : Cache τ α) : Prop :=
  ∀ allowed, c.Enabled allowed → 0 < allowed

omit [Sub τ] [DecidableLE τ] [Timepiece τ] in
theorem Session.Onward.positive (h : s.Onward s') (hs : s.cache.Positive) : s'.cache.Positive :=
  fun allowed henabled => hs allowed (h.enabled_iff.1 henabled)

namespace Workshop

variable {w w' : Workshop τ σ}

/-- What was touched just now is in time, so it does not expire at once. -/
theorem lasting_of_positive (h : w.session.cache.Positive) : w.Lasting := by
  have hpast : ∀ (expiry : Option τ) (t : τ), (∀ allowed, expiry = some allowed → 0 < allowed) →
      Cache.isPast expiry t t = false := by
    intro expiry t hpos
    unfold Cache.isPast
    cases expiry with
    | none => rfl
    | some allowed =>
      have hlate := Clock.lt_iff_not_le.1 (hpos allowed rfl)
      rw [Option.any_some, decide_eq_false_iff_not, Timepiece.sub_self]
      exact hlate
  intro t
  exact ⟨hpast _ t fun allowed ha => h allowed (Or.inl ha), hpast _ t fun allowed ha => h allowed (Or.inr ha)⟩

end Workshop

/-- **An application is tended.** A cycle has stored it. Since then cycles have followed one another in time, each of
them over a listing with a record of the application whose run state is known, and have ended well; in between visits
have left it, and time has gone on. The time is that at which the latest cycle began. -/
inductive Tended (r : Roster) (platform : Handler Inquiry σ) (key : String) : τ → Workshop τ σ → Prop where
  | cached {w w' : Workshop τ σ} {listing : List AppRecord} {t : List (Exchange Keeping)} {done : Refresh}
      (positive : w.session.cache.Positive)
      (cycle : Attempt.Runs (Workshop.Proceeds platform) (r.refresh listing) w t (.ok done) w')
      (instant : w'.session.clock ≤ w.session.clock) (stored : key ∈ done.remapped ∨ key ∈ done.evaluated) :
      Tended r platform key w.session.clock w'
  | again {began : τ} {w w' : Workshop τ σ} {listing : List AppRecord} {record : AppRecord}
      {t : List (Exchange Keeping)} {done : Refresh} (before : Tended r platform key began w) (soon : w.InTime began)
      (listed : record ∈ listing) (named : record.guid = key) (known : record.hasState = true)
      (cycle : Attempt.Runs (Workshop.Proceeds platform) (r.refresh listing) w t (.ok done) w')
      (instant : w'.session.clock ≤ w.session.clock) : Tended r platform key w.session.clock w'
  | visit {began : τ} {w w' : Workshop τ σ} {order : Order} {t : List (Exchange Keeping)} {o : Except Fault Unit}
      (before : Tended r platform key began w) (leaves : order.Leaves key)
      (visit : Attempt.Runs (Workshop.Proceeds platform) (r.serve order) w t o w') : Tended r platform key began w'
  | meanwhile {began : τ} {w w' : Workshop τ σ} (before : Tended r platform key began w)
      (passage : Passage platform w.stray w.session w'.stray w'.session) : Tended r platform key began w'

namespace Tended

variable {r : Roster} {w : Workshop τ σ}

/-- **The entry of an application that is tended** has been renewed since the latest cycle began, as long as that is in
time. -/
theorem renewed (h : Tended r platform key began w) :
    w.session.cache.Positive ∧ (w.InTime began → w.session.Renewed key began) := by
  induction h with
  | @cached w w' _ _ _ positive cycle instant stored =>
    have honward := Workshop.onward_of_leads cycle.leads
    refine ⟨honward.positive positive, fun hend => ?_⟩
    exact Workshop.renewed_of_refresh cycle stored (Clock.le_refl _) hend
  | @again began w w' listing record _ done _ soon listed named known cycle instant ih =>
    obtain ⟨positive, hrenewed⟩ := ih
    have honward := Workshop.onward_of_leads cycle.leads
    refine ⟨honward.positive positive, fun hend => ?_⟩
    -- the entry is in time when the cycle begins, so the cycle reads its health and stores it
    have hold := (hrenewed soon).contents soon
    rw [← named] at hold
    have hsteps := (Roster.refresh_cycle (Workshop.keeps_showing platform) r (Workshop.lasting_of_positive positive)
      (Workshop.runs_answers_of_instant cycle instant)).2
    have hstored := Roster.evaluated_of_cycle listed known hold hsteps
    rw [named] at hstored
    exact Workshop.renewed_of_refresh cycle (Or.inr hstored) (Clock.le_refl _) hend
  | visit _ leaves visit ih =>
    have honward := Workshop.onward_of_leads visit.leads
    refine ⟨honward.positive ih.1, fun hend => ?_⟩
    exact (Workshop.renewed_of_runs (Roster.meets_serve_tending _ leaves) (ih.2 (hend.back honward)) visit hend).2
  | meanwhile _ passage ih =>
    have honward := passage.onward
    exact ⟨honward.positive ih.1, fun hend => passage.renewed hend (ih.2 (hend.back honward))⟩

/-- **An application that is tended is found in the cache**, without any call, at every moment that is in time: every
lookup of it that ends in time comes to it, and requests nothing else; and there is such a lookup. Whether it could be
put together anew does not matter, and neither does whether anything could be learned about its health. -/
theorem found (h : Tended r platform key began w) :
    (∀ t o w', Attempt.Runs (Workshop.Proceeds platform) (r.findById key) w t o w' → w'.InTime began →
        ∃ x, x.id = key ∧ o = .ok (some x) ∧ t = [⟨.lookup key, some x⟩]) ∧
      (w.InTime began → ∃ t o w', Attempt.Runs (Workshop.Proceeds platform) (r.findById key) w t o w' ∧
        w'.InTime began) := by
  constructor
  · intro t o w' hruns hend
    have hrenewed := h.renewed.2 (hend.back (Workshop.onward_of_leads hruns.leads))
    unfold Roster.findById at hruns
    obtain ⟨reply, m, rest, rfl, answer, hrest⟩ := Keeping.runs_ask_bind.1 hruns
    have hm : m.InTime began := hend.back (Workshop.onward_of_leads hrest.leads)
    have hlookup : (Keeping.tending key).asks (.lookup key) := trivial
    obtain ⟨x, rfl, hx⟩ := (Workshop.renewed_step hlookup hrenewed ⟨answer, hm⟩).1 rfl
    obtain ⟨rfl, rfl, -⟩ := runs_pure.1 hrest
    exact ⟨x, hx, rfl, rfl⟩
  · intro hnow
    obtain ⟨x, hx, -⟩ := ((h.renewed.2 hnow).find hnow key).1 rfl
    have hanswer : Workshop.Proceeds platform (.lookup key) w (some x) ⟨(w.session.lookup key).2, w.stray⟩ :=
      ⟨w.session, Passage.idle _ _, Prod.ext hx rfl⟩
    refine ⟨_, _, _, Keeping.runs_ask_bind.2 ⟨some x, _, [], rfl, hanswer, runs_pure.2 ⟨rfl, rfl, rfl⟩⟩, ?_⟩
    exact fun allowed henabled => hnow allowed (hanswer.onward.enabled_iff.1 henabled)

end Tended

/-- A platform that answers so many more calls, and fails after that. -/
def Facts.dwindling (facts : Facts) : Handler Inquiry Nat
  | .call _, 0 => (.error .cancelled, 0)
  | .call c, left + 1 => (facts.call c, left)
  | r, left => (facts.inquiry r, left)

namespace Roster

/-- A platform on which an application can be put together once. -/
abbrev dwindlingShop : Handler Inquiry Nat :=
  (Facts.alone (webApp "app-1" "STARTED")).dwindling

/-- A session in which an entry may be unread for less than four ticks, and unwritten for less than ten. -/
def leasedSession : Session Int Nat :=
  ⟨⟨some 4, some 10, []⟩, 0, ⟨"acct", false⟩, .empty, .whole 0, .working, 5⟩

/-- The expiries of that session, and its pool. -/
structure IsLeased (s : Session Int Nat) : Prop where
  readExpiry : s.cache.readExpiry = some 4
  writeExpiry : s.cache.writeExpiry = some 10
  pool : s.pool.refusal = none

namespace IsLeased

variable {s : Session Int Nat}

theorem allows (h : IsLeased s) {allowed : Int} (henabled : s.cache.Enabled allowed) : 4 ≤ allowed := by
  rcases henabled with hwrite | hread
  · rw [h.writeExpiry] at hwrite
    cases hwrite
    decide
  · rw [h.readExpiry] at hread
    cases hread
    decide

theorem positive (h : IsLeased s) : s.cache.Positive := by
  intro allowed henabled
  have hfour := h.allows henabled
  omega

theorem lasting (h : IsLeased s) : s.cache.Lasting :=
  Workshop.lasting_of_positive (w := ⟨s, []⟩) h.positive

theorem inTime (h : IsLeased s) {began : Int} (hbegan : s.clock - began < 4) : s.InTime began := by
  intro allowed henabled
  have hfour := h.allows henabled
  omega

end IsLeased

/-- The session after a first cycle. -/
def storedSession : Session Int Nat :=
  ((bare.refresh [webApp "app-1" "STARTED"]).run (Session.answerBackwards dwindlingShop) leasedSession).2

/-- The session three ticks later. -/
def waitingSession : Session Int Nat :=
  { storedSession with clock := 3 }

/-- The application, changed. -/
def changedApp : AppRecord :=
  { webApp "app-1" "STARTED" with updatedAt := ⟨60, 0, false⟩ }

/-- The session after a second cycle, in which the application could not be put together anew. -/
def renewedSession : Session Int Nat :=
  ((bare.refresh [changedApp]).run (Session.answerBackwards dwindlingShop) waitingSession).2

/-- The session another three ticks later. -/
def overdueSession : Session Int Nat :=
  { renewedSession with clock := 6 }

end Roster

open Roster in
/-- An application whose second cycle has failed in all it tried is found six ticks after the first one. -/
theorem Tended.found_overdue :
    ((bare.refresh [changedApp]).run (Session.answerBackwards dwindlingShop) waitingSession).1.toOption
        = some ⟨[], [], ["app-1"], ["app-1"]⟩ ∧
      Tended bare dwindlingShop "app-1" 3 ⟨overdueSession, []⟩ ∧
      ∃ t x w', Attempt.Runs (Workshop.Proceeds dwindlingShop) (bare.findById "app-1") ⟨overdueSession, []⟩ t
          (.ok (some x)) w' ∧
        x.id = "app-1" ∧ t = [⟨.lookup "app-1", some x⟩] := by
  have hleased : IsLeased leasedSession := ⟨rfl, rfl, rfl⟩
  have hwaiting : IsLeased waitingSession := ⟨by decide +kernel, by decide +kernel, by decide +kernel⟩
  have hoverdue : IsLeased overdueSession := ⟨by decide +kernel, by decide +kernel, by decide +kernel⟩
  have hfirst : ((bare.refresh [webApp "app-1" "STARTED"]).run (Session.answerBackwards dwindlingShop)
      leasedSession).1.toOption = some ⟨[], ["app-1"], [], ["app-1"]⟩ := by
    decide +kernel
  have hsecond : ((bare.refresh [changedApp]).run (Session.answerBackwards dwindlingShop) waitingSession).1.toOption
      = some ⟨[], [], ["app-1"], ["app-1"]⟩ := by
    decide +kernel
  obtain ⟨t₁, hcycle⟩ := Session.proceeds_of_toOption dwindlingShop _ hleased.lasting hleased.pool hfirst
  have hstored : Tended bare dwindlingShop "app-1" 0 ⟨storedSession, []⟩ :=
    Tended.cached hleased.positive hcycle (by decide +kernel) (Or.inl List.mem_cons_self)
  have hthree : Tended bare dwindlingShop "app-1" 0 ⟨waitingSession, []⟩ :=
    hstored.meanwhile (Passage.tick 3 (by decide +kernel) (Passage.idle _ _))
  obtain ⟨t₂, hcycle'⟩ := Session.proceeds_of_toOption dwindlingShop _ hwaiting.lasting hwaiting.pool hsecond
  have hrenewed : Tended bare dwindlingShop "app-1" 3 ⟨renewedSession, []⟩ :=
    hthree.again (hwaiting.inTime (by decide)) List.mem_cons_self (by decide) (by decide +kernel) hcycle'
      (by decide +kernel)
  have hsix : Tended bare dwindlingShop "app-1" 3 ⟨overdueSession, []⟩ :=
    hrenewed.meanwhile (Passage.tick 6 (by decide +kernel) (Passage.idle _ _))
  obtain ⟨hall, hsome⟩ := hsix.found
  obtain ⟨t, o, w', hruns, hend⟩ := hsome (hoverdue.inTime (by decide))
  obtain ⟨x, hx, rfl, rfl⟩ := hall t o w' hruns hend
  exact ⟨hsecond, hsix, _, x, w', hruns, hx, rfl⟩

end Steward
