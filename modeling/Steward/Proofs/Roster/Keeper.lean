import Steward.Roster.Basic
import Steward.Proofs.Program.Endings

/-!
# What a keeper can rely on

The programs of a roster are run against any answers that are faithful (`Keeping.Keeps`): requests change what
the cache shows as their names say, and tell the truth about it. What becomes of a batch is left to a relation
of its own, `worked`.

## Contents

* `Contents` — what a cache shows; `Contents.put`, `drop`, `putAll`, `within` — changes of it;
* `Keeping.Keeps` — faithful answers;
* `Keeping.runs_under` — events with fields bound around them make no difference;
* `Keeping.Leaves` — what exchanges leave; `Keeps.leaves_plain`, `leaves_store`, `leaves_invalidate`, `leaves_batch` —
  by their kinds.
-/

namespace Steward

/-! ## Contents -/

/-- What a cache shows under each key. -/
abbrev Contents := String → Option Workload

namespace Contents

/-- Contents with a workload under a key. -/
def put (c : Contents) (key : String) (w : Workload) : Contents :=
  fun other => if other = key then some w else c other

/-- Contents without a key. -/
def drop (c : Contents) (key : String) : Contents :=
  fun other => if other = key then none else c other

/-- Contents with workloads that are stored one after the other, each under its own identifier. -/
def putAll (c : Contents) (ws : List Workload) : Contents :=
  ws.foldl (fun c w => c.put w.id w) c

/-- Contents without the keys that are not listed. -/
def within (c : Contents) (listing : List AppRecord) : Contents :=
  fun key => if listing.any (·.guid = key) then c key else none

end Contents

/-! ## Faithful answers -/

/-- What became of a batch. -/
abbrev BatchReply := Except Fault (List (Except Fault (Option Workload)))

/-- What became of the batches of a run, in order. -/
def batchReplies (t : List (Exchange Keeping)) : List BatchReply :=
  t.filterMap fun e =>
    match e with
    | ⟨.batch _, reply⟩ => some reply
    | _ => none

namespace Keeping

/-- A request that changes what the cache shows. -/
def Request.isWrite : Keeping.Request → Bool
  | .store _ _ | .invalidate _ => true
  | _ => false

/-- **Faithful answers.** From a good state, requests go to good states; they change the contents as their names
say and tell the truth about them, and of a batch becomes what `worked` allows. -/
structure Keeps {ω : Type} (A : Answering Keeping ω) (good : ω → Prop) (shown : ω → Contents)
    (worked : Contents → List Task → BatchReply → Prop) : Prop where
  stays : ∀ {r w reply w'}, good w → A r w reply w' → good w'
  frame : ∀ {r w reply w'}, good w → A r w reply w' → r.isWrite = false → shown w' = shown w
  store : ∀ {key x w reply w'}, good w → A (.store key x) w reply w' → shown w' = (shown w).put key x
  invalidate : ∀ {key w reply w'}, good w → A (.invalidate key) w reply w' → shown w' = (shown w).drop key
  lookup : ∀ {key w reply w'}, good w → A (.lookup key) w reply w' → reply = shown w key
  keys : ∀ {w reply w'}, good w → A .keys w reply w' → ∀ key, shown w key ≠ none → key ∈ reply
  batch : ∀ {tasks w reply w'}, good w → A (.batch tasks) w reply w' → worked (shown w) tasks reply
  length : ∀ {c tasks outcomes}, worked c tasks (.ok outcomes) → outcomes.length = tasks.length

/-! ## Bound fields -/

/-- Answers to a keeper whose events, and those of whose workers, have fields bound around them. -/
def answersUnder {ω : Type} (fields : List (String × Value)) (A : Answering Keeping ω) : Answering Keeping ω
  | .inquiry (.report e), w, reply, w' => A (.inquiry (.report (e.within fields))) w reply w'
  | .batch tasks, w, reply, w' => A (.batch (tasks.map (Errand.under fields))) w reply w'
  | r, w, reply, w' => A r w reply w'

variable {ω : Type} {A : Answering Keeping ω} {good : ω → Prop} {shown : ω → Contents}
  {worked : Contents → List Task → BatchReply → Prop}

theorem Keeps.under (fields : List (String × Value)) (hA : Keeps A good shown worked) :
    Keeps (answersUnder fields A) good shown
      fun c tasks => worked c (tasks.map (Errand.under fields)) where
  stays := by
    intro r w reply w' hw h
    unfold answersUnder at h
    split at h
    · exact hA.stays hw h
    · exact hA.stays hw h
    · exact hA.stays hw h
  frame := by
    intro r w reply w' hw h hr
    unfold answersUnder at h
    -- neither a report nor a batch writes, whatever fields are bound
    split at h
    · exact hA.frame hw h rfl
    · exact hA.frame hw h rfl
    · exact hA.frame hw h hr
  store := fun hw h => hA.store hw h
  invalidate := fun hw h => hA.invalidate hw h
  lookup := fun hw h => hA.lookup hw h
  keys := fun hw h => hA.keys hw h
  batch := fun hw h => hA.batch hw h
  length := by
    intro c tasks outcomes h
    rw [hA.length h, List.length_map]

/-- An exchange with fields bound around its event, or around the events of its workers. -/
def boundExchange (fields : List (String × Value)) : Exchange Keeping → Exchange Keeping
  | ⟨.inquiry (.report e), reply⟩ => ⟨.inquiry (.report (e.within fields)), reply⟩
  | ⟨.batch tasks, reply⟩ => ⟨.batch (tasks.map (Errand.under fields)), reply⟩
  | e => e

/-- The request that carries out a keeper's request under bound fields is answered as that one would be. -/
theorem runs_requestUnder_bind {α : Type} {fields : List (String × Value)} {r : Keeping.Request}
    {next : Keeping.Reply r → Program Keeping α} {w w' : ω} {t : List (Exchange Keeping)} {a : α}
    (h : Program.Runs A ((Keeping.requestUnder fields r).bind next) w t a w') :
    ∃ reply m rest, answersUnder fields A r w reply m ∧ Program.Runs A (next reply) m rest a w' ∧
      t = boundExchange fields ⟨r, reply⟩ :: rest := by
  cases r with
  | inquiry r =>
    cases r with
    | _ =>
      obtain ⟨reply, m, rest, rfl, answer, hrest⟩ := Program.runs_ask.1 h
      exact ⟨reply, m, rest, answer, hrest, rfl⟩
  | _ =>
    obtain ⟨reply, m, rest, rfl, answer, hrest⟩ := Program.runs_ask.1 h
    exact ⟨reply, m, rest, answer, hrest, rfl⟩

theorem batchReplies_cons (e : Exchange Keeping) (t : List (Exchange Keeping)) :
    batchReplies (e :: t) = batchReplies [e] ++ batchReplies t :=
  List.filterMap_append (l := [e])

theorem batchReplies_bound (fields : List (String × Value)) (t : List (Exchange Keeping)) :
    batchReplies (t.map (boundExchange fields)) = batchReplies t := by
  unfold batchReplies
  rw [List.filterMap_map]
  congr 1
  funext ⟨r, reply⟩
  cases r with
  | inquiry r => cases r with | _ => rfl
  | _ => rfl

/-- A run under bound fields exchanges what the run without them does, with the fields bound. -/
theorem runs_under_bound {α : Type} {fields : List (String × Value)} {p : Attempt Keeping α} {w w' : ω}
    {t : List (Exchange Keeping)} {o : Except Fault α} (h : Attempt.Runs A (Keeping.under fields p) w t o w') :
    ∃ t', Attempt.Runs (answersUnder fields A) p w t' o w' ∧ t = t'.map (boundExchange fields) := by
  unfold Attempt.Runs at h ⊢
  have hlift : Program.Runs A (Program.lift (Keeping.requestUnder fields) p.outcome) w t o w' := h
  clear h
  generalize p.outcome = q at hlift ⊢
  induction q generalizing w t with
  | done a =>
    obtain ⟨rfl, rfl, rfl⟩ := Program.runs_done.1 hlift
    exact ⟨[], Program.Runs.done _ _, rfl⟩
  | ask r next ih =>
    obtain ⟨reply, m, rest, answer, hrest, rfl⟩ := runs_requestUnder_bind hlift
    obtain ⟨t', ht', rfl⟩ := ih reply hrest
    exact ⟨⟨r, reply⟩ :: t', Program.Runs.ask answer ht', rfl⟩

/-- **Bound fields make no difference** to a run but for its events and the events of its workers. -/
theorem runs_under {α : Type} {fields : List (String × Value)} {p : Attempt Keeping α} {w w' : ω}
    {t : List (Exchange Keeping)} {o : Except Fault α} (h : Attempt.Runs A (Keeping.under fields p) w t o w') :
    ∃ t', Attempt.Runs (answersUnder fields A) p w t' o w' ∧ batchReplies t = batchReplies t' := by
  obtain ⟨t', h', rfl⟩ := runs_under_bound h
  exact ⟨t', h', batchReplies_bound fields t'⟩

/-! ## Stretches of exchanges -/

/-- What exchanges leave: a good state, these contents, and these replies to batches. -/
structure Leaves (good : ω → Prop) (shown : ω → Contents) (t : List (Exchange Keeping)) (w' : ω) (c : Contents)
    (replies : List BatchReply) : Prop where
  isGood : good w'
  shows : shown w' = c
  answered : batchReplies t = replies

theorem Leaves.after {t₁ t₂ : List (Exchange Keeping)} {m w' : ω} {c c' : Contents} {r₁ r₂ : List BatchReply}
    (h₁ : Leaves good shown t₁ m c r₁) (h₂ : Leaves good shown t₂ w' c' r₂) :
    Leaves good shown (t₁ ++ t₂) w' c' (r₁ ++ r₂) := by
  refine ⟨h₂.isGood, h₂.shows, ?_⟩
  rw [← h₁.answered, ← h₂.answered]
  exact List.filterMap_append

/-- Neither a change of the contents nor a batch. -/
def Request.isPlain : Keeping.Request → Bool
  | .store _ _ | .invalidate _ | .batch _ => false
  | _ => true

variable {α : Type} {w w' : ω} {t : List (Exchange Keeping)}

theorem runs_ask_bind {r : Keeping.Request} {f : Keeping.Reply r → Attempt Keeping α} {o : Except Fault α} :
    Attempt.Runs A (ask r >>= f) w t o w' ↔
      ∃ reply m rest, t = ⟨r, reply⟩ :: rest ∧ A r w reply m ∧ Attempt.Runs A (f reply) m rest o w' :=
  Attempt.runs_request_bind

theorem report_eq (level : Level) (text : String) (fields : List (String × Value)) :
    report level text fields = ask (.inquiry (.report ⟨level, text, fields⟩)) :=
  rfl

/-- Plain requests leave everything as it was. -/
theorem Keeps.leaves_plain (hA : Keeps A good shown worked) (hw : good w) (h : A.Leads w t w')
    (ht : ∀ e ∈ t, e.request.isPlain = true) : Leaves good shown t w' (shown w) [] := by
  induction h with
  | nil s => exact ⟨hw, rfl, rfl⟩
  | @cons r reply s m s' rest answer _ ih =>
    obtain ⟨hr, hrest⟩ := List.forall_mem_cons.1 ht
    have hwrite : r.isWrite = false := by
      cases r with
      | store _ _ | invalidate _ => cases hr
      | _ => rfl
    have hbatch : batchReplies [⟨r, reply⟩] = [] := by
      cases r with
      | batch _ => cases hr
      | _ => rfl
    have hleft := ih (hA.stays hw answer) hrest
    rw [hA.frame hw answer hwrite] at hleft
    refine ⟨hleft.isGood, hleft.shows, ?_⟩
    rw [batchReplies_cons, hbatch, hleft.answered]
    rfl

/-- A workload that is stored shows under its key, and nothing else changes. -/
theorem Keeps.leaves_store (hA : Keeps A good shown worked) {key : String} {x : Workload} {reply : Unit} (hw : good w)
    (answer : A (.store key x) w reply w') :
    Leaves good shown [⟨.store key x, reply⟩] w' ((shown w).put key x) [] :=
  ⟨hA.stays hw answer, hA.store hw answer, rfl⟩

/-- A workload that is dropped is not shown any more, and nothing else changes. -/
theorem Keeps.leaves_invalidate (hA : Keeps A good shown worked) {key : String} {reply : Bool} (hw : good w)
    (answer : A (.invalidate key) w reply w') :
    Leaves good shown [⟨.invalidate key, reply⟩] w' ((shown w).drop key) [] :=
  ⟨hA.stays hw answer, hA.invalidate hw answer, rfl⟩

/-- A batch changes nothing. -/
theorem Keeps.leaves_batch (hA : Keeps A good shown worked) {tasks : List Task} {reply : BatchReply} (hw : good w)
    (answer : A (.batch tasks) w reply w') : Leaves good shown [⟨.batch tasks, reply⟩] w' (shown w) [reply] :=
  ⟨hA.stays hw answer, hA.frame hw answer rfl, rfl⟩

end Keeping

end Steward
