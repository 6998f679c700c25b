import Steward.Mapping
import Steward.Proofs.Program.Contract

/-!
# Sound workloads

A workload is put together from answers that may be anything, and its health is read again and again. What always holds
of it is `Workload.Sound`: it stands for its key in its account, only a started one has replicas, its replicas are of
it, in its space and in order, and its droplet is its own. All that is asked of a platform for that is `Inquiry.honest`:
who asks for an application gets that application.

## Contents

* `Replica.KeyBelow`, `pairwise_ordered` — the order of replicas;
* `Workload.Sound` — what always holds; `Workload.Staffed` — the part of it that is about replicas;
* `Inquiry.honest` — the contract of inquiries;
* `Workload.Sound.evaluate`, `Mapper.meets_map` — reading the health and mapping make sound workloads.
-/

namespace Steward

/-! ## The order of replicas -/

namespace Replica

/-- Whether one key stands before another: shorter keys first, keys of one length by their characters. -/
def KeyBelow (a b : String) : Prop :=
  a.length < b.length ∨ a.length = b.length ∧ a < b

theorem keyAtMost_iff {a b : String} : keyAtMost a b = true ↔ a.length < b.length ∨ a.length = b.length ∧ ¬ b < a := by
  unfold keyAtMost
  rw [Bool.or_eq_true, Bool.and_eq_true, decide_eq_true_iff, decide_eq_true_iff, Bool.not_eq_true', decide_eq_false_iff_not]

theorem keyAtMost_trans {a b c : String} (hab : keyAtMost a b = true) (hbc : keyAtMost b c = true) :
    keyAtMost a c = true := by
  rw [keyAtMost_iff] at hab hbc ⊢
  rcases hab with hab | ⟨hab, hle⟩
  · rcases hbc with hbc | ⟨hbc, -⟩ <;> exact Or.inl (by omega)
  · rcases hbc with hbc | ⟨hbc, hle'⟩
    · exact Or.inl (by omega)
    · rw [String.not_lt] at hle hle'
      exact Or.inr ⟨by omega, String.not_lt.2 (String.le_trans hle hle')⟩

theorem keyAtMost_total (a b : String) : (keyAtMost a b || keyAtMost b a) = true := by
  rw [Bool.or_eq_true, keyAtMost_iff, keyAtMost_iff]
  rcases Nat.lt_trichotomy a.length b.length with hlt | heq | hgt
  · exact Or.inl (Or.inl hlt)
  · by_cases hlt : b < a
    · exact Or.inr (Or.inr ⟨heq.symm, String.lt_asymm hlt⟩)
    · exact Or.inl (Or.inr ⟨heq, hlt⟩)
  · exact Or.inr (Or.inl hgt)

/-- Of different keys one stands before the other. -/
theorem keyBelow_of_keyAtMost {a b : String} (h : keyAtMost a b = true) (hne : a ≠ b) : KeyBelow a b := by
  rw [keyAtMost_iff] at h
  rcases h with hlt | ⟨heq, hle⟩
  · exact Or.inl hlt
  · by_cases hlt : a < b
    · exact Or.inr ⟨heq, hlt⟩
    · exact absurd (String.le_antisymm (String.not_lt.1 hle) (String.not_lt.1 hlt)) hne

theorem KeyBelow.ne {a b : String} (h : KeyBelow a b) : a ≠ b := by
  rintro rfl
  rcases h with hlt | ⟨-, hlt⟩
  · exact Nat.lt_irrefl _ hlt
  · exact String.lt_irrefl _ hlt

/-- **Replicas with different keys** stand in the order of their keys. -/
theorem pairwise_ordered {replicas : List Replica} (distinct : (replicas.map (·.key)).Nodup) :
    (ordered replicas).Pairwise fun a b => KeyBelow a.key b.key := by
  have htrans : ∀ a b c : Replica, keyAtMost a.key b.key = true → keyAtMost b.key c.key = true →
      keyAtMost a.key c.key = true := fun _ _ _ hab hbc => keyAtMost_trans hab hbc
  have htotal : ∀ a b : Replica, (keyAtMost a.key b.key || keyAtMost b.key a.key) = true :=
    fun a b => keyAtMost_total a.key b.key
  have hsorted : (ordered replicas).Pairwise fun a b => keyAtMost a.key b.key = true :=
    List.pairwise_mergeSort htrans htotal replicas
  have hperm : (ordered replicas).Perm replicas := List.mergeSort_perm replicas _
  have hnodup : ((ordered replicas).map (·.key)).Nodup := (hperm.map (·.key)).nodup_iff.2 distinct
  have hdistinct : (ordered replicas).Pairwise fun a b => a.key ≠ b.key := List.pairwise_map.1 hnodup
  exact (hsorted.and hdistinct).imp fun h => keyBelow_of_keyAtMost h.1 h.2

end Replica

/-! ## Sound workloads -/

namespace Workload

/-- These are replicas of the workload, in its space, in the order of their keys. -/
structure Staffed (w : Workload) (replicas : List Replica) : Prop where
  placed : ∀ r ∈ replicas, r.app = w.id ∧ r.zone = w.region
  ordered : replicas.Pairwise fun a b => Replica.KeyBelow a.key b.key

/-- **The workload is sound** under a key in an account. -/
structure Sound (account key : String) (w : Workload) : Prop where
  id : w.id = key
  owned : w.account = account
  /-- Only a started workload has replicas. -/
  quiet : w.state ≠ .started → w.replicas = []
  /-- They are of this workload, and in its space. -/
  placed : ∀ r ∈ w.replicas, r.app = key ∧ r.zone = w.space.bind (·.name)
  /-- They are in the order of their keys, so no key comes twice. -/
  ordered : w.replicas.Pairwise fun a b => Replica.KeyBelow a.key b.key
  /-- Its droplet is named for it, and in its space. -/
  staged : ∀ d, w.droplet = some d → d.space = w.space ∧ d.name = w.name ++ "-droplet"

theorem Sound.own {account key : String} {w : Workload} (h : w.Sound account key) : w.Sound account w.id := by
  rw [h.id]
  exact h

theorem staffed_nil (w : Workload) : w.Staffed [] :=
  ⟨List.forall_mem_nil _, List.Pairwise.nil⟩

theorem staffed_replicasAt (w : Workload) (millis : Int) (reports : Keyed.Map String InstanceReport) :
    w.Staffed (w.replicasAt millis reports) := by
  unfold replicasAt
  refine ⟨?_, Replica.pairwise_ordered ?_⟩
  · intro r hr
    obtain ⟨e, -, rfl⟩ := List.mem_map.1 (List.mem_mergeSort.1 hr)
    exact ⟨rfl, rfl⟩
  · rw [List.map_map]
    exact reports.distinct

/-- With the replicas of a sound workload, another state keeps it sound. -/
theorem Sound.withHealth {account key : String} {w w' : Workload} (h : w.Sound account key) {state : RunState}
    {replicas : List Replica} (staffed : w.Staffed replicas) (hw : w.withHealth state replicas = .ok w') :
    w'.Sound account key := by
  unfold Workload.withHealth checked at hw
  by_cases hrule : (replicas.isEmpty || decide (state = .started)) = true
  · rw [if_pos hrule] at hw
    cases hw
    refine ⟨h.id, h.owned, ?_, ?_, staffed.ordered, h.staged⟩
    · intro hstate
      rw [Bool.or_eq_true] at hrule
      rcases hrule with hempty | hstarted
      · exact List.isEmpty_iff.1 hempty
      · exact absurd (of_decide_eq_true hstarted) hstate
    · rw [← h.id]
      exact staffed.placed
  · rw [if_neg hrule] at hw
    cases hw

end Workload

/-! ## Honest platforms -/

/-- **Honest inquiries.** Whoever asks for an application gets that application, if any. All else may be replied as it
comes. -/
def Inquiry.honest : Contract Inquiry where
  asks _ := True
  replies
    | .call (.application id), reply => ∀ record, reply = .ok (some record) → record.guid = id
    | _, _ => True

namespace Inquiry

variable {α : Type}

theorem meets (p : Attempt Inquiry α) : p.Meets honest fun _ => True :=
  Attempt.meets_of_asks (fun _ => trivial) p

theorem meets_application (id : String) :
    (call (.application id)).Meets honest fun found => ∀ record, found = some record → record.guid = id := by
  refine ⟨Program.Meets.ask trivial fun reply hreply => Program.Meets.done ?_⟩
  rintro found rfl record rfl
  exact hreply record rfl

end Inquiry

/-! ## Health -/

namespace Workload

open Attempt

theorem meets_readReplicas (w : Workload) : w.readReplicas.Meets Inquiry.honest w.Staffed := by
  unfold readReplicas
  refine (Inquiry.meets _).bind fun reports _ => (Inquiry.meets _).bind fun millis _ => ?_
  exact meets_pure (w.staffed_replicasAt millis _)

/-- Replicas that cannot be read are none. -/
theorem meets_replicasOrNone (w : Workload) (record : AppRecord) :
    (w.replicasOrNone record).Meets Inquiry.honest w.Staffed := by
  unfold replicasOrNone
  refine w.meets_readReplicas.settle.bind fun outcome houtcome => ?_
  cases outcome with
  | ok replicas => exact (Inquiry.meets _).bind fun _ _ => meets_pure (houtcome replicas rfl)
  | error f => exact (Inquiry.meets _).bind fun _ _ => meets_pure w.staffed_nil

/-- **Reading its health keeps a workload sound.** -/
theorem Sound.evaluate {account key : String} {w : Workload} (h : w.Sound account key) (record : AppRecord) :
    (w.evaluate record).Meets Inquiry.honest (Sound account key) := by
  unfold Workload.evaluate
  refine (Inquiry.meets _).bind fun state _ => ?_
  have hrest : ∀ replicas, w.Staffed replicas →
      (Attempt.ofExcept (w.withHealth state replicas) : Attempt Inquiry Workload).Meets Inquiry.honest
        (Sound account key) :=
    fun replicas staffed => meets_ofExcept fun w' hw' => h.withHealth staffed hw'
  cases state with
  | started => exact (w.meets_replicasOrNone record).bind hrest
  | stopped => exact (meets_pure w.staffed_nil).bind hrest

end Workload

/-! ## Mapping -/

section

open Attempt

/-- A droplet that is read is named for its record, and in its space. -/
theorem meets_dropletOf (record : AppRecord) (space : Option Space) :
    (dropletOf record space).Meets Inquiry.honest fun droplet =>
      ∀ d, droplet = some d → d.space = space ∧ d.name = record.name ++ "-droplet" := by
  have hread : (readDroplet record space).Meets Inquiry.honest fun droplet =>
      ∀ d, droplet = some d → d.space = space ∧ d.name = record.name ++ "-droplet" := by
    unfold readDroplet
    refine (Inquiry.meets _).bind fun packages _ => (Inquiry.meets _).bind fun droplet _ => meets_pure ?_
    intro d hd
    obtain ⟨read, -, rfl⟩ := Option.map_eq_some_iff.1 hd
    exact ⟨rfl, rfl⟩
  unfold dropletOf
  refine hread.settle.bind fun outcome houtcome => ?_
  cases outcome with
  | ok droplet => exact meets_pure (houtcome droplet rfl)
  | error f => exact (Inquiry.meets _).bind fun _ _ => meets_pure fun d hd => nomatch hd

/-- What is put together for a record is sound. -/
theorem Mapper.sound_of_assemble {m : Mapper} {record : AppRecord} {found : Findings} {w : Workload}
    (hdroplet : ∀ d, found.droplet = some d → d.space = found.space ∧ d.name = record.name ++ "-droplet")
    (h : m.assemble record found = .ok w) : w.Sound m.account record.guid := by
  unfold Mapper.assemble at h
  obtain ⟨createdTime, -, h⟩ := except_bind_eq_ok.1 h
  obtain ⟨updatedTime, -, h⟩ := except_bind_eq_ok.1 h
  obtain ⟨build, -, h⟩ := except_bind_eq_ok.1 h
  obtain ⟨artifact, -, h⟩ := except_bind_eq_ok.1 h
  obtain ⟨pipelineId, -, h⟩ := except_bind_eq_ok.1 h
  cases h
  exact ⟨rfl, rfl, fun _ => rfl, List.forall_mem_nil _, List.Pairwise.nil, hdroplet⟩

/-- **A mapped workload is sound** under the identifier of its record. -/
theorem Mapper.meets_map (m : Mapper) (record : AppRecord) :
    (m.map record).Meets Inquiry.honest fun mapped => ∀ w, mapped = some w → w.Sound m.account record.guid := by
  unfold Mapper.map
  refine (Inquiry.meets _).bind fun state _ => (Inquiry.meets _).bind fun space _ =>
    (Inquiry.meets _).bind fun environment _ => ?_
  cases environment with
  | refused => exact meets_pure fun w hw => nomatch hw
  | read environment =>
    refine (Inquiry.meets _).bind fun process _ => (meets_dropletOf record space).bind fun droplet hdroplet => ?_
    have hassembled : (Attempt.ofExcept (m.assemble record ⟨state, space, environment, process, droplet⟩) :
        Attempt Inquiry Workload).Meets Inquiry.honest (Workload.Sound m.account record.guid) :=
      meets_ofExcept fun w hw => Mapper.sound_of_assemble hdroplet hw
    refine hassembled.bind fun assembled hsound => (hsound.evaluate record).bind fun w hw => meets_pure ?_
    rintro _ ⟨⟩
    exact hw

end

end Steward
