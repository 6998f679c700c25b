import Steward.Proofs.Decimal.Numerals
import Steward.Proofs.Workload.Overlay
import Steward.Proofs.Workload.Soundness

/-!
# The order in which replicas are listed

Replicas are listed by their keys, shorter keys first and keys of one length by their characters. No two of them have the
same key, so there is only one such order: it does not depend on the order in which the reports came. On keys that are
numbers it is the order of numbers, whatever other keys there are.

## Contents

* `pair_sublist_of_pairwise` — of two members of an ordered list, the one below the other comes first;
* `Replica.KeyBelow.asymm`, `Replica.ordered_eq_of_perm` — one order only;
* `Replica.IsNumeral`, `Replica.numberOf`, `Replica.keyBelow_of_numberOf_lt` — keys that are numbers;
* `Workload.replicasAt_inOrder` — how the replicas are listed that reports speak of.
-/

namespace Steward

/-- Of two members of an ordered list, the one that is below the other comes first. -/
theorem pair_sublist_of_pairwise {α : Type} {R : α → α → Prop} (hasymm : ∀ {a b}, R a b → ¬ R b a) {xs : List α}
    (h : xs.Pairwise R) {a b : α} (ha : a ∈ xs) (hb : b ∈ xs) (hab : R a b) : [a, b].Sublist xs := by
  induction xs with
  | nil => cases ha
  | cons x xs ih =>
    obtain ⟨hx, hxs⟩ := List.pairwise_cons.1 h
    rcases List.mem_cons.1 hb with rfl | hlater
    · -- nothing is below the first member
      rcases List.mem_cons.1 ha with rfl | ha
      · exact absurd hab (hasymm hab)
      · exact absurd (hx a ha) (hasymm hab)
    · rcases List.mem_cons.1 ha with rfl | ha
      · exact List.Sublist.cons_cons a (List.singleton_sublist.2 hlater)
      · exact List.Sublist.cons x (ih hxs ha hlater)

namespace Replica

theorem KeyBelow.asymm {a b : String} (h : KeyBelow a b) : ¬ KeyBelow b a := by
  intro h'
  rcases h with hlt | ⟨heq, hlt⟩
  · rcases h' with hlt' | ⟨heq', -⟩ <;> omega
  · rcases h' with hlt' | ⟨-, hlt'⟩
    · omega
    · exact String.lt_asymm hlt hlt'

/-- **There is one order**: the same replicas are listed alike in whatever order they come. -/
theorem ordered_eq_of_perm {replicas replicas' : List Replica} (distinct : (replicas.map (·.key)).Nodup)
    (h : replicas'.Perm replicas) : ordered replicas' = ordered replicas := by
  have distinct' : (replicas'.map (·.key)).Nodup := (h.map (·.key)).nodup_iff.2 distinct
  have hperm : (ordered replicas').Perm (ordered replicas) :=
    (List.mergeSort_perm replicas' _).trans (h.trans (List.mergeSort_perm replicas _).symm)
  exact hperm.eq_of_pairwise (fun a b _ _ hab hba => absurd hba hab.asymm) (pairwise_ordered distinct')
    (pairwise_ordered distinct)

/-- A key that is a number, written without zeros in front. -/
abbrev IsNumeral (key : String) : Prop :=
  Decimal.Canonical key.toList

/-- The number that a key writes. -/
def numberOf (key : String) : Nat :=
  Decimal.value key.toList

/-- Keys that are numbers stand in the order of the numbers. -/
theorem keyBelow_of_numberOf_lt {a b : String} (ha : IsNumeral a) (hb : IsNumeral b) (h : numberOf a < numberOf b) :
    KeyBelow a b := by
  have hprecedes := ha.precedes hb h
  rw [String.length_toList, String.length_toList, ← String.lt_iff] at hprecedes
  exact hprecedes

end Replica

namespace Workload

/-- **How replicas are listed.** There is one for each report. They stand strictly in the order of their keys, shorter
keys first and keys of one length by their characters, in whatever order the reports came. Of two keys that are numbers,
the smaller number comes first. -/
theorem replicasAt_inOrder (w : Workload) (millis : Int) (reports : Keyed.Map String InstanceReport) :
    (w.replicasAt millis reports).Perm (reports.entries.map fun e => w.replicaAt millis e.1 e.2) ∧
    (w.replicasAt millis reports).Pairwise (fun a b => Replica.KeyBelow a.key b.key) ∧
    (∀ reports' : Keyed.Map String InstanceReport, reports'.entries.Perm reports.entries →
      w.replicasAt millis reports' = w.replicasAt millis reports) ∧
    ∀ e ∈ reports.entries, ∀ e' ∈ reports.entries, Replica.IsNumeral e.1 → Replica.IsNumeral e'.1 →
      Replica.numberOf e.1 < Replica.numberOf e'.1 →
      [w.replicaAt millis e.1 e.2, w.replicaAt millis e'.1 e'.2].Sublist (w.replicasAt millis reports) := by
  have hperm := w.replicasAt_perm millis reports
  have hordered := (w.staffed_replicasAt millis reports).ordered
  refine ⟨hperm, hordered, ?_, ?_⟩
  · intro reports' hreports
    refine Replica.ordered_eq_of_perm ?_ (hreports.map _)
    rw [List.map_map]
    exact reports.distinct
  · intro e he e' he' hnumeral hnumeral' hlt
    have hmem : ∀ e ∈ reports.entries, w.replicaAt millis e.1 e.2 ∈ w.replicasAt millis reports := fun e he =>
      hperm.mem_iff.2 (List.mem_map_of_mem he)
    exact pair_sublist_of_pairwise Replica.KeyBelow.asymm hordered (hmem e he) (hmem e' he')
      (Replica.keyBelow_of_numberOf_lt hnumeral hnumeral' hlt)

/-- Reports under these keys. -/
def reportsUnder (keys : List String) (distinct : keys.Nodup) : Keyed.Map String InstanceReport where
  entries := keys.map fun key => (key, default)
  distinct := by
    rw [List.map_map]
    exact (List.map_id keys).symm ▸ distinct

/-- The ninth comes before the tenth, in whatever order they are reported, and whatever else is. -/
theorem replicasAt_inOrder_mixed :
    (Replica.IsNumeral "9" ∧ Replica.IsNumeral "10" ∧ Replica.numberOf "9" < Replica.numberOf "10") ∧
      ["10", "web", "9"].Perm ["9", "10", "web"] ∧
      (default : Workload).replicasAt 0 (reportsUnder ["10", "web", "9"] (by decide))
        = (default : Workload).replicasAt 0 (reportsUnder ["9", "10", "web"] (by decide)) ∧
      [(default : Workload).replicaAt 0 "9" default, (default : Workload).replicaAt 0 "10" default].Sublist
        ((default : Workload).replicasAt 0 (reportsUnder ["9", "10", "web"] (by decide))) := by
  have hnine : Replica.IsNumeral "9" := Decimal.canonical_cons '9' [] (by decide) (by decide)
  have hten : Replica.IsNumeral "10" := Decimal.canonical_cons '1' ['0'] (by decide) (by decide)
  have hlt : Replica.numberOf "9" < Replica.numberOf "10" := by decide
  have hperm : ["10", "web", "9"].Perm ["9", "10", "web"] := by decide
  obtain ⟨-, -, horder, hnumbers⟩ :=
    replicasAt_inOrder default 0 (reportsUnder ["9", "10", "web"] (by decide))
  refine ⟨⟨hnine, hten, hlt⟩, hperm, horder _ (hperm.map fun key => (key, default)), ?_⟩
  exact hnumbers ("9", default) List.mem_cons_self ("10", default) (List.mem_cons_of_mem _ List.mem_cons_self) hnine hten
    hlt

end Workload

end Steward
