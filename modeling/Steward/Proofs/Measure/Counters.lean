import Mathlib.Algebra.GroupWithZero.Nat
import Steward.Measure
import Steward.Proofs.Binary64.Rounding

/-!
# What counters say

A counter is a double, and to raise it is to add doubles. So a counter says how often something happened as long as the
number is one of 53 bits; what is true of all numbers is only that it is raised by this amount or by nothing
(`Binary64.grown`). Both are said here, of one measure and of a row of them.

## Contents

* `Tally.value` — what a counter says, `Tally.value_raise` — one counter is raised and all others stay;
* `Measure.series`, `Measure.count` — the counter that a measure raises, and how far;
* `Measure.raised` — measures together;
* `Tally.value_record` — one measure; `Meter.recordAll` — measures in a row;
* `Meter.value_recordAll_of_nodup` — measures of different counters;
* `Meter.value_recordAll` — counters that say whole numbers.
-/

namespace Steward

/-- What stands under a key after a write. -/
theorem Keyed.find?_update {κ α : Type} [DecidableEq κ] (entries : List (κ × α)) (key k : κ) (f : Option α → α) :
    (update entries key f).find? (·.1 = k) =
      if k = key then some (key, f ((entries.find? (·.1 = key)).map (·.2))) else entries.find? (·.1 = k) := by
  induction entries with
  | nil =>
    by_cases hk : k = key
    · simp [update, hk]
    · simp [update, hk, Ne.symm hk]
  | cons e rest ih =>
    obtain ⟨k', a⟩ := e
    unfold update
    by_cases hkey : k' = key
    · subst hkey
      by_cases hk : k = k'
      · simp [hk]
      · simp [hk, Ne.symm hk]
    · rw [if_neg hkey]
      by_cases hk : k' = k
      · subst hk
        simp [hkey]
      · rw [List.find?_cons_of_neg (by simpa using hk), ih, List.find?_cons_of_neg (by simpa using hkey),
          List.find?_cons_of_neg (by simpa using hk)]

/-- A counter that is raised by a count, or left if there is nothing to count. -/
def Binary64.grown (x : Binary64) (n : Nat) : Binary64 :=
  if n = 0 then x else add x (ofInt n)

@[simp] theorem Binary64.grown_zero (x : Binary64) : grown x 0 = x :=
  rfl

/-- **Counts are kept exactly** while they are numbers of 53 bits. -/
theorem Binary64.grown_ofInt {a n : Nat} (h : a + n ≤ twoTo 53) : grown (ofInt a) n = ofInt (a + n : Nat) := by
  unfold grown
  split
  · next hn => rw [hn, Nat.add_zero]
  · exact add_ofInt (by omega) (by omega)

/-! ## One counter -/

namespace Tally

/-- What a counter says; one that was never touched says nothing more than zero. -/
def value (t : Tally) (s : Series) : Binary64 :=
  ((t.counters.find? (·.1 = s)).map (·.2)).getD (.zero false)

@[simp] theorem value_empty (s : Series) : Tally.empty.value s = .ofInt 0 :=
  Binary64.ofInt_zero.symm

/-- A counter is touched, and then raised. -/
theorem counters_raise (t : Tally) (s : Series) (n : Nat) :
    (t.raise s (.whole n)).2.counters =
      Keyed.update (Keyed.update t.counters s fun old => old.getD (.zero false)) s fun old =>
        Binary64.add (old.getD (.zero false)) (.ofInt n) := by
  have hsign : ¬ (Number.whole n < 0) := by
    show ¬ (decide ((n : Int) < 0) = true)
    simp
  have hamount : Number.toReal (.whole n) = .ofInt n := rfl
  unfold raise
  dsimp only
  rw [if_neg hsign, hamount]

/-- **One counter is raised, and all others stay.** -/
theorem value_raise (t : Tally) (s s' : Series) (n : Nat) :
    (t.raise s (.whole n)).2.value s' = if s' = s then Binary64.add (t.value s) (.ofInt n) else t.value s' := by
  unfold value
  rw [counters_raise, Keyed.find?_update]
  by_cases hs : s' = s
  · rw [if_pos hs, if_pos hs, Keyed.find?_update, if_pos rfl]
    simp only [Option.map_some, Option.getD_some]
  · rw [if_neg hs, if_neg hs, Keyed.find?_update, if_neg hs]

theorem value_raiseSome (t : Tally) (s s' : Series) (n : Nat) :
    (t.raiseSome s (.whole n)).2.value s' = if s' = s then Binary64.grown (t.value s) n else t.value s' := by
  have hzero : Number.equal (.whole n) 0 = decide (n = 0) := by
    show ((n : Int) == 0) = decide (n = 0)
    rw [Bool.eq_iff_iff]
    simp
  unfold raiseSome Binary64.grown
  rw [hzero]
  by_cases hn : n = 0
  · rw [if_pos (decide_eq_true hn), if_pos hn]
    split
    · next hs => rw [hs]
    · rfl
  · rw [if_neg (by simpa using hn), if_neg hn]
    exact value_raise t s s' n

end Tally

/-! ## One measure -/

namespace Measure

/-- The counter that a measure raises. -/
def series (account : String) : Measure → Series
  | evicted _ => ⟨"foundry_sync_entities_evicted_total", [("account", account)]⟩
  | remapped _ => ⟨"foundry_sync_entities_remapped_total", [("account", account)]⟩
  | skipped phase _ => ⟨"foundry_sync_entities_skipped_total", [("account", account), ("phase", phase)]⟩
  | cycle outcome _ => ⟨"foundry_sync_refresh_cycles_total", [("account", account), ("outcome", outcome)]⟩
  | step name outcome => ⟨"foundry_sync_pipeline_steps_total", [("outcome", outcome), ("step", name)]⟩

/-- How far a measure raises its counter. An amount that is no integer counts for nothing here. -/
def count : Measure → Nat
  | evicted amount | remapped amount | skipped _ amount =>
    match amount with
    | .whole n => n.toNat
    | .real _ => 0
  | cycle .. | step .. => 1

/-- A measure whose amount is a count. -/
def IsCount : Measure → Prop
  | evicted amount | remapped amount | skipped _ amount => ∃ n : Nat, amount = .whole n
  | cycle .. | step .. => True

/-- How far some measures raise a counter together. -/
def raised (account : String) (s : Series) (ms : List Measure) : Nat :=
  ((ms.filter fun m => m.series account = s).map count).sum

@[simp] theorem raised_nil (account : String) (s : Series) : raised account s [] = 0 :=
  rfl

theorem raised_cons (account : String) (s : Series) (m : Measure) (ms : List Measure) :
    raised account s (m :: ms) = (if m.series account = s then m.count else 0) + raised account s ms := by
  unfold raised
  by_cases hs : m.series account = s
  · rw [List.filter_cons_of_pos (by simpa using hs), List.map_cons, List.sum_cons, if_pos hs]
  · rw [List.filter_cons_of_neg (by simpa using hs), if_neg hs, Nat.zero_add]

theorem raised_eq_zero {account : String} {s : Series} {ms : List Measure} (h : ∀ m ∈ ms, m.series account ≠ s) :
    raised account s ms = 0 := by
  unfold raised
  rw [List.filter_eq_nil_iff.2 (by simpa using h), List.map_nil, List.sum_nil]

end Measure

/-- **What a measure does to the counters.** -/
theorem Tally.value_record {m : Measure} (h : m.IsCount) (t : Tally) (account : String) (s : Series) :
    (t.record account m).2.value s =
      if m.series account = s then Binary64.grown (t.value s) m.count else t.value s := by
  have hself : ∀ s', (if s = s' then Binary64.grown (t.value s') m.count else t.value s)
      = if s' = s then Binary64.grown (t.value s) m.count else t.value s := by
    intro s'
    by_cases hs : s = s'
    · rw [if_pos hs, if_pos hs.symm, hs]
    · rw [if_neg hs, if_neg (Ne.symm hs)]
  cases m with
  | evicted amount | remapped amount | skipped phase amount =>
    obtain ⟨n, rfl⟩ := h
    exact (value_raiseSome t _ s n).trans (hself _)
  | cycle outcome duration | step name outcome => exact (value_raise t _ s 1).trans (hself _)

/-! ## Measures in a row -/

/-- Measures in a row. -/
def Meter.recordAll (meter : Meter) (t : Tally) (ms : List Measure) : Tally :=
  ms.foldl (fun t m => (meter.record m t).2) t

namespace Meter

variable {meter : Meter} {t : Tally}

@[simp] theorem recordAll_nil : meter.recordAll t [] = t :=
  rfl

@[simp] theorem recordAll_cons (m : Measure) (ms : List Measure) :
    meter.recordAll t (m :: ms) = meter.recordAll (meter.record m t).2 ms :=
  rfl

theorem recordAll_append (ms ms' : List Measure) :
    meter.recordAll t (ms ++ ms') = meter.recordAll (meter.recordAll t ms) ms' :=
  List.foldl_append

/-- Nothing is counted where nothing is measured. -/
theorem recordAll_disabled (h : meter.enabled = false) (ms : List Measure) : meter.recordAll t ms = t := by
  induction ms with
  | nil => rfl
  | cons m ms ih =>
    rw [recordAll_cons]
    unfold record
    rw [h, if_neg Bool.false_ne_true]
    exact ih

theorem value_record (h : meter.enabled = true) {m : Measure} (hm : m.IsCount) (s : Series) :
    (meter.record m t).2.value s =
      if m.series meter.account = s then Binary64.grown (t.value s) m.count else t.value s := by
  unfold record
  rw [if_pos h]
  exact Tally.value_record hm t meter.account s

/-- **Measures of different counters** raise each of them once, if at all. -/
theorem value_recordAll_of_nodup (h : meter.enabled = true) {ms : List Measure} (hms : ∀ m ∈ ms, m.IsCount)
    (hdistinct : (ms.map (Measure.series meter.account)).Nodup) (s : Series) :
    (meter.recordAll t ms).value s = Binary64.grown (t.value s) (Measure.raised meter.account s ms) := by
  induction ms generalizing t with
  | nil => rfl
  | cons m ms ih =>
    obtain ⟨hm, hms⟩ := List.forall_mem_cons.1 hms
    rw [List.map_cons, List.nodup_cons] at hdistinct
    obtain ⟨hfirst, hdistinct⟩ := hdistinct
    rw [recordAll_cons, ih hms hdistinct, value_record h hm, Measure.raised_cons]
    by_cases hs : m.series meter.account = s
    · have hothers : Measure.raised meter.account s ms = 0 := by
        apply Measure.raised_eq_zero
        intro m' hm' hs'
        exact hfirst (List.mem_map.2 ⟨m', hm', hs'.trans hs.symm⟩)
      rw [if_pos hs, if_pos hs, hothers, Binary64.grown_zero, Nat.add_zero]
    · rw [if_neg hs, if_neg hs, Nat.zero_add]

/-- **A counter that says a whole number** says afterwards how much more was counted. -/
theorem value_recordAll (h : meter.enabled = true) {ms : List Measure} (hms : ∀ m ∈ ms, m.IsCount) {s : Series}
    {a : Nat} (ht : t.value s = .ofInt a) (hmax : a + Measure.raised meter.account s ms ≤ Binary64.twoTo 53) :
    (meter.recordAll t ms).value s = .ofInt (a + Measure.raised meter.account s ms : Nat) := by
  induction ms generalizing t a with
  | nil => exact ht
  | cons m ms ih =>
    obtain ⟨hm, hms⟩ := List.forall_mem_cons.1 hms
    rw [recordAll_cons]
    rw [Measure.raised_cons, ← Nat.add_assoc] at hmax ⊢
    apply ih hms _ hmax
    rw [value_record h hm]
    by_cases hs : m.series meter.account = s
    · rw [if_pos hs] at hmax
      rw [if_pos hs, if_pos hs, ht]
      exact Binary64.grown_ofInt (by omega)
    · rw [if_neg hs, if_neg hs]
      exact ht

end Meter

end Steward
