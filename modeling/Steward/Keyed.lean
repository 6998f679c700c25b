/-!
# Keyed lists

Values under keys, in the order in which the keys came. A key that is written again keeps its place.

## Contents

* `update`, `put` — writing under a key;
* `erase`, `holds` — dropping a key, and asking for one;
* `Map` — keyed lists in which no key comes twice.
-/

namespace Steward.Keyed

variable {κ α : Type} [DecidableEq κ]

/-- Whether a key is there. -/
def holds (entries : List (κ × α)) (key : κ) : Bool :=
  entries.any (·.1 = key)

/-- Writes what is made of the old value under a key: in its place, or at the end. -/
def update (entries : List (κ × α)) (key : κ) (f : Option α → α) : List (κ × α) :=
  match entries with
  | [] => [(key, f none)]
  | (k, a) :: rest => if k = key then (key, f (some a)) :: rest else (k, a) :: update rest key f

/-- Writes a value under a key. -/
def put (entries : List (κ × α)) (key : κ) (a : α) : List (κ × α) :=
  update entries key fun _ => a

/-- Drops a key. -/
def erase (entries : List (κ × α)) (key : κ) : List (κ × α) :=
  entries.filter (·.1 ≠ key)

/-! ## Keys -/

/-- A write keeps the keys, or brings a new one at the end. -/
theorem map_fst_update (entries : List (κ × α)) (key : κ) (f : Option α → α) :
    (update entries key f).map (·.1) =
      if key ∈ entries.map (·.1) then entries.map (·.1) else entries.map (·.1) ++ [key] := by
  induction entries with
  | nil => rfl
  | cons e rest ih =>
    obtain ⟨k, a⟩ := e
    unfold update
    by_cases hk : k = key
    · simp [hk]
    · rw [if_neg hk, List.map_cons, ih]
      by_cases hmem : key ∈ rest.map (·.1)
      · simp [hmem]
      · simp [hmem, Ne.symm hk]

theorem nodup_put {entries : List (κ × α)} (h : (entries.map (·.1)).Nodup) (key : κ) (a : α) :
    ((put entries key a).map (·.1)).Nodup := by
  unfold put
  rw [map_fst_update]
  by_cases hmem : key ∈ entries.map (·.1)
  · rw [if_pos hmem]
    exact h
  · rw [if_neg hmem]
    refine List.nodup_append.2 ⟨h, List.pairwise_singleton _ key, ?_⟩
    intro k hk k' hk' heq
    rw [List.mem_singleton.1 hk'] at heq
    exact hmem (heq ▸ hk)

/-- A keyed list in which no key comes twice. -/
structure Map (κ α : Type) where
  entries : List (κ × α)
  distinct : (entries.map (·.1)).Nodup

namespace Map

instance : Inhabited (Map κ α) := ⟨[], List.nodup_nil⟩

/-- Writes a value under a key. -/
def put (m : Map κ α) (key : κ) (a : α) : Map κ α :=
  ⟨Keyed.put m.entries key a, nodup_put m.distinct key a⟩

/-- All of some entries. Of those under one key the last one counts. -/
def ofList (entries : List (κ × α)) : Map κ α :=
  entries.foldl (fun m e => m.put e.1 e.2) default

end Map

end Steward.Keyed
