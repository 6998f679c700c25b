import Steward.Cache.Basic

/-!
# What a cache shows

`Cache.peek?` is the view of a cache: the value under a key, as long as its entry is live. Every operation is
told by what it does to the view, and nobody unfolds the entries after that. The view of an operation is
simple only if an entry that was touched just now is live, which fails for an expiry of zero; `Cache.Lasting`
excludes that.

## Contents

* `Keyed.lookup_put`, `Keyed.lookup_erase` — keyed lists by lookup; `Keyed.mem_put` — what a write leaves in one;
* `Cache.Lasting` — what was touched just now is live;
* `find?_fst`, `peek?_find?`, `peek?_put`, `peek?_invalidate`, `mem_keys_of_peek?` — the operations by the view.
-/

namespace Steward

/-! ## Keyed lists -/

namespace Keyed

variable {κ α : Type} [DecidableEq κ]

theorem lookup_cons_of_ne {key other : κ} (h : other ≠ key) (a : α) (entries : List (κ × α)) :
    ((key, a) :: entries).lookup other = entries.lookup other := by
  rw [List.lookup_cons, beq_false_of_ne h]

/-- What is written under a key is found under it, and all else as before. -/
theorem lookup_update (entries : List (κ × α)) (key other : κ) (f : Option α → α) :
    (update entries key f).lookup other
      = if other = key then some (f (entries.lookup key)) else entries.lookup other := by
  induction entries with
  | nil =>
    by_cases h : other = key
    · simp [update, h]
    · rw [if_neg h]
      exact lookup_cons_of_ne h _ _
  | cons e rest ih =>
    obtain ⟨k, a⟩ := e
    unfold update
    -- the first entry is the one that is written, or it stands before that one
    by_cases hk : k = key
    · rw [if_pos hk, hk]
      by_cases h : other = key
      · simp [h]
      · rw [if_neg h, lookup_cons_of_ne h, lookup_cons_of_ne h]
    · rw [if_neg hk]
      by_cases h : other = k
      · subst h
        rw [if_neg hk, List.lookup_cons_self, List.lookup_cons_self]
      · rw [lookup_cons_of_ne h, ih, lookup_cons_of_ne h, lookup_cons_of_ne (Ne.symm hk)]

theorem lookup_put (entries : List (κ × α)) (key other : κ) (a : α) :
    (put entries key a).lookup other = if other = key then some a else entries.lookup other :=
  lookup_update entries key other _

/-- What stands in a list after a write is what was written, or stood there before. -/
theorem mem_put {entries : List (κ × α)} {key : κ} {a : α} {e : κ × α} (h : e ∈ put entries key a) :
    e = (key, a) ∨ e ∈ entries := by
  unfold put at h
  induction entries with
  | nil => exact Or.inl (List.mem_singleton.1 h)
  | cons first rest ih =>
    obtain ⟨k, b⟩ := first
    unfold update at h
    by_cases hk : k = key
    · rw [if_pos hk] at h
      exact (List.mem_cons.1 h).imp_right (List.mem_cons_of_mem _)
    · rw [if_neg hk] at h
      rcases List.mem_cons.1 h with rfl | hrest
      · exact Or.inr List.mem_cons_self
      · exact (ih hrest).imp_right (List.mem_cons_of_mem _)

theorem lookup_erase (entries : List (κ × α)) (key other : κ) :
    (erase entries key).lookup other = if other = key then none else entries.lookup other := by
  unfold erase
  induction entries with
  | nil => simp
  | cons e rest ih =>
    obtain ⟨k, a⟩ := e
    by_cases hk : k = key
    · rw [List.filter_cons_of_neg (by simpa using hk), ih]
      by_cases h : other = key
      · rw [if_pos h, if_pos h]
      · rw [if_neg h, if_neg h, hk, lookup_cons_of_ne h]
    · rw [List.filter_cons_of_pos (by simpa using hk)]
      by_cases h : other = k
      · subst h
        rw [if_neg hk, List.lookup_cons_self, List.lookup_cons_self]
      · rw [lookup_cons_of_ne h, lookup_cons_of_ne h, ih]

end Keyed

/-! ## The view -/

namespace Cache

variable {τ α : Type} [Sub τ] [LE τ] [DecidableLE τ]

/-- What is written or read just now is not past its time. -/
def Lasting (c : Cache τ α) : Prop :=
  ∀ t : τ, isPast c.writeExpiry t t = false ∧ isPast c.readExpiry t t = false

/-- The view reads the expiries and nothing else of a cache besides its entries. -/
theorem peek?_eq (c : Cache τ α) (key : String) (now : τ) :
    c.peek? key now = ((c.entries.lookup key).filter fun e => !c.isExpired e now).map (·.value) := by
  unfold peek?
  cases c.entries.lookup key with
  | none => rfl
  | some e => cases h : c.isExpired e now <;> simp [h, Option.filter]

/-- A lookup gives what the view shows. -/
theorem find?_fst (c : Cache τ α) (key : String) (now : τ) : (c.find? key now).1 = c.peek? key now := by
  unfold find? peek?
  cases c.entries.lookup key with
  | none => rfl
  | some e => cases h : c.isExpired e now <;> simp [h]

/-- **A lookup changes nothing that can be seen.** It only drops what had expired, and touches what is live. -/
theorem peek?_find? {c : Cache τ α} (hc : c.Lasting) (key other : String) (now : τ) :
    (c.find? key now).2.peek? other now = c.peek? other now := by
  unfold find?
  cases hkey : c.entries.lookup key with
  | none => rfl
  | some e =>
    dsimp only
    cases hexp : c.isExpired e now with
    | true =>
      rw [if_pos rfl, peek?_eq, peek?_eq]
      show (((Keyed.erase c.entries key).lookup other).filter fun e => !c.isExpired e now).map _ = _
      rw [Keyed.lookup_erase]
      by_cases h : other = key
      · subst h
        simp [hkey, hexp, Option.filter]
      · rw [if_neg h]
    | false =>
      rw [if_neg (by simp), peek?_eq, peek?_eq]
      show (((Keyed.put c.entries key { e with readAt := now }).lookup other).filter
        fun e => !c.isExpired e now).map _ = _
      rw [Keyed.lookup_put]
      by_cases h : other = key
      · -- what was live is live still: it has just been read
        subst h
        have hread : c.isExpired { e with readAt := now } now = false := by
          have hboth := hexp
          rw [isExpired, Bool.or_eq_false_iff] at hboth ⊢
          exact ⟨hboth.1, (hc now).2⟩
        simp [hkey, hexp, hread, Option.filter]
      · rw [if_neg h]

theorem Lasting.find? {c : Cache τ α} (hc : c.Lasting) (key : String) (now : τ) : (c.find? key now).2.Lasting := by
  unfold Cache.find?
  cases c.entries.lookup key with
  | none => exact hc
  | some e =>
    dsimp only
    split
    · exact hc
    · exact hc

/-- A write shows at once, and only under its key. -/
theorem peek?_put {c : Cache τ α} (hc : c.Lasting) (key other : String) (a : α) (now : τ) :
    (c.put key a now).peek? other now = if other = key then some a else c.peek? other now := by
  rw [peek?_eq]
  show (((Keyed.put c.entries key ⟨a, now, now⟩).lookup other).filter fun e => !c.isExpired e now).map _ = _
  rw [Keyed.lookup_put]
  by_cases h : other = key
  · have hfresh : c.isExpired ⟨a, now, now⟩ now = false := by
      rw [isExpired, (hc now).1, (hc now).2]
      rfl
    simp [h, hfresh, Option.filter]
  · rw [if_neg h, if_neg h, peek?_eq]

/-- What is dropped is not shown any more. -/
theorem peek?_invalidate (c : Cache τ α) (key other : String) (now : τ) :
    (c.invalidate key).peek? other now = if other = key then none else c.peek? other now := by
  rw [peek?_eq]
  show (((Keyed.erase c.entries key).lookup other).filter fun e => !c.isExpired e now).map _ = _
  rw [Keyed.lookup_erase]
  by_cases h : other = key
  · rw [if_pos h, if_pos h]
    rfl
  · rw [if_neg h, if_neg h, peek?_eq]

/-- What is shown stands among the keys. -/
theorem mem_keys_of_peek? {c : Cache τ α} {key : String} {now : τ} (h : c.peek? key now ≠ none) :
    key ∈ c.keys now := by
  rw [peek?_eq] at h
  cases hkey : c.entries.lookup key with
  | none => rw [hkey] at h; exact absurd rfl h
  | some e =>
    have hlive : c.isExpired e now = false := by
      cases hexp : c.isExpired e now with
      | false => rfl
      | true => rw [hkey] at h; simp [Option.filter, hexp] at h
    obtain ⟨l₁, l₂, hsplit, -⟩ := List.lookup_eq_some_iff.1 hkey
    refine List.mem_map.2 ⟨(key, e), List.mem_filter.2 ⟨?_, ?_⟩, rfl⟩
    · rw [hsplit]
      exact List.mem_append_right _ List.mem_cons_self
    · simp [hlive]

/-- The view stays while no entry crosses its expiry. -/
theorem peek?_congr {c : Cache τ α} {now later : τ}
    (h : ∀ e ∈ c.entries, c.isExpired e.2 later = c.isExpired e.2 now) (key : String) :
    c.peek? key later = c.peek? key now := by
  unfold peek?
  cases hkey : c.entries.lookup key with
  | none => rfl
  | some e =>
    obtain ⟨l₁, l₂, hsplit, -⟩ := List.lookup_eq_some_iff.1 hkey
    have hmem : (key, e) ∈ c.entries := by
      rw [hsplit]
      exact List.mem_append_right _ List.mem_cons_self
    show (if c.isExpired e later then none else some e.value) = _
    rw [h _ hmem]

end Cache

end Steward
