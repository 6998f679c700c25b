import Steward.Proofs.Cache.Contents

/-!
# Caches in which nothing expires

As long as nothing expires, a cache is the list of what it holds: the values under their keys, in the order in which
the keys came. Times play no part in it. Every operation is an operation on that list, and reads nothing else.

## Contents

* `Keyed.put_of_lookup`, `Keyed.erase_of_lookup` — changes that change nothing;
* `Cache.held` — what a cache holds, in order;
* `Cache.Calm` — nothing expires; `Calm.find?`, `Calm.put`, `Calm.invalidate`, `Calm.later` — and goes on not to;
* `Calm.peek?_eq`, `Calm.keys_eq`, `Calm.held_find?`, `held_put`, `held_invalidate` — the operations by what is held.
-/

namespace Steward

/-! ## Keyed lists -/

namespace Keyed

variable {κ α β : Type} [DecidableEq κ]

/-- To write what is there already changes nothing. -/
theorem put_of_lookup {entries : List (κ × α)} {key : κ} {a : α} (h : entries.lookup key = some a) :
    put entries key a = entries := by
  unfold put
  induction entries with
  | nil => cases h
  | cons e rest ih =>
    obtain ⟨k, b⟩ := e
    unfold update
    by_cases hk : k = key
    · rw [hk, List.lookup_cons_self] at h
      cases h
      rw [if_pos hk, hk]
    · rw [lookup_cons_of_ne (Ne.symm hk)] at h
      rw [if_neg hk, ih h]

/-- To drop what is not there changes nothing. -/
theorem erase_of_lookup {entries : List (κ × α)} {key : κ} (h : entries.lookup key = none) :
    erase entries key = entries := by
  rw [List.lookup_eq_none_iff] at h
  refine List.filter_eq_self.2 ?_
  intro e he
  have hne : key ≠ e.1 := by simpa using h e he
  simpa using Ne.symm hne

/-! Values that are changed one by one. -/

variable (f : α → β)

theorem lookup_map (entries : List (κ × α)) (key : κ) :
    (entries.map (Prod.map id f)).lookup key = (entries.lookup key).map f := by
  induction entries with
  | nil => rfl
  | cons e rest ih =>
    obtain ⟨k, a⟩ := e
    by_cases hk : key = k
    · subst hk
      rw [List.map_cons, Prod.map_apply, id_eq, List.lookup_cons_self, List.lookup_cons_self]
      rfl
    · rw [List.map_cons, Prod.map_apply, id_eq, lookup_cons_of_ne hk, lookup_cons_of_ne hk, ih]

theorem map_put (entries : List (κ × α)) (key : κ) (a : α) :
    (put entries key a).map (Prod.map id f) = put (entries.map (Prod.map id f)) key (f a) := by
  unfold put
  induction entries with
  | nil => rfl
  | cons e rest ih =>
    obtain ⟨k, b⟩ := e
    rw [List.map_cons, Prod.map_apply, id_eq]
    unfold update
    by_cases hk : k = key
    · rw [if_pos hk, if_pos hk]
      rfl
    · rw [if_neg hk, if_neg hk, List.map_cons, ih]
      rfl

theorem map_erase (entries : List (κ × α)) (key : κ) :
    (erase entries key).map (Prod.map id f) = erase (entries.map (Prod.map id f)) key := by
  unfold erase
  rw [List.filter_map]
  rfl

theorem holds_map (entries : List (κ × α)) (key : κ) :
    holds (entries.map (Prod.map id f)) key = holds entries key := by
  unfold holds
  rw [List.any_map]
  rfl

end Keyed

/-! ## What is held -/

namespace Cache

variable {τ α : Type}

/-- What a cache holds, in the order in which the keys came. -/
def held (c : Cache τ α) : List (String × α) :=
  c.entries.map (Prod.map id Entry.value)

theorem held_put (c : Cache τ α) (key : String) (a : α) (now : τ) :
    (c.put key a now).held = Keyed.put c.held key a :=
  Keyed.map_put _ _ _ _

theorem held_invalidate (c : Cache τ α) (key : String) : (c.invalidate key).held = Keyed.erase c.held key :=
  Keyed.map_erase _ _ _

theorem holds_eq (c : Cache τ α) (key : String) : c.holds key = Keyed.holds c.held key :=
  (Keyed.holds_map _ _ _).symm

variable [Sub τ] [LE τ] [DecidableLE τ]

/-- **Nothing expires**: no entry is past its time now, and what is written or read just now is not either. -/
structure Calm (c : Cache τ α) (now : τ) : Prop where
  lasting : c.Lasting
  unexpired : ∀ e ∈ c.entries, c.isExpired e.2 now = false

variable {c : Cache τ α} {now : τ}

theorem Lasting.isExpired_put (h : c.Lasting) (a : α) (now : τ) : c.isExpired ⟨a, now, now⟩ now = false := by
  rw [isExpired, (h now).1, (h now).2]
  rfl

/-- What has been read just now is not past its time, if it was not before. -/
theorem Lasting.isExpired_read (h : c.Lasting) {e : Entry τ α} (he : c.isExpired e now = false) :
    c.isExpired { e with readAt := now } now = false := by
  rw [isExpired, Bool.or_eq_false_iff] at he ⊢
  exact ⟨he.1, (h now).2⟩

namespace Calm

/-- An entry that is found by its key is not past its time. -/
theorem of_lookup (h : c.Calm now) {key : String} {e : Entry τ α} (he : c.entries.lookup key = some e) :
    c.isExpired e now = false := by
  obtain ⟨before, after, hsplit, -⟩ := List.lookup_eq_some_iff.1 he
  refine h.unexpired (key, e) ?_
  rw [hsplit]
  exact List.mem_append_right _ List.mem_cons_self

/-! Views. -/

theorem live_eq (h : c.Calm now) : c.live now = c.entries := by
  refine List.filter_eq_self.2 ?_
  intro e he
  rw [h.unexpired e he]
  rfl

theorem keys_eq (h : c.Calm now) : c.keys now = c.held.map (·.1) := by
  unfold keys held
  rw [h.live_eq, List.map_map]
  rfl

theorem values_eq (h : c.Calm now) : c.values now = c.held.map (·.2) := by
  unfold values held
  rw [h.live_eq, List.map_map]
  rfl

theorem peek?_eq (h : c.Calm now) (key : String) : c.peek? key now = c.held.lookup key := by
  unfold peek? held
  rw [Keyed.lookup_map]
  cases he : c.entries.lookup key with
  | none => rfl
  | some e =>
    dsimp only
    rw [h.of_lookup he]
    rfl

/-! Changes. -/

/-- A lookup touches what it finds, which does not count for what is held. -/
theorem find?_snd (h : c.Calm now) (key : String) :
    (c.find? key now).2.held = c.held ∧ (c.find? key now).2.Calm now := by
  unfold Cache.find?
  cases he : c.entries.lookup key with
  | none => exact ⟨rfl, h⟩
  | some e =>
    have hlive := h.of_lookup he
    have hread := h.lasting.isExpired_read hlive
    dsimp only
    rw [if_neg (by simp [hlive])]
    refine ⟨?_, h.lasting, ?_⟩
    · refine (Keyed.map_put _ _ _ _).trans (Keyed.put_of_lookup ?_)
      rw [Keyed.lookup_map, he]
      rfl
    · intro e' he'
      rcases Keyed.mem_put he' with rfl | hold
      · exact hread
      · exact h.unexpired e' hold

theorem held_find? (h : c.Calm now) (key : String) : (c.find? key now).2.held = c.held :=
  (h.find?_snd key).1

theorem find? (h : c.Calm now) (key : String) : (c.find? key now).2.Calm now :=
  (h.find?_snd key).2

theorem put (h : c.Calm now) (key : String) (a : α) : (c.put key a now).Calm now where
  lasting := h.lasting
  unexpired := by
    intro e he
    rcases Keyed.mem_put he with rfl | hold
    · exact h.lasting.isExpired_put a now
    · exact h.unexpired e hold

theorem invalidate (h : c.Calm now) (key : String) : (c.invalidate key).Calm now where
  lasting := h.lasting
  unexpired := fun e he => h.unexpired e ((List.mem_filter.1 he).1)

/-- Time passes in which nothing expires. -/
theorem later (h : c.Calm now) {t : τ} (ht : ∀ e ∈ c.entries, c.isExpired e.2 t = c.isExpired e.2 now) :
    c.Calm t where
  lasting := h.lasting
  unexpired := fun e he => (ht e he).trans (h.unexpired e he)

end Calm

/-- Without expiries nothing expires. -/
theorem calm_of_never (hread : c.readExpiry = none) (hwrite : c.writeExpiry = none) (now : τ) : c.Calm now where
  lasting := by
    intro t
    rw [hread, hwrite]
    exact ⟨rfl, rfl⟩
  unexpired := by
    intro e _
    unfold isExpired
    rw [hread, hwrite]
    rfl

end Cache

end Steward
