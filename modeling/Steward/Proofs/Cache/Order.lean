import Steward.Proofs.Cache.Traffic

/-!
# Order among callers

What callers have in common is in the tables of the cache: which loads are in flight, and which have landed with
what outcome. `Fits` says of each caller what the tables hold for it at its stage; `Orderly` adds that a load has
one leader and that what stands in the tables belongs to somebody. Every step keeps this order.

## Contents

* `Traffic.advance_self`, `eq_of_advance` — a caller at another stage;
* `Fits`, `Orderly` — callers and tables;
* `Orderly.advance`, `append` — a caller comes to another stage, or enters;
* `Orderly.leave`, `land`, `enter`, `step` — the steps.
-/

namespace Steward.Traffic

variable {τ α ε : Type}

/-! ## Stages of one caller -/

theorem advance_getElem? (s : Traffic τ α ε) (i j : Nat) (stage : CallStage α ε) :
    (s.advance i stage).callers[j]?
      = if i = j then (s.callers[j]?).map (fun c => { c with stage }) else s.callers[j]? := by
  unfold advance
  rw [List.getElem?_modify]
  by_cases h : i = j
  · simp [h]
  · simp [h]

/-- A caller that has come to another stage is still the same caller. -/
theorem eq_of_advance {s : Traffic τ α ε} {i j : Nat} {stage : CallStage α ε} {c : Caller α ε}
    (h : (s.advance i stage).callers[j]? = some c) :
    (i = j ∧ ∃ old, s.callers[j]? = some ⟨c.key, c.boarding, old⟩ ∧ c.stage = stage) ∨
      (i ≠ j ∧ s.callers[j]? = some c) := by
  rw [advance_getElem?] at h
  by_cases hij : i = j
  · rw [if_pos hij] at h
    obtain ⟨old, hold, rfl⟩ := Option.map_eq_some_iff.1 h
    exact Or.inl ⟨hij, old.stage, hold, rfl⟩
  · rw [if_neg hij] at h
    exact Or.inr ⟨hij, h⟩

theorem advance_self {s : Traffic τ α ε} {i : Nat} {stage : CallStage α ε} {c : Caller α ε}
    (h : s.callers[i]? = some c) : (s.advance i stage).callers[i]? = some { c with stage } := by
  rw [advance_getElem?, if_pos rfl, h]
  rfl

theorem advance_of_ne {s : Traffic τ α ε} {i j : Nat} (stage : CallStage α ε) (hij : i ≠ j) :
    (s.advance i stage).callers[j]? = s.callers[j]? := by
  rw [advance_getElem?, if_neg hij]

theorem getElem?_append_singleton {l : List (Caller α ε)} {c d : Caller α ε} {j : Nat} :
    (l ++ [c])[j]? = some d ↔ l[j]? = some d ∨ (j = l.length ∧ d = c) := by
  rw [List.getElem?_append]
  by_cases hj : j < l.length
  · rw [if_pos hj]
    refine ⟨Or.inl, ?_⟩
    rintro (h | ⟨rfl, -⟩)
    · exact h
    · exact absurd hj (Nat.lt_irrefl _)
  · rw [if_neg hj, List.getElem?_singleton, List.getElem?_eq_none (Nat.le_of_not_lt hj)]
    by_cases hzero : j - l.length = 0
    · have hlen : j = l.length := by omega
      simp [hlen, eq_comm]
    · have hlen : j ≠ l.length := by omega
      simp [hzero, hlen]

/-! ## Callers and tables -/

/-- **What the tables hold for a caller.** As long as the load of a leader is in flight, its marker stands under
the key of the load; after that it stands nowhere. An outcome is known once the load has landed. -/
inductive Fits (f : Flight τ α ε) : Caller α ε → Prop where
  | hit {key : String} {a : α} : Fits f ⟨key, .hit a, .boarded⟩
  | given {key : String} {a : α} : Fits f ⟨key, .hit a, .returned (.ok a)⟩
  | waiting {key : String} {n : Nat} : Fits f ⟨key, .joined n, .boarded⟩
  | woken {key : String} {n : Nat} {o : Except ε α} (known : f.landed.lookup n = some o) :
      Fits f ⟨key, .joined n, .returned o⟩
  | aboard {key : String} {n : Nat} {stage : CallStage α ε} (aboard : stage.IsAboard)
      (marked : f.loading.lookup key = some n) (unknown : f.landed.lookup n = none) (begun : n < f.begun) :
      Fits f ⟨key, .leading n, stage⟩
  | gone {key : String} {n : Nat} {o : Except ε α} (unmarked : ∀ k, f.loading.lookup k ≠ some n)
      (unknown : f.landed.lookup n = none) (begun : n < f.begun) : Fits f ⟨key, .leading n, .left o⟩
  | arrived {key : String} {n : Nat} {o : Except ε α} {stage : CallStage α ε}
      (stage_eq : stage = .landed o ∨ stage = .returned o) (unmarked : ∀ k, f.loading.lookup k ≠ some n)
      (known : f.landed.lookup n = some o) (begun : n < f.begun) : Fits f ⟨key, .leading n, stage⟩

/-- **Order among callers.** A load has one leader; markers and outcomes belong to a leader; who joined a load has
the key of its leader. -/
structure Orderly (s : Traffic τ α ε) : Prop where
  fits : ∀ {i : Nat} {c}, s.callers[i]? = some c → Fits s.flight c
  leader : ∀ {i j : Nat} {k k' n st st'}, s.callers[i]? = some ⟨k, .leading n, st⟩ →
    s.callers[j]? = some ⟨k', .leading n, st'⟩ → i = j
  marker : ∀ {k n}, s.flight.loading.lookup k = some n →
    ∃ (i : Nat) (st : _), s.callers[i]? = some ⟨k, .leading n, st⟩
  landed : ∀ {n o}, s.flight.landed.lookup n = some o →
    ∃ (i : Nat) (k : _) (st : _), s.callers[i]? = some ⟨k, .leading n, st⟩
  joined : ∀ {i : Nat} {k n st}, s.callers[i]? = some ⟨k, .joined n, st⟩ →
    ∃ (j : Nat) (st' : _), s.callers[j]? = some ⟨k, .leading n, st'⟩

namespace Fits

variable {f f' : Flight τ α ε} {key : String} {n : Nat} {stage : CallStage α ε} {o : Except ε α}

/-- The load of a leader is in flight as long as its marker stands. -/
theorem marked_iff (h : Fits f ⟨key, .leading n, stage⟩) : f.loading.lookup key = some n ↔ stage.IsAboard := by
  cases h with
  | aboard aboard marked _ _ => exact iff_of_true marked aboard
  | gone unmarked _ _ => exact iff_of_false (unmarked key) id
  | arrived stage_eq unmarked _ _ =>
    refine iff_of_false (unmarked key) ?_
    rcases stage_eq with rfl | rfl
    · exact id
    · exact id

/-- The outcome of a load is known from its landing on. -/
theorem known_iff (h : Fits f ⟨key, .leading n, stage⟩) :
    f.landed.lookup n = some o ↔ stage = .landed o ∨ stage = .returned o := by
  cases h with
  | aboard aboard _ unknown _ =>
    rw [unknown]
    refine iff_of_false nofun ?_
    rintro (rfl | rfl)
    · exact aboard
    · exact aboard
  | gone _ unknown _ =>
    rw [unknown]
    refine iff_of_false nofun ?_
    rintro (h | h)
    · cases h
    · cases h
  | arrived stage_eq _ known _ =>
    rw [known]
    rcases stage_eq with rfl | rfl
    · simp [eq_comm]
    · simp [eq_comm]

theorem unknown_of_aboard (h : Fits f ⟨key, .leading n, stage⟩) (hstage : stage.IsAboard) :
    f.landed.lookup n = none := by
  cases hlanded : f.landed.lookup n with
  | none => rfl
  | some o =>
    rcases h.known_iff.1 hlanded with rfl | rfl
    · exact hstage.elim
    · exact hstage.elim

theorem begun_lt (h : Fits f ⟨key, .leading n, stage⟩) : n < f.begun := by
  cases h with
  | aboard _ _ _ begun => exact begun
  | gone _ _ begun => exact begun
  | arrived _ _ _ begun => exact begun

end Fits

/-- A caller goes on fitting if nothing changes for its own load. -/
theorem Fits.mono {f f' : Flight τ α ε} {c : Caller α ε} (h : Fits f c) (hbegun : f.begun ≤ f'.begun)
    (hknown : ∀ {n o}, f.landed.lookup n = some o → f'.landed.lookup n = some o)
    (hunknown : ∀ {n}, c.boarding = .leading n → f.landed.lookup n = none → f'.landed.lookup n = none)
    (hmarker : ∀ {n}, c.boarding = .leading n → ∀ k, f'.loading.lookup k = some n ↔ f.loading.lookup k = some n) :
    Fits f' c := by
  cases h with
  | hit => exact Fits.hit
  | given => exact Fits.given
  | waiting => exact Fits.waiting
  | woken known => exact Fits.woken (hknown known)
  | aboard aboard marked unknown begun =>
    exact Fits.aboard aboard ((hmarker rfl _).2 marked) (hunknown rfl unknown) (Nat.lt_of_lt_of_le begun hbegun)
  | gone unmarked unknown begun =>
    exact Fits.gone (fun k hk => unmarked k ((hmarker rfl k).1 hk)) (hunknown rfl unknown)
      (Nat.lt_of_lt_of_le begun hbegun)
  | arrived stage_eq unmarked known begun =>
    exact Fits.arrived stage_eq (fun k hk => unmarked k ((hmarker rfl k).1 hk)) (hknown known)
      (Nat.lt_of_lt_of_le begun hbegun)

namespace Orderly

variable {s : Traffic τ α ε}

theorem start (c : Cache τ α) : Orderly (⟨.ofCache c, []⟩ : Traffic τ α ε) where
  fits h := by cases h
  leader h := by cases h
  marker h := by cases h
  landed h := by cases h
  joined h := by cases h

/-- A change of the cache alone. -/
theorem withCache (hs : Orderly s) (cache : Cache τ α) : Orderly (s.withCache cache) where
  fits h := (hs.fits h).mono (Nat.le_refl _) id (fun _ => id) fun _ _ => Iff.rfl
  leader := hs.leader
  marker := hs.marker
  landed := hs.landed
  joined := hs.joined

/-- A caller is still a leader of its load, or still waits for its load, after it has come to another stage. -/
theorem exists_advance {i j : Nat} {stage st : CallStage α ε} {k : String} {b : Boarding α}
    (h : s.callers[j]? = some ⟨k, b, st⟩) : ∃ st', (s.advance i stage).callers[j]? = some ⟨k, b, st'⟩ := by
  by_cases hij : i = j
  · subst hij
    exact ⟨stage, advance_self h⟩
  · exact ⟨st, (advance_of_ne stage hij).trans h⟩

/-- **A caller comes to another stage**, and the loads change so that everybody still fits. -/
theorem advance (hs : Orderly s) {i : Nat} {c : Caller α ε} {stage : CallStage α ε} (f : Flight τ α ε)
    (hc : s.callers[i]? = some c) (hself : Fits f { c with stage })
    (hothers : ∀ {j d}, i ≠ j → s.callers[j]? = some d → Fits f d)
    (hmarker : ∀ {k n}, f.loading.lookup k = some n → s.flight.loading.lookup k = some n)
    (hlanded : ∀ {n o}, f.landed.lookup n = some o →
      s.flight.landed.lookup n = some o ∨ c.boarding = .leading n) :
    Orderly ((s.advance i stage).withFlight f) where
  fits := by
    intro j d hd
    rcases eq_of_advance hd with ⟨rfl, old, hold, hstage⟩ | ⟨hij, hd⟩
    · rw [hc] at hold
      cases hold
      cases d
      cases hstage
      exact hself
    · exact hothers hij hd
  leader := by
    intro j j' k k' n st st' h h'
    -- neither key nor load of a caller changes, whoever comes to another stage
    rcases eq_of_advance h with ⟨rfl, old, hold, -⟩ | ⟨-, hold⟩
    · rcases eq_of_advance h' with ⟨rfl, old', hold', -⟩ | ⟨-, hold'⟩
      · rfl
      · exact hs.leader hold hold'
    · rcases eq_of_advance h' with ⟨rfl, old', hold', -⟩ | ⟨-, hold'⟩
      · exact hs.leader hold hold'
      · exact hs.leader hold hold'
  marker := by
    intro k n h
    obtain ⟨j, st, hj⟩ := hs.marker (hmarker h)
    exact ⟨j, exists_advance hj⟩
  landed := by
    intro n o h
    rcases hlanded h with hold | hboarding
    · obtain ⟨j, k, st, hj⟩ := hs.landed hold
      exact ⟨j, k, exists_advance hj⟩
    · obtain ⟨key, boarding, st⟩ := c
      cases hboarding
      exact ⟨i, key, exists_advance hc⟩
  joined := by
    intro j k n st h
    have hold : ∃ st', s.callers[j]? = some ⟨k, .joined n, st'⟩ := by
      rcases eq_of_advance h with ⟨-, old, hold, -⟩ | ⟨-, hold⟩
      · exact ⟨old, hold⟩
      · exact ⟨st, hold⟩
    obtain ⟨st', hst'⟩ := hold
    obtain ⟨j', st'', hleader⟩ := hs.joined hst'
    exact ⟨j', exists_advance hleader⟩

/-- A caller comes to another stage, and nothing else changes. -/
theorem advance_alone (hs : Orderly s) {i : Nat} {c : Caller α ε} {stage : CallStage α ε}
    (hc : s.callers[i]? = some c) (hself : Fits s.flight { c with stage }) : Orderly (s.advance i stage) :=
  hs.advance s.flight hc hself (fun _ hd => hs.fits hd) (fun h => h) Or.inl

/-- Only its leader's marker bears the number of a load. -/
theorem key_of_marker (hs : Orderly s) {i : Nat} {key k : String} {n : Nat} {st : CallStage α ε}
    (h : s.callers[i]? = some ⟨key, .leading n, st⟩) (hk : s.flight.loading.lookup k = some n) : k = key := by
  obtain ⟨j, st', hj⟩ := hs.marker hk
  have hij := hs.leader h hj
  subst hij
  rw [h] at hj
  cases hj
  rfl

/-- The number of a load that is not in flight any more stands under no key. -/
theorem unmarked (hs : Orderly s) {i : Nat} {key : String} {n : Nat} {st : CallStage α ε}
    (h : s.callers[i]? = some ⟨key, .leading n, st⟩) (hst : ¬ st.IsAboard) (k : String) :
    s.flight.loading.lookup k ≠ some n := by
  intro hk
  have hkey := hs.key_of_marker h hk
  rw [hkey] at hk
  exact hst ((hs.fits h).marked_iff.1 hk)

/-- Different leaders lead different loads. -/
theorem ne_of_leader (hs : Orderly s) {i j : Nat} {k : String} {n n' : Nat} {st : CallStage α ε} {d : Caller α ε}
    (h : s.callers[i]? = some ⟨k, .leading n, st⟩) (hij : i ≠ j) (hd : s.callers[j]? = some d)
    (hn : d.boarding = .leading n') : n' ≠ n := by
  rintro rfl
  obtain ⟨k', boarding, st'⟩ := d
  cases hn
  exact hij (hs.leader h hd)

/-- A leader whose load is in flight, at another stage at which it is. -/
theorem advance_aboard (hs : Orderly s) {i : Nat} {key : String} {n : Nat} {st stage : CallStage α ε}
    (h : s.callers[i]? = some ⟨key, .leading n, st⟩) (hst : st.IsAboard) (hstage : stage.IsAboard) :
    Orderly (s.advance i stage) := by
  have hfits := hs.fits h
  exact hs.advance_alone h
    (Fits.aboard hstage (hfits.marked_iff.2 hst) (hfits.unknown_of_aboard hst) hfits.begun_lt)

/-- **A load is committed.** Its marker is gone, and everybody else's stands. -/
theorem leave [Sub τ] [LE τ] [DecidableLE τ] (hs : Orderly s) {i : Nat} {key : String} {n : Nat} {o : Except ε α}
    (h : s.callers[i]? = some ⟨key, .leading n, .loaded o⟩) (now : τ) :
    Orderly ((s.advance i (.left o)).withFlight (s.flight.leave key o now)) := by
  have hfits := hs.fits h
  have hmarked : s.flight.loading.lookup key = some n := hfits.marked_iff.2 trivial
  have hunknown : s.flight.landed.lookup n = none := hfits.unknown_of_aboard trivial
  have hlookup : ∀ k, (s.flight.leave key o now).loading.lookup k
      = if k = key then none else s.flight.loading.lookup k := fun k => Keyed.lookup_erase _ _ _
  -- what stands afterwards stood before, under another key
  have hkept : ∀ {k n'}, (s.flight.leave key o now).loading.lookup k = some n' →
      k ≠ key ∧ s.flight.loading.lookup k = some n' := by
    intro k n' hk
    rw [hlookup] at hk
    by_cases hkey : k = key
    · rw [if_pos hkey] at hk
      cases hk
    · rw [if_neg hkey] at hk
      exact ⟨hkey, hk⟩
  refine hs.advance _ h ?_ ?_ (fun hk => (hkept hk).2) Or.inl
  · refine Fits.gone ?_ hunknown hfits.begun_lt
    intro k hk
    exact (hkept hk).1 (hs.key_of_marker h (hkept hk).2)
  · intro j d hij hd
    refine (hs.fits hd).mono (Nat.le_refl _) id (fun _ => id) ?_
    intro n' hn k
    refine ⟨fun hk => (hkept hk).2, ?_⟩
    intro hk
    -- only this leader's marker stands under the key, and nobody else leads its load
    have hkey : k ≠ key := by
      rintro rfl
      rw [hmarked] at hk
      exact hs.ne_of_leader h hij hd hn (Option.some.inj hk).symm
    rw [hlookup, if_neg hkey]
    exact hk

/-- **A load lands.** Its outcome is known from now on, and everybody else's is known or not as before. -/
theorem land (hs : Orderly s) {i : Nat} {key : String} {n : Nat} {o : Except ε α}
    (h : s.callers[i]? = some ⟨key, .leading n, .left o⟩) :
    Orderly ((s.advance i (.landed o)).withFlight (s.flight.land n o)) := by
  have hfits := hs.fits h
  have hunknown : s.flight.landed.lookup n = none := by
    cases hlanded : s.flight.landed.lookup n with
    | none => rfl
    | some o' => rcases hfits.known_iff.1 hlanded with hstage | hstage <;> cases hstage
  -- the new outcome hides none: the load had none
  have hself : (s.flight.land n o).landed.lookup n = some o := List.lookup_cons_self
  have hothers : ∀ {n'}, n' ≠ n → (s.flight.land n o).landed.lookup n' = s.flight.landed.lookup n' := by
    intro n' hn
    exact Keyed.lookup_cons_of_ne hn _ _
  refine hs.advance _ h ?_ ?_ id ?_
  · exact Fits.arrived (Or.inl rfl) (hs.unmarked h id) hself hfits.begun_lt
  · intro j d hij hd
    refine (hs.fits hd).mono (Nat.le_refl _) ?_ ?_ fun _ _ => Iff.rfl
    · intro n' o' hn
      have hne : n' ≠ n := by
        rintro rfl
        rw [hunknown] at hn
        cases hn
      rw [hothers hne]
      exact hn
    · intro n' hn hnone
      rw [hothers (hs.ne_of_leader h hij hd hn)]
      exact hnone
  · intro n' o' hn
    by_cases hne : n' = n
    · exact Or.inr (congrArg Boarding.leading hne.symm)
    · rw [hothers hne] at hn
      exact Or.inl hn

/-- **A caller enters.** -/
theorem append (hs : Orderly s) {f : Flight τ α ε} {c : Caller α ε} (hself : Fits f c)
    (hothers : ∀ {j : Nat} {d}, s.callers[j]? = some d → Fits f d)
    (hnew : ∀ {n}, c.boarding = .leading n → ∀ {i : Nat} {k st}, s.callers[i]? ≠ some ⟨k, .leading n, st⟩)
    (hmarker : ∀ {k n}, f.loading.lookup k = some n →
      s.flight.loading.lookup k = some n ∨ (c.key = k ∧ c.boarding = .leading n))
    (hlanded : f.landed = s.flight.landed)
    (hjoined : ∀ {n}, c.boarding = .joined n → s.flight.loading.lookup c.key = some n) :
    Orderly ⟨f, s.callers ++ [c]⟩ where
  fits := by
    intro j d hd
    rcases getElem?_append_singleton.1 hd with hd | ⟨-, rfl⟩
    · exact hothers hd
    · exact hself
  leader := by
    intro i j k k' n st st' h h'
    rcases getElem?_append_singleton.1 h with hold | ⟨hi, rfl⟩
    -- nobody leads a load that the new caller leads
    · rcases getElem?_append_singleton.1 h' with hold' | ⟨-, rfl⟩
      · exact hs.leader hold hold'
      · exact absurd hold (hnew rfl)
    · rcases getElem?_append_singleton.1 h' with hold' | ⟨hj, -⟩
      · exact absurd hold' (hnew rfl)
      · rw [hi, hj]
  marker := by
    intro k n h
    rcases hmarker h with h | ⟨hkey, hboarding⟩
    · obtain ⟨i, st, hi⟩ := hs.marker h
      exact ⟨i, st, getElem?_append_singleton.2 (Or.inl hi)⟩
    · refine ⟨s.callers.length, c.stage, getElem?_append_singleton.2 (Or.inr ⟨rfl, ?_⟩)⟩
      rw [← hkey, ← hboarding]
  landed := by
    intro n o h
    rw [hlanded] at h
    obtain ⟨i, k, st, hi⟩ := hs.landed h
    exact ⟨i, k, st, getElem?_append_singleton.2 (Or.inl hi)⟩
  joined := by
    intro i k n st h
    have hold : ∃ (j : Nat) (st' : _), s.callers[j]? = some ⟨k, .leading n, st'⟩ := by
      rcases getElem?_append_singleton.1 h with h | ⟨-, rfl⟩
      · exact hs.joined h
      · exact hs.marker (hjoined rfl)
    obtain ⟨j, st', hj⟩ := hold
    exact ⟨j, st', getElem?_append_singleton.2 (Or.inl hj)⟩

variable [Sub τ] [LE τ] [DecidableLE τ]

theorem enter (hs : Orderly s) (key : String) (now : τ) :
    Orderly ⟨(s.flight.enter key now).2, s.callers ++ [⟨key, (s.flight.enter key now).1, .boarded⟩]⟩ := by
  cases hlive : s.flight.cache.peek? key now with
  | some a =>
    rw [Flight.enter_hit hlive]
    refine hs.append Fits.hit ?_ nofun (fun h => Or.inl h) rfl nofun
    intro j d hd
    exact (hs.fits hd).mono (Nat.le_refl _) id (fun _ => id) fun _ _ => Iff.rfl
  | none =>
    cases hload : s.flight.loading.lookup key with
    | some n =>
      rw [Flight.enter_joined hlive hload]
      refine hs.append Fits.waiting ?_ nofun (fun h => Or.inl h) rfl ?_
      · intro j d hd
        exact (hs.fits hd).mono (Nat.le_refl _) id (fun _ => id) fun _ _ => Iff.rfl
      · intro n' hn
        cases hn
        exact hload
    | none =>
      rw [Flight.enter_leading hlive hload]
      -- the new load has a number that nobody's load has
      have hfresh : ∀ {i : Nat} {k n st}, s.callers[i]? = some ⟨k, .leading n, st⟩ → n ≠ s.flight.begun :=
        fun hi => Nat.ne_of_lt (hs.fits hi).begun_lt
      have hunknown : s.flight.landed.lookup s.flight.begun = none := by
        cases hlanded : s.flight.landed.lookup s.flight.begun with
        | none => rfl
        | some o =>
          obtain ⟨i, k, st, hi⟩ := hs.landed hlanded
          exact absurd rfl (hfresh hi)
      have hself : ((key, s.flight.begun) :: s.flight.loading).lookup key = some s.flight.begun :=
        List.lookup_cons_self
      have hothers : ∀ {k}, k ≠ key →
          ((key, s.flight.begun) :: s.flight.loading).lookup k = s.flight.loading.lookup k :=
        fun hk => Keyed.lookup_cons_of_ne hk _ _
      refine hs.append (Fits.aboard trivial hself hunknown (Nat.lt_succ_self _)) ?_ ?_ ?_ rfl nofun
      · intro j d hd
        refine (hs.fits hd).mono (Nat.le_succ _) id (fun _ => id) ?_
        intro n hn k
        obtain ⟨k', boarding, st⟩ := d
        cases hn
        by_cases hk : k = key
        · subst hk
          rw [hself, hload]
          refine iff_of_false ?_ nofun
          intro hsome
          exact hfresh hd (Option.some.inj hsome).symm
        · rw [hothers hk]
      · intro n hn i k st hi
        cases hn
        exact hfresh hi rfl
      · intro k n hk
        by_cases hkey : k = key
        · subst hkey
          rw [hself] at hk
          cases hk
          exact Or.inr ⟨rfl, rfl⟩
        · rw [hothers hkey] at hk
          exact Or.inl hk

/-- **Order is kept by every step.** -/
theorem step (hs : Orderly s) {s' : Traffic τ α ε} {m : Move α ε} (h : Step s m s') : Orderly s' := by
  cases h with
  | enter key now => exact hs.enter key now
  | start h => exact hs.advance_aboard h trivial trivial
  | load h o => exact hs.advance_aboard h trivial trivial
  | leave h now => exact hs.leave h now
  | land h => exact hs.land h
  | @lead i key n o h =>
    have hfits := hs.fits h
    have hknown : s.flight.landed.lookup n = some o := hfits.known_iff.2 (Or.inl rfl)
    exact hs.advance_alone h (Fits.arrived (Or.inr rfl) (hs.unmarked h id) hknown hfits.begun_lt)
  | hit h => exact hs.advance_alone h Fits.given
  | wake h hland => exact hs.advance_alone h (Fits.woken hland)
  | put key a now => exact hs.withCache _
  | invalidate key => exact hs.withCache _
  | clear => exact hs.withCache _
  | find key now => exact hs.withCache _

end Orderly

end Steward.Traffic
