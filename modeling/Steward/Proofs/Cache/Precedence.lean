import Steward.Proofs.Cache.SingleFlight
import Mathlib.Data.List.Chain

/-!
# The last word on a key

A write replaces a value, and a drop removes it. The commit of a load is a write like any other: it takes no notice of
what has happened since the load began. So the last of all these decides what is shown under a key. What counts for a
load is when it is committed, not when it began.

A value that was written is shown until it expires. Since an expired entry goes when somebody looks for it, the times
at which the key was sought since then belong to the question whether the value is still there. The clock may show
anything at any time.

## Contents

* `Mention`, `Move.mention?` — what a step says of a key, and when;
* `Cache.retell`, `Cache.Heeds` — the entry of a key, by what is said of it;
* `Cache.Lasts`, `Cache.Shows` — what is shown then; `Cache.Heeds.shows`;
* `Timed`, `Path` — steps in a row from any moment on, with what the clock shows; `Run.exists_path`;
* `Timed.heeds`, `Path.heeds_of_marked`, `Path.heeds_of_unmarked` — what is said counts until more is said;
* `Run.last_word` — from the beginning of a load on, the last word counts;
* `Run.load_undoes` — a load that began before a word and is committed after it.
-/

namespace Steward

/-! ## Mentions -/

/-- What is said of a key, or what is asked. -/
inductive Mention (τ α : Type) where
  /-- The word on it: a value is written at a time, or, if there is none, what is there is dropped. -/
  | word (written : Option (α × τ))
  /-- Somebody looks for it at a time. -/
  | sought (time : τ)

/-- What a step says of a key if the clock shows this. That a load is committed tells nothing of its key. -/
def Move.mention? {τ α ε : Type} (key : String) (now : τ) : Move α ε → Option (Mention τ α)
  | .put k a => if k = key then some (.word (some (a, now))) else none
  | .invalidate k => if k = key then some (.word none) else none
  | .clear => some (.word none)
  | .enter k _ _ | .find k => if k = key then some (.sought now) else none
  | _ => none

/-- What the commit of a load says of its key. A load that failed says nothing. -/
def mentionOf {τ α ε : Type} (now : τ) : Except ε α → Option (Mention τ α)
  | .ok a => some (.word (some (a, now)))
  | .error _ => none

namespace Cache

variable {τ α : Type} [Sub τ] [LE τ] [DecidableLE τ] {c c' : Cache τ α} {key : String} {o : Option (Entry τ α)}

/-! ## The entry of a key -/

/-- What becomes of the entry of a key when it is mentioned, with the expiries of this cache. -/
def retell (c : Cache τ α) (o : Option (Entry τ α)) : Mention τ α → Option (Entry τ α)
  | .word none => none
  | .word (some (a, written)) => some ⟨a, written, written⟩
  | .sought now => (o.filter fun e => !c.isExpired e now).map fun e => { e with readAt := now }

theorem retell_sought_expired {e : Entry τ α} {now : τ} (h : c.isExpired e now = true) :
    c.retell (some e) (.sought now) = none := by
  simp [retell, Option.filter, h]

theorem retell_sought_live {e : Entry τ α} {now : τ} (h : c.isExpired e now = false) :
    c.retell (some e) (.sought now) = some { e with readAt := now } := by
  simp [retell, Option.filter, h]

/-- A cache heeds what was said of a key: it has this entry under it, and the expiries of the cache in the beginning. -/
structure Heeds (c c' : Cache τ α) (key : String) (o : Option (Entry τ α)) : Prop where
  read : c'.readExpiry = c.readExpiry
  write : c'.writeExpiry = c.writeExpiry
  entry : c'.entries.lookup key = o

theorem Heeds.isExpired (h : c.Heeds c' key o) : c'.isExpired = c.isExpired := by
  funext e now
  unfold Cache.isExpired
  rw [h.read, h.write]

omit [Sub τ] [LE τ] [DecidableLE τ] in
theorem Heeds.put (h : c.Heeds c' key o) (other : String) (a : α) (now : τ) :
    c.Heeds (c'.put other a now) key (if key = other then some ⟨a, now, now⟩ else o) :=
  ⟨h.read, h.write, h.entry ▸ Keyed.lookup_put _ _ _ _⟩

omit [Sub τ] [LE τ] [DecidableLE τ] in
theorem Heeds.invalidate (h : c.Heeds c' key o) (other : String) :
    c.Heeds (c'.invalidate other) key (if key = other then none else o) :=
  ⟨h.read, h.write, h.entry ▸ Keyed.lookup_erase _ _ _⟩

/-- A lookup touches a live entry and drops an expired one. -/
theorem Heeds.find? (h : c.Heeds c' key o) (other : String) (now : τ) :
    c.Heeds (c'.find? other now).2 key (if key = other then c.retell o (.sought now) else o) := by
  unfold Cache.find?
  rw [h.isExpired]
  by_cases hkey : key = other
  · subst hkey
    rw [h.entry, if_pos rfl]
    cases o with
    | none => exact h
    | some e =>
      dsimp only
      cases hexp : c.isExpired e now with
      | true =>
        rw [if_pos rfl, retell_sought_expired hexp]
        exact ⟨h.read, h.write, (Keyed.lookup_erase _ _ _).trans (if_pos rfl)⟩
      | false =>
        rw [if_neg Bool.false_ne_true, retell_sought_live hexp]
        exact ⟨h.read, h.write, (Keyed.lookup_put _ _ _ _).trans (if_pos rfl)⟩
  · rw [if_neg hkey]
    cases c'.entries.lookup other with
    | none => exact h
    | some e =>
      dsimp only
      split
      · exact ⟨h.read, h.write, (Keyed.lookup_erase _ _ _).trans ((if_neg hkey).trans h.entry)⟩
      · exact ⟨h.read, h.write, (Keyed.lookup_put _ _ _ _).trans ((if_neg hkey).trans h.entry)⟩

/-! ## What is shown -/

/-- **A value lasts** that was written at a time and sought at these times since: whenever it was sought, and now, it was
written recently enough, and it was touched recently enough. -/
def Lasts (c : Cache τ α) (written : τ) (sought : List τ) (now : τ) : Prop :=
  (∀ t ∈ sought ++ [now], isPast c.writeExpiry written t = false) ∧
    (written :: (sought ++ [now])).IsChain fun touched t => isPast c.readExpiry touched t = false

/-- **What a cache shows** under a key after a word, if it was sought at these times since: nothing after a drop, and
after a write the value, exactly as long as that lasts. -/
def Shows (c c' : Cache τ α) (key : String) (sought : List τ) : Option (α × τ) → Prop
  | none => ∀ now, c'.peek? key now = none
  | some (a, written) => ∀ now b, c'.peek? key now = some b ↔ b = a ∧ c.Lasts written sought now

/-- Nothing comes of looking for what is not there. -/
theorem foldl_retell_none (sought : List τ) : (sought.map Mention.sought).foldl c.retell none = none := by
  induction sought with
  | nil => rfl
  | cons t rest ih => exact ih

/-- What is left of an entry that was sought is live as long as it has been in time for everything. -/
theorem foldl_retell_some {e : Entry τ α} {sought : List τ} {now : τ} {b : α} :
    (((sought.map Mention.sought).foldl c.retell (some e)).filter fun e => !c.isExpired e now).map (·.value) = some b ↔
      b = e.value ∧ (∀ t ∈ sought ++ [now], isPast c.writeExpiry e.writtenAt t = false) ∧
        (e.readAt :: (sought ++ [now])).IsChain fun touched t => isPast c.readExpiry touched t = false := by
  have hlive : ∀ (e : Entry τ α) (t : τ), c.isExpired e t = false ↔
      isPast c.writeExpiry e.writtenAt t = false ∧ isPast c.readExpiry e.readAt t = false :=
    fun e t => Bool.or_eq_false_iff
  induction sought generalizing e with
  | nil =>
    rw [List.map_nil, List.foldl_nil, List.nil_append, List.forall_mem_singleton, List.isChain_pair, ← hlive]
    cases hexp : c.isExpired e now <;> simp [Option.filter, hexp, eq_comm]
  | cons t rest ih =>
    rw [List.map_cons, List.foldl_cons, List.cons_append, List.isChain_cons_cons, List.forall_mem_cons]
    cases hexp : c.isExpired e t with
    | true =>
      -- it went when it was sought
      rw [retell_sought_expired hexp, foldl_retell_none]
      constructor
      · intro h
        cases h
      · rintro ⟨-, ⟨hwritten, -⟩, htouched, -⟩
        rw [(hlive e t).2 ⟨hwritten, htouched⟩] at hexp
        cases hexp
    | false =>
      obtain ⟨hwritten, htouched⟩ := (hlive e t).1 hexp
      rw [retell_sought_live hexp]
      refine ih.trans ?_
      simp only [hwritten, htouched, true_and]

/-- **The last word on a key decides what is shown.** -/
theorem Heeds.shows {past : List (Mention τ α)} {word : Option (α × τ)} {sought : List τ}
    (h : c.Heeds c' key ((past ++ Mention.word word :: sought.map Mention.sought).foldl c.retell o)) :
    c.Shows c' key sought word := by
  have hpeek : ∀ now, c'.peek? key now =
      (((sought.map Mention.sought).foldl c.retell (c.retell (past.foldl c.retell o) (.word word))).filter
        fun e => !c.isExpired e now).map (·.value) := by
    intro now
    rw [peek?_eq, h.entry, h.isExpired, List.foldl_append, List.foldl_cons]
  cases word with
  | none =>
    intro now
    have hnone : c.retell (past.foldl c.retell o) (.word none) = none := rfl
    rw [hpeek, hnone, foldl_retell_none]
    rfl
  | some written =>
    intro now b
    rw [hpeek]
    exact foldl_retell_some

end Cache

/-! ## Paths -/

namespace Traffic

variable {τ α ε : Type} [Sub τ] [LE τ] [DecidableLE τ]

/-- What a step does to the cache if the clock shows this. -/
def cacheAfter (s : Traffic τ α ε) (now : τ) : Move α ε → Cache τ α
  | .enter key _ _ | .find key => (s.flight.cache.find? key now).2
  | .put key a => s.flight.cache.put key a now
  | .leave i (.ok a) =>
    match s.callers[i]? with
    | some caller => s.flight.cache.put caller.key a now
    | none => s.flight.cache
  | .invalidate key => s.flight.cache.invalidate key
  | .clear => s.flight.cache.clear
  | _ => s.flight.cache

theorem cacheAfter_leave {s : Traffic τ α ε} {i : Nat} {caller : Caller α ε} (h : s.callers[i]? = some caller) (a : α)
    (now : τ) : s.cacheAfter now (.leave i (.ok a)) = s.flight.cache.put caller.key a now := by
  unfold cacheAfter
  dsimp only
  rw [h]

/-- A step at which the clock shows this. That matters if the cache looks at the clock. -/
structure Timed (s : Traffic τ α ε) (m : Move α ε) (now : τ) (s' : Traffic τ α ε) : Prop where
  step : Step s m s'
  cache : s'.flight.cache = s.cacheAfter now m

/-- At every step the clock shows something, and anything will do if nobody looks. -/
theorem Step.exists_timed {s s' : Traffic τ α ε} {m : Move α ε} (h : Step s m s') (any : τ) :
    ∃ now, Timed s m now s' := by
  cases h with
  | enter key now => exact ⟨now, Step.enter key now, Flight.enter_cache⟩
  | @leave i key n o hi now =>
    refine ⟨now, Step.leave hi now, ?_⟩
    cases o with
    | ok a => exact (cacheAfter_leave hi a now).symm
    | error e => rfl
  | put key a now => exact ⟨now, Step.put key a now, rfl⟩
  | find key now => exact ⟨now, Step.find key now, rfl⟩
  | start h => exact ⟨any, Step.start h, rfl⟩
  | load h o => exact ⟨any, Step.load h o, rfl⟩
  | land h => exact ⟨any, Step.land h, rfl⟩
  | lead h => exact ⟨any, Step.lead h, rfl⟩
  | hit h => exact ⟨any, Step.hit h, rfl⟩
  | wake h hland => exact ⟨any, Step.wake h hland, rfl⟩
  | invalidate key => exact ⟨any, Step.invalidate key, rfl⟩
  | clear => exact ⟨any, Step.clear, rfl⟩

/-- Steps in a row, with what is observed of them and what the clock shows. -/
inductive Path : Traffic τ α ε → List (Move α ε × τ) → Traffic τ α ε → Prop where
  | nil (s : Traffic τ α ε) : Path s [] s
  | cons {s m s' : Traffic τ α ε} {move : Move α ε} {now : τ} {moves : List (Move α ε × τ)}
      (next : Timed s move now m) (rest : Path m moves s') : Path s ((move, now) :: moves) s'

variable {s s' : Traffic τ α ε} {m : Move α ε} {moves : List (Move α ε × τ)} {key : String}

theorem Path.concat {s₁ s₂ s₃ : Traffic τ α ε} {now : τ} (h : Path s₁ moves s₂) (last : Timed s₂ m now s₃) :
    Path s₁ (moves ++ [(m, now)]) s₃ := by
  induction h with
  | nil => exact .cons last (.nil _)
  | cons next _ ih => exact .cons next (ih last)

/-- Every run is a path from any moment on. -/
theorem Run.exists_path {c : Cache τ α} {before after : List (Move α ε)} (h : Run c (before ++ after) s) (any : τ) :
    ∃ s₁ moves, Run c before s₁ ∧ Path s₁ moves s ∧ moves.map (·.1) = after := by
  -- runs grow at their end
  induction after using List.reverseRecOn generalizing s with
  | nil =>
    rw [List.append_nil] at h
    exact ⟨s, [], h, .nil s, rfl⟩
  | append_singleton after move ih =>
    rw [← List.append_assoc] at h
    generalize hall : before ++ after ++ [move] = all at h
    cases h with
    | start => exact absurd hall (List.append_ne_nil_of_right_ne_nil _ (List.cons_ne_nil _ _))
    | step run next =>
      obtain ⟨rfl, hlast⟩ := List.append_inj' hall rfl
      obtain rfl := List.singleton_injective hlast
      obtain ⟨s₁, moves, hbefore, hpath, rfl⟩ := ih run
      obtain ⟨now, hnext⟩ := next.exists_timed any
      exact ⟨s₁, _, hbefore, hpath.concat hnext, List.map_append⟩

theorem Path.orderly (h : Path s moves s') (hs : Orderly s) : Orderly s' := by
  induction h with
  | nil => exact hs
  | cons next _ ih => exact ih (hs.step next.step)

/-- A caller remains the caller that it is. -/
theorem Step.caller (h : Step s m s') {i : Nat} {k : String} {b : Boarding α} {st : CallStage α ε}
    (hi : s.callers[i]? = some ⟨k, b, st⟩) : ∃ st', s'.callers[i]? = some ⟨k, b, st'⟩ := by
  cases h with
  | enter key now => exact ⟨st, getElem?_append_singleton.2 (Or.inl hi)⟩
  | put | invalidate | clear | find => exact ⟨st, hi⟩
  | _ => exact Orderly.exists_advance hi

theorem Path.caller (h : Path s moves s') {i : Nat} {k : String} {b : Boarding α} {st : CallStage α ε}
    (hi : s.callers[i]? = some ⟨k, b, st⟩) : ∃ st', s'.callers[i]? = some ⟨k, b, st'⟩ := by
  induction h generalizing st with
  | nil => exact ⟨st, hi⟩
  | cons next _ ih =>
    obtain ⟨st', hi'⟩ := next.step.caller hi
    exact ih hi'

/-- The number of loads only grows. -/
theorem Step.begun_le (h : Step s m s') : s.flight.begun ≤ s'.flight.begun := by
  cases h with
  | enter key now =>
    cases hlive : s.flight.cache.peek? key now with
    | some a =>
      rewrite [Flight.enter_hit hlive]
      exact Nat.le_refl _
    | none =>
      cases hload : s.flight.loading.lookup key with
      | some n =>
        rewrite [Flight.enter_joined hlive hload]
        exact Nat.le_refl _
      | none =>
        rw [Flight.enter_leading hlive hload]
        exact Nat.le_succ _
  | _ => exact Nat.le_refl _

/-- **A marker is set once.** The marker of a load that has begun stands only if it has stood before. -/
theorem Step.marked (h : Step s m s') {n : Nat} (hn : n < s.flight.begun)
    (hmarked : s'.flight.loading.lookup key = some n) : s.flight.loading.lookup key = some n := by
  cases h with
  | enter k now =>
    cases hlive : s.flight.cache.peek? k now with
    | some a =>
      rw [Flight.enter_hit hlive] at hmarked
      exact hmarked
    | none =>
      cases hload : s.flight.loading.lookup k with
      | some n' =>
        rw [Flight.enter_joined hlive hload] at hmarked
        exact hmarked
      | none =>
        rw [Flight.enter_leading hlive hload] at hmarked
        have hmarked : ((k, s.flight.begun) :: s.flight.loading).lookup key = some n := hmarked
        by_cases hk : key = k
        · rw [hk, List.lookup_cons_self] at hmarked
          exact absurd (Option.some.inj hmarked) (Nat.ne_of_gt hn)
        · rw [Keyed.lookup_cons_of_ne hk] at hmarked
          exact hmarked
  | leave h now =>
    have hmarked : (Keyed.erase s.flight.loading _).lookup key = some n := hmarked
    rw [Keyed.lookup_erase] at hmarked
    split at hmarked
    · cases hmarked
    · exact hmarked
  | _ => exact hmarked

/-- Only a caller that finds neither an entry nor a load in flight sets a marker. -/
theorem Step.unmarked (h : Step s m s') (hmiss : m ≠ .enter key none none)
    (hnone : s.flight.loading.lookup key = none) : s'.flight.loading.lookup key = none := by
  cases h with
  | enter k now =>
    cases hlive : s.flight.cache.peek? k now with
    | some a =>
      rw [Flight.enter_hit hlive]
      exact hnone
    | none =>
      cases hload : s.flight.loading.lookup k with
      | some n =>
        rw [Flight.enter_joined hlive hload]
        exact hnone
      | none =>
        rw [Flight.enter_leading hlive hload]
        have hk : key ≠ k := by
          rintro rfl
          rw [hlive, hload] at hmiss
          exact hmiss rfl
        exact (Keyed.lookup_cons_of_ne hk _ _).trans hnone
  | leave h now =>
    refine (Keyed.lookup_erase _ _ _).trans ?_
    split
    · rfl
    · exact hnone
  | _ => exact hnone

/-! ## The last word -/

/-- What is said of a key on a path, in order. -/
def tale (key : String) (moves : List (Move α ε × τ)) : List (Mention τ α) :=
  moves.flatMap fun move => (move.1.mention? key move.2).toList

/-- **What a step says counts**, as long as no load of the key is committed. -/
theorem Timed.heeds {c : Cache τ α} {o : Option (Entry τ α)} {now : τ} (h : Timed s m now s')
    (hquiet : ∀ i n o, m = .leave i o → s.callers[i]? ≠ some ⟨key, .leading n, .loaded o⟩)
    (hs : c.Heeds s.flight.cache key o) :
    c.Heeds s'.flight.cache key ((m.mention? key now).toList.foldl c.retell o) := by
  -- a key is mentioned if it is the one that the step is about
  have hmention : ∀ {k : String} {mention : Mention τ α},
      (if key = k then c.retell o mention else o)
        = (if k = key then some mention else none).toList.foldl c.retell o := by
    intro k mention
    by_cases hk : k = key
    · rw [if_pos hk, if_pos hk.symm]
      rfl
    · rw [if_neg hk, if_neg (Ne.symm hk)]
      rfl
  rw [h.cache]
  unfold cacheAfter Move.mention?
  cases m with
  | enter k live inFlight => exact hmention ▸ hs.find? k now
  | find k => exact hmention ▸ hs.find? k now
  | put k a => exact hmention ▸ hs.put k a now
  | invalidate k => exact hmention ▸ hs.invalidate k
  | clear => exact ⟨hs.read, hs.write, rfl⟩
  | leave i outcome =>
    cases outcome with
    | error e => exact hs
    | ok a =>
      obtain ⟨k, n, hi⟩ : ∃ k n, s.callers[i]? = some ⟨k, .leading n, .loaded (.ok a)⟩ := by
        cases h.step with
        | leave hi now => exact ⟨_, _, hi⟩
      have hk : key ≠ k := by
        rintro rfl
        exact hquiet i n _ rfl hi
      have hput := hs.put k a now
      rw [if_neg hk, ← cacheAfter_leave hi a now] at hput
      exact hput
  | _ => exact hs

/-- **While the marker of a load stands**, no load of the key is committed, so what is said counts. -/
theorem Path.heeds_of_marked {c : Cache τ α} {o : Option (Entry τ α)} (h : Path s moves s') (hs : Orderly s) {n : Nat}
    (hn : n < s.flight.begun) (hmarked : s'.flight.loading.lookup key = some n)
    (hheeds : c.Heeds s.flight.cache key o) :
    s.flight.loading.lookup key = some n ∧ c.Heeds s'.flight.cache key ((tale key moves).foldl c.retell o) := by
  suffices hall : s.flight.loading.lookup key = some n ∧
      ∀ o, c.Heeds s.flight.cache key o → c.Heeds s'.flight.cache key ((tale key moves).foldl c.retell o) from
    ⟨hall.1, hall.2 o hheeds⟩
  clear hheeds
  induction h with
  | nil => exact ⟨hmarked, fun _ => id⟩
  | @cons s m s' move now moves next rest ih =>
    obtain ⟨hafter, hlater⟩ := ih (hs.step next.step) (Nat.lt_of_lt_of_le hn next.step.begun_le) hmarked
    -- the marker stands after the step, so the step was not the commit of a load of the key, which erases it
    have hquiet : ∀ i n' o, move = .leave i o → s.callers[i]? ≠ some ⟨key, .leading n', .loaded o⟩ := by
      rintro i n' o rfl hi
      cases next.step with
      | leave hi' now =>
        rw [hi] at hi'
        cases hi'
        have herased : (Keyed.erase s.flight.loading key).lookup key = some n := hafter
        rw [Keyed.lookup_erase, if_pos rfl] at herased
        cases herased
    refine ⟨next.step.marked hn hafter, ?_⟩
    intro o ho
    have hrest := hlater _ (next.heeds hquiet ho)
    rw [← List.foldl_append] at hrest
    exact hrest

/-- **While no load of the key is in flight**, none is committed, so what is said counts. -/
theorem Path.heeds_of_unmarked {c : Cache τ α} {o : Option (Entry τ α)} (h : Path s moves s') (hs : Orderly s)
    (hmiss : ∀ now, (.enter key none none, now) ∉ moves) (hnone : s.flight.loading.lookup key = none)
    (hheeds : c.Heeds s.flight.cache key o) :
    c.Heeds s'.flight.cache key ((tale key moves).foldl c.retell o) := by
  induction h generalizing o with
  | nil => exact hheeds
  | @cons s m s' move now moves next _ ih =>
    have hfirst : move ≠ .enter key none none := by
      rintro rfl
      exact hmiss now List.mem_cons_self
    have hothers : ∀ now, (.enter key none none, now) ∉ moves := fun now h => hmiss now (List.mem_cons_of_mem _ h)
    -- who commits a load of the key has its marker standing
    have hquiet : ∀ i n o, move = .leave i o → s.callers[i]? ≠ some ⟨key, .leading n, .loaded o⟩ := by
      intro i n o _ hi
      have hmarked := (hs.fits hi).marked_iff.2 trivial
      rw [hnone] at hmarked
      cases hmarked
    have hrest := ih (hs.step next.step) hothers (next.step.unmarked hfirst hnone) (next.heeds hquiet hheeds)
    rw [← List.foldl_append] at hrest
    exact hrest

/-- The expiries stay as they are. -/
theorem Step.expiries (h : Step s m s') :
    s'.flight.cache.readExpiry = s.flight.cache.readExpiry ∧
      s'.flight.cache.writeExpiry = s.flight.cache.writeExpiry := by
  have hfind : ∀ key now, (s.flight.cache.find? key now).2.readExpiry = s.flight.cache.readExpiry ∧
      (s.flight.cache.find? key now).2.writeExpiry = s.flight.cache.writeExpiry := by
    intro key now
    unfold Cache.find?
    cases s.flight.cache.entries.lookup key with
    | none => exact ⟨rfl, rfl⟩
    | some e =>
      dsimp only
      split <;> exact ⟨rfl, rfl⟩
  cases h with
  | enter key now =>
    rw [Flight.enter_cache]
    exact hfind key now
  | find key now => exact hfind key now
  | @leave i key n o hi now => cases o with | _ => exact ⟨rfl, rfl⟩
  | _ => exact ⟨rfl, rfl⟩

/-- When a load of a key begins, the cache has no entry under it any more. -/
theorem Run.heeds_began {c : Cache τ α} {before : List (Move α ε)} {s₀ s₁ : Traffic τ α ε} (run : Run c before s₀)
    (began : Step s₀ (.enter key none none) s₁) : c.Heeds s₁.flight.cache key none := by
  have hexpiries : s₀.flight.cache.readExpiry = c.readExpiry ∧ s₀.flight.cache.writeExpiry = c.writeExpiry := by
    clear began
    induction run with
    | start => exact ⟨rfl, rfl⟩
    | step _ next ih => exact ⟨next.expiries.1.trans ih.1, next.expiries.2.trans ih.2⟩
  have hheeds : c.Heeds s₀.flight.cache key (s₀.flight.cache.entries.lookup key) := ⟨hexpiries.1, hexpiries.2, rfl⟩
  generalize hlive : (none : Option α) = live at began
  generalize (none : Option Nat) = load at began
  cases began with
  | enter _ now =>
    have hfound := hheeds.find? key now
    rw [if_pos rfl] at hfound
    -- what is not live is not there after it was sought
    have hgone : c.retell (s₀.flight.cache.entries.lookup key) (.sought now) = none := by
      rw [Cache.peek?_eq, hheeds.isExpired] at hlive
      exact Option.map_eq_none_iff.2 (Option.map_eq_none_iff.1 hlive.symm)
    rw [hgone] at hfound
    rw [Flight.enter_cache]
    exact hfound

/-- **The last word on a key counts**, from the beginning of a load of it on. In the order in which they happen, these
are the words on the key: the writes and drops while the load runs, its commit, and the writes and drops after that.
If the load fails, its commit is no word. It does not matter when the load began. After a drop nothing is shown any
more; after a write the value is shown exactly as long as it lasts, by the expiries of the cache and by when the key
was sought since. -/
theorem Run.last_word {c : Cache τ α} {before : List (Move α ε)} {window rest : List (Move α ε × τ)}
    {s₀ s₁ s₂ s₃ s₄ : Traffic τ α ε} {o : Except ε α} {ended : τ} (run : Run c before s₀)
    (began : Step s₀ (.enter key none none) s₁) (meanwhile : Path s₁ window s₂)
    (committed : Timed s₂ (.leave s₀.callers.length o) ended s₃) (later : Path s₃ rest s₄)
    (alone : ∀ now, (.enter key none none, now) ∉ rest) {past : List (Mention τ α)} {word : Option (α × τ)}
    {sought : List τ}
    (last : tale key window ++ (mentionOf ended o).toList ++ tale key rest
      = past ++ Mention.word word :: sought.map Mention.sought) :
    c.Shows s₄.flight.cache key sought word := by
  have hs₁ : Orderly s₁ := run.orderly.step began
  have hs₂ : Orderly s₂ := meanwhile.orderly hs₁
  have hs₃ : Orderly s₃ := hs₂.step committed.step
  -- the caller leads a load of the key, which it commits
  obtain ⟨n, hleader, hbegun⟩ : ∃ n, s₁.callers[s₀.callers.length]? = some ⟨key, .leading n, .boarded⟩ ∧
      n < s₁.flight.begun := by
    clear meanwhile committed
    generalize hlive : (none : Option α) = live at began
    generalize hload : (none : Option Nat) = load at began
    cases began with
    | enter _ now =>
      rw [Flight.enter_leading hlive.symm hload.symm]
      exact ⟨_, getElem?_append_singleton.2 (Or.inr ⟨rfl, rfl⟩), Nat.lt_succ_self _⟩
  obtain ⟨st, hleader₂⟩ := meanwhile.caller hleader
  obtain ⟨hcommitter, hnone⟩ : s₂.callers[s₀.callers.length]? = some ⟨key, .leading n, .loaded o⟩ ∧
      s₃.flight.loading.lookup key = none := by
    cases committed.step with
    | leave h now =>
      cases hleader₂.symm.trans h
      exact ⟨h, (Keyed.lookup_erase _ _ _).trans (if_pos rfl)⟩
  have hmarked := (hs₂.fits hcommitter).marked_iff.2 trivial
  have hwindow := (meanwhile.heeds_of_marked hs₁ hbegun hmarked (run.heeds_began began)).2
  have hcommit : c.Heeds s₃.flight.cache key
      ((mentionOf ended o).toList.foldl c.retell ((tale key window).foldl c.retell none)) := by
    rw [committed.cache]
    cases o with
    | error e => exact hwindow
    | ok a =>
      have hput := hwindow.put key a ended
      rw [if_pos rfl, ← cacheAfter_leave hcommitter a ended] at hput
      exact hput
  have hlater := later.heeds_of_unmarked hs₃ alone hnone hcommit
  rw [← List.foldl_append, ← List.foldl_append, ← List.append_assoc, last] at hlater
  exact hlater.shows

/-- A cache in which values live for ten minutes. -/
def tenMinutes : Cache Nat Nat :=
  ⟨none, some 600, []⟩

/-- One caller, whose loader runs, at a cache. -/
def underway (cache : Cache Nat Nat) : Traffic Nat Nat Unit :=
  ⟨⟨cache, [("a", 0)], [], 1⟩, [⟨"a", .leading 0, .running⟩]⟩

/-- What happens while its loader runs: this, before it comes to this outcome. -/
def meantime (word : Move Nat Unit) (o : Except Unit Nat) : List (Move Nat Unit × Nat) :=
  [(.start 0, 0), (word, 1), (.load 0 o, 2)]

/-- A load of a new key up to its commit, with something said of the key while its loader runs. -/
theorem exists_load (o : Except Unit Nat) {word : Move Nat Unit} {cache : Cache Nat Nat}
    (hword : Timed (underway tenMinutes) word 1 (underway cache)) :
    ∃ s₀ s₁ s₂ s₃ : Traffic Nat Nat Unit, Run tenMinutes [] s₀ ∧ Step s₀ (.enter "a" none none) s₁ ∧
      Path s₁ (meantime word o) s₂ ∧ Timed s₂ (.leave s₀.callers.length o) 3 s₃ ∧
      s₃.flight = (underway cache).flight.leave "a" o 3 := by
  have hload : Step (underway cache) (.load 0 o) _ := Step.load rfl o
  have hleave : Step ((underway cache).advance 0 (.loaded o)) (.leave 0 o) _ := Step.leave rfl 3
  have hcommitted : Timed ((underway cache).advance 0 (.loaded o)) (.leave 0 o) 3 _ :=
    ⟨hleave, by cases o <;> rfl⟩
  exact ⟨⟨.ofCache tenMinutes, []⟩, _, _, _, Run.start, Step.enter "a" 0,
    .cons ⟨.start rfl, rfl⟩ (.cons hword (.cons ⟨hload, rfl⟩ (.nil _))), hcommitted, rfl⟩

/-- A key that is dropped while its loader runs. -/
theorem timed_invalidate : Timed (underway tenMinutes) (.invalidate "a") 1 (underway tenMinutes) :=
  ⟨Step.invalidate "a", rfl⟩

/-- A write after the commit, and a lookup some minutes later. -/
def afterwards : List (Move Nat Unit × Nat) :=
  [(.put "a" 8, 4), (.find "a", 300)]

/-- A value that is written after the commit of a load is shown until it has been there for ten minutes, whatever was
dropped while the loader ran. -/
theorem Run.last_word_put :
    ∃ s₀ s₁ s₂ s₃ s₄ : Traffic Nat Nat Unit, Run tenMinutes [] s₀ ∧ Step s₀ (.enter "a" none none) s₁ ∧
      Path s₁ (meantime (.invalidate "a") (.ok 7)) s₂ ∧
      Timed s₂ (.leave s₀.callers.length (.ok 7)) 3 s₃ ∧ Path s₃ afterwards s₄ ∧
      (∀ now, (.enter "a" none none, now) ∉ afterwards) ∧
      s₄.flight.cache.peek? "a" 603 = some 8 ∧ s₄.flight.cache.peek? "a" 604 = none := by
  obtain ⟨s₀, s₁, s₂, s₃, run, began, meanwhile, committed, -⟩ := exists_load (.ok 7) timed_invalidate
  have later : Path s₃ afterwards _ := .cons ⟨.put "a" 8 4, rfl⟩ (.cons ⟨.find "a" 300, rfl⟩ (.nil _))
  have alone : ∀ now, (.enter "a" none none, now) ∉ afterwards := by
    intro now
    simp [afterwards]
  have last : tale "a" (meantime (.invalidate "a") (.ok 7)) ++ (mentionOf 3 (.ok 7 : Except Unit Nat)).toList
      ++ tale "a" afterwards
        = [.word none, .word (some (7, 3))] ++ Mention.word (some (8, 4)) :: [300].map Mention.sought := rfl
  have hshows := run.last_word began meanwhile committed later alone last
  refine ⟨s₀, s₁, s₂, s₃, _, run, began, meanwhile, committed, later, alone, ?_, ?_⟩
  · exact (hshows 603 8).2 ⟨rfl, by decide, by simp [tenMinutes, Cache.isPast]⟩
  · rw [Option.eq_none_iff_forall_ne_some]
    intro b hb
    obtain ⟨-, hwritten, -⟩ := (hshows 604 b).1 hb
    exact absurd (hwritten 604 (by simp)) (by decide)

/-- **A load undoes what was said since it began.** A key that is dropped while its loader runs is live again when the
load is committed; and a value that is written meanwhile gives way to the one that was loaded. -/
theorem Run.load_undoes :
    (∃ s₀ s₁ s₂ s₃ : Traffic Nat Nat Unit, Run tenMinutes [] s₀ ∧ Step s₀ (.enter "a" none none) s₁ ∧
      Path s₁ (meantime (.invalidate "a") (.ok 7)) s₂ ∧
      Timed s₂ (.leave s₀.callers.length (.ok 7)) 3 s₃ ∧ s₃.flight.cache.peek? "a" 3 = some 7) ∧
    ∃ s₀ s₁ s₂ s₃ : Traffic Nat Nat Unit, Run tenMinutes [] s₀ ∧ Step s₀ (.enter "a" none none) s₁ ∧
      Path s₁ (meantime (.put "a" 8) (.ok 7)) s₂ ∧
      Timed s₂ (.leave s₀.callers.length (.ok 7)) 3 s₃ ∧ s₃.flight.cache.peek? "a" 3 = some 7 := by
  constructor
  · obtain ⟨s₀, s₁, s₂, s₃, run, began, meanwhile, committed, hflight⟩ := exists_load (.ok 7) timed_invalidate
    refine ⟨s₀, s₁, s₂, s₃, run, began, meanwhile, committed, ?_⟩
    rw [hflight]
    decide
  · have hwrite : Timed (underway tenMinutes) (.put "a" 8) 1 (underway ⟨none, some 600, [("a", ⟨8, 1, 1⟩)]⟩) :=
      ⟨Step.put "a" 8 1, rfl⟩
    obtain ⟨s₀, s₁, s₂, s₃, run, began, meanwhile, committed, hflight⟩ := exists_load (.ok 7) hwrite
    refine ⟨s₀, s₁, s₂, s₃, run, began, meanwhile, committed, ?_⟩
    rw [hflight]
    decide

end Traffic

end Steward
