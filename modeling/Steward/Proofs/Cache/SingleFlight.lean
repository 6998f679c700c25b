import Steward.Proofs.Cache.Order

/-!
# One load for all

Whatever callers do, and in whatever order, callers that miss the same key share one load. Besides the order among
callers this takes their history: which loaders have started, which outcomes they came to, and which of these
have been committed. `Recorded` ties the history to the callers.

## Contents

* `Caller.loaded?`, `committed?`, `isLeader`, `hasRun` — what is known of a caller;
* `Recorded`, `Recorded.step` — callers and history;
* `SingleFlight`, `Run.singleFlight` — what holds at every moment.
-/

namespace Steward

/-! ## Callers and history -/

/-- The outcome that the loader of a leader has come to. -/
def Caller.loaded? {α ε : Type} : Caller α ε → Option (Except ε α)
  | ⟨_, .leading _, .loaded o⟩ | ⟨_, .leading _, .left o⟩ | ⟨_, .leading _, .landed o⟩
  | ⟨_, .leading _, .returned o⟩ => some o
  | _ => none

/-- The outcome that a leader has committed. -/
def Caller.committed? {α ε : Type} : Caller α ε → Option (Except ε α)
  | ⟨_, .leading _, .left o⟩ | ⟨_, .leading _, .landed o⟩ | ⟨_, .leading _, .returned o⟩ => some o
  | _ => none

/-- The caller leads a load. -/
def Caller.isLeader {α ε : Type} (c : Caller α ε) : Bool :=
  match c.boarding with
  | .leading _ => true
  | .hit _ | .joined _ => false

/-- The caller leads a load whose loader has started. -/
def Caller.hasRun {α ε : Type} : Caller α ε → Bool
  | ⟨_, .leading _, .boarded⟩ => false
  | ⟨_, .leading _, _⟩ => true
  | _ => false

/-- A loader starts. -/
def Move.isStart {α ε : Type} : Move α ε → Bool
  | .start _ => true
  | _ => false

/-- A caller finds neither a live entry nor a load in flight. -/
def Move.isMiss {α ε : Type} : Move α ε → Bool
  | .enter _ none none => true
  | _ => false

namespace Traffic

variable {τ α ε β : Type}

/-- Something about the caller of a number. -/
def look (s : Traffic τ α ε) (q : Caller α ε → Option β) (i : Nat) : Option β :=
  (s.callers[i]?).bind q

/-- **What the history holds.** Loaders came to the outcomes, and leaders committed the outcomes, that the
callers are at; loaders started as often as there are leaders whose loader has started, and there is a leader
for every caller that found nothing. -/
structure Recorded (moves : List (Move α ε)) (s : Traffic τ α ε) : Prop where
  loads : ∀ {i o}, .load i o ∈ moves ↔ s.look Caller.loaded? i = some o
  leaves : ∀ {i o}, .leave i o ∈ moves ↔ s.look Caller.committed? i = some o
  starts : moves.countP (·.isStart) = s.callers.countP (·.hasRun)
  misses : moves.countP (·.isMiss) = s.callers.countP (·.isLeader)

theorem look_advance {s : Traffic τ α ε} {i : Nat} {c : Caller α ε} (hc : s.callers[i]? = some c)
    (stage : CallStage α ε) (q : Caller α ε → Option β) (j : Nat) :
    (s.advance i stage).look q j = if i = j then q { c with stage } else s.look q j := by
  unfold look
  by_cases hij : i = j
  · subst hij
    rw [if_pos rfl, advance_self hc]
    rfl
  · rw [if_neg hij, advance_of_ne stage hij]

/-- What is known of the callers changes by what becomes known of the one that comes to another stage. -/
theorem look_advance_iff {s : Traffic τ α ε} {i : Nat} {c : Caller α ε} (hc : s.callers[i]? = some c)
    (stage : CallStage α ε) {q : Caller α ε → Option β} {news : Nat → β → Prop}
    (hnews : ∀ b, q { c with stage } = some b ↔ q c = some b ∨ news i b) (hmine : ∀ j b, news j b → i = j)
    (j : Nat) (b : β) : (s.advance i stage).look q j = some b ↔ s.look q j = some b ∨ news j b := by
  rw [look_advance hc]
  by_cases hij : i = j
  · subst hij
    have hlook : s.look q i = q c := by
      unfold look
      rw [hc]
      rfl
    rw [if_pos rfl, hlook]
    exact hnews b
  · rw [if_neg hij]
    refine ⟨Or.inl, ?_⟩
    rintro (h | h)
    · exact h
    · exact absurd (hmine j b h) hij

theorem look_append {s : Traffic τ α ε} {c : Caller α ε} {q : Caller α ε → Option β} (hq : q c = none)
    (f : Flight τ α ε) (j : Nat) : (⟨f, s.callers ++ [c]⟩ : Traffic τ α ε).look q j = s.look q j := by
  unfold look
  rw [List.getElem?_append]
  by_cases hj : j < s.callers.length
  · rw [if_pos hj]
  · rw [if_neg hj, List.getElem?_eq_none (Nat.le_of_not_lt hj), List.getElem?_singleton]
    by_cases hzero : j - s.callers.length = 0
    · simp [hzero, hq]
    · simp [hzero]

/-- Counting callers while one of them comes to another stage. -/
theorem countP_modify {l : List (Caller α ε)} {i : Nat} {c : Caller α ε} (h : l[i]? = some c)
    (p : Caller α ε → Bool) (g : Caller α ε → Caller α ε) :
    (l.modify i g).countP p + (if p c then 1 else 0) = l.countP p + (if p (g c) then 1 else 0) := by
  induction l generalizing i with
  | nil => cases h
  | cons d rest ih =>
    cases i with
    | zero =>
      cases h
      rw [List.modify_zero_cons, List.countP_cons, List.countP_cons]
      omega
    | succ i =>
      have hrest := ih (by simpa using h)
      rw [List.modify_succ_cons, List.countP_cons, List.countP_cons]
      omega

namespace Recorded

variable {moves : List (Move α ε)} {s : Traffic τ α ε}

/-- A step that adds to the history what it adds to the callers. -/
theorem step_of (hr : Recorded moves s) {m : Move α ε} {s' : Traffic τ α ε}
    (hloads : ∀ i o, s'.look Caller.loaded? i = some o ↔ s.look Caller.loaded? i = some o ∨ m = .load i o)
    (hleaves : ∀ i o, s'.look Caller.committed? i = some o ↔ s.look Caller.committed? i = some o ∨ m = .leave i o)
    (hstarts : s'.callers.countP (·.hasRun) = s.callers.countP (·.hasRun) + if m.isStart then 1 else 0)
    (hmisses : s'.callers.countP (·.isLeader) = s.callers.countP (·.isLeader) + if m.isMiss then 1 else 0) :
    Recorded (moves ++ [m]) s' where
  loads := by
    intro i o
    rw [List.mem_append, List.mem_singleton, hr.loads, hloads, @eq_comm _ m]
  leaves := by
    intro i o
    rw [List.mem_append, List.mem_singleton, hr.leaves, hleaves, @eq_comm _ m]
  starts := by
    rw [List.countP_append, List.countP_singleton, hr.starts, hstarts]
  misses := by
    rw [List.countP_append, List.countP_singleton, hr.misses, hmisses]

/-- A caller comes to another stage, by a move that says what this means. -/
theorem advance (hr : Recorded moves s) {m : Move α ε} {i : Nat} {c : Caller α ε} (hc : s.callers[i]? = some c)
    (stage : CallStage α ε) (f : Flight τ α ε)
    (hloads : ∀ o, ({ c with stage } : Caller α ε).loaded? = some o ↔ c.loaded? = some o ∨ m = .load i o)
    (hleaves : ∀ o, ({ c with stage } : Caller α ε).committed? = some o ↔ c.committed? = some o ∨ m = .leave i o)
    (hmine : ∀ j o, m = .load j o ∨ m = .leave j o → i = j)
    (hstarts : (if ({ c with stage } : Caller α ε).hasRun then 1 else 0)
      = (if c.hasRun then 1 else 0) + if m.isStart then 1 else 0)
    (hmiss : m.isMiss = false) : Recorded (moves ++ [m]) ((s.advance i stage).withFlight f) := by
  refine hr.step_of ?_ ?_ ?_ ?_
  · exact look_advance_iff hc stage hloads fun j o h => hmine j o (Or.inl h)
  · exact look_advance_iff hc stage hleaves fun j o h => hmine j o (Or.inr h)
  · have hcount := countP_modify hc (·.hasRun) fun c => { c with stage }
    show (s.callers.modify i fun c => { c with stage }).countP (·.hasRun) = _
    omega
  · have hcount := countP_modify hc (·.isLeader) fun c => { c with stage }
    have hsame : ({ c with stage } : Caller α ε).isLeader = c.isLeader := rfl
    rw [hsame] at hcount
    show (s.callers.modify i fun c => { c with stage }).countP (·.isLeader) = _
    rw [hmiss, if_neg Bool.false_ne_true]
    omega

/-- A move that is about no caller. -/
theorem other (hr : Recorded moves s) {m : Move α ε} (f : Flight τ α ε) (hload : ∀ i o, m ≠ .load i o)
    (hleave : ∀ i o, m ≠ .leave i o) (hstart : m.isStart = false) (hmiss : m.isMiss = false) :
    Recorded (moves ++ [m]) (s.withFlight f) := by
  refine hr.step_of ?_ ?_ ?_ ?_
  · intro i o
    exact ⟨Or.inl, fun h => h.resolve_right (hload i o)⟩
  · intro i o
    exact ⟨Or.inl, fun h => h.resolve_right (hleave i o)⟩
  · rw [hstart]
    rfl
  · rw [hmiss]
    rfl

variable [Sub τ] [LE τ] [DecidableLE τ]

theorem enter (hr : Recorded moves s) (key : String) (now : τ) :
    Recorded (moves ++ [.enter key (s.flight.cache.peek? key now) (s.flight.loading.lookup key)])
      ⟨(s.flight.enter key now).2, s.callers ++ [⟨key, (s.flight.enter key now).1, .boarded⟩]⟩ := by
  -- a caller that has just entered is at no outcome, and leads a load if it found nothing
  have hnew : ∀ b : Boarding α, (⟨key, b, .boarded⟩ : Caller α ε).loaded? = none ∧
      (⟨key, b, .boarded⟩ : Caller α ε).committed? = none ∧ (⟨key, b, .boarded⟩ : Caller α ε).hasRun = false := by
    intro b
    cases b with
    | hit a => exact ⟨rfl, rfl, rfl⟩
    | joined n => exact ⟨rfl, rfl, rfl⟩
    | leading n => exact ⟨rfl, rfl, rfl⟩
  obtain ⟨hloaded, hcommitted, hrun⟩ := hnew (s.flight.enter key now).1
  have hleader : (⟨key, (s.flight.enter key now).1, .boarded⟩ : Caller α ε).isLeader
      = (Move.enter key (s.flight.cache.peek? key now) (s.flight.loading.lookup key) : Move α ε).isMiss := by
    cases hlive : s.flight.cache.peek? key now with
    | some a => rw [Flight.enter_hit hlive]; rfl
    | none =>
      cases hload : s.flight.loading.lookup key with
      | some n => rw [Flight.enter_joined hlive hload]; rfl
      | none => rw [Flight.enter_leading hlive hload]; rfl
  refine hr.step_of ?_ ?_ ?_ ?_
  · intro i o
    rw [look_append hloaded]
    exact ⟨Or.inl, fun h => h.resolve_right nofun⟩
  · intro i o
    rw [look_append hcommitted]
    exact ⟨Or.inl, fun h => h.resolve_right nofun⟩
  · show (s.callers ++ [(⟨key, (s.flight.enter key now).1, .boarded⟩ : Caller α ε)]).countP (·.hasRun) = _
    rw [List.countP_append, List.countP_singleton, hrun]
    rfl
  · show (s.callers ++ [(⟨key, (s.flight.enter key now).1, .boarded⟩ : Caller α ε)]).countP (·.isLeader) = _
    rw [List.countP_append, List.countP_singleton, hleader]

/-- **The history is kept by every step.** -/
theorem step (hr : Recorded moves s) {s' : Traffic τ α ε} {m : Move α ε} (h : Step s m s') :
    Recorded (moves ++ [m]) s' := by
  cases h with
  | enter key now => exact hr.enter key now
  | start h =>
    exact hr.advance h .running s.flight (by simp [Caller.loaded?]) (by simp [Caller.committed?]) (by simp) rfl rfl
  | load h o =>
    exact hr.advance h (.loaded o) s.flight (by simp [Caller.loaded?]) (by simp [Caller.committed?]) (by simp) rfl rfl
  | leave h now =>
    exact hr.advance h _ _ (by simp [Caller.loaded?]) (by simp [Caller.committed?]) (by simp) rfl rfl
  | land h =>
    exact hr.advance h _ _ (by simp [Caller.loaded?]) (by simp [Caller.committed?]) (by simp) rfl rfl
  | lead h =>
    exact hr.advance h _ s.flight (by simp [Caller.loaded?]) (by simp [Caller.committed?]) (by simp) rfl rfl
  | hit h =>
    exact hr.advance h _ s.flight (by simp [Caller.loaded?]) (by simp [Caller.committed?]) (by simp) rfl rfl
  | wake h hland =>
    exact hr.advance h _ s.flight (by simp [Caller.loaded?]) (by simp [Caller.committed?]) (by simp) rfl rfl
  | put key a now => exact hr.other _ nofun nofun rfl rfl
  | invalidate key => exact hr.other _ nofun nofun rfl rfl
  | clear => exact hr.other _ nofun nofun rfl rfl
  | find key now => exact hr.other _ nofun nofun rfl rfl

end Recorded

/-! ## Single flight -/

/-- What a caller has to do, by what it found: it joins a load only while that load is in flight, and leads a load
that nobody has led. -/
def Boards (s : Traffic τ α ε) (key : String) : Option α → Option Nat → Boarding α → Prop
  | some a, _, b => b = .hit a
  | none, some n, b => b = .joined n ∧ ∃ (i : Nat) (st : _), s.callers[i]? = some ⟨key, .leading n, st⟩ ∧ st.IsAboard
  | none, none, b => ∃ n, b = .leading n ∧ ∀ (i : Nat) (k : _) (st : _), s.callers[i]? ≠ some ⟨k, .leading n, st⟩

/-- **Single flight**, at some moment with some history. -/
structure SingleFlight [Sub τ] [LE τ] [DecidableLE τ] (moves : List (Move α ε)) (s : Traffic τ α ε) : Prop where
  /-- At most one loader runs for a key. -/
  running : ∀ {i j : Nat} {k n n'}, s.callers[i]? = some ⟨k, .leading n, .running⟩ →
    s.callers[j]? = some ⟨k, .leading n', .running⟩ → i = j
  /-- A marker stands exactly while the load of the leader who set it is neither committed nor failed. -/
  marker : ∀ {k n}, s.flight.loading.lookup k = some n ↔
    ∃ (i : Nat) (st : _), s.callers[i]? = some ⟨k, .leading n, st⟩ ∧ st.IsAboard
  /-- A load has one leader, whose loader comes to one outcome. -/
  leader : ∀ {i j : Nat} {k k' n st st'}, s.callers[i]? = some ⟨k, .leading n, st⟩ →
    s.callers[j]? = some ⟨k', .leading n, st'⟩ → i = j
  outcome : ∀ {i o o'}, .load i o ∈ moves → .load i o' ∈ moves → o = o'
  /-- Who joined a load returns the outcome of that very load, which was committed before. -/
  shared : ∀ {i : Nat} {k n o}, s.callers[i]? = some ⟨k, .joined n, .returned o⟩ →
    ∃ (j : Nat) (st : _), s.callers[j]? = some ⟨k, .leading n, st⟩ ∧ .load j o ∈ moves ∧ .leave j o ∈ moves
  /-- Before somebody who joined a load returns, its outcome is committed and its marker is gone. -/
  woken : ∀ {i : Nat} {k n o s'}, s.callers[i]? = some ⟨k, .joined n, .boarded⟩ → Step s (.finish i o) s' →
    (∃ (j : Nat) (st : _), s.callers[j]? = some ⟨k, .leading n, st⟩ ∧ .load j o ∈ moves ∧ .leave j o ∈ moves) ∧
      ∀ k', s.flight.loading.lookup k' ≠ some n
  /-- A value is committed together with the removal of the marker. -/
  commit : ∀ {i a s'}, Step s (.leave i (.ok a)) s' → ∃ k n now,
    s.callers[i]? = some ⟨k, .leading n, .loaded (.ok a)⟩ ∧
      s'.flight.cache.entries.lookup k = some ⟨a, now, now⟩ ∧ s'.flight.loading.lookup k = none
  /-- A failure writes no entry, and removes the marker too. -/
  failure : ∀ {i e s'}, Step s (.leave i (.error e)) s' → ∃ k n,
    s.callers[i]? = some ⟨k, .leading n, .loaded (.error e)⟩ ∧
      s'.flight.cache = s.flight.cache ∧ s'.flight.loading.lookup k = none
  /-- No other step of a call writes an entry, once it has boarded. -/
  quiet : ∀ {i o m s'}, m = .start i ∨ m = .load i o ∨ m = .land i o ∨ m = .finish i o → Step s m s' →
    s'.flight.cache = s.flight.cache
  /-- A caller boards by what it found, and does no more to the cache than a lookup. -/
  boards : ∀ {key live inFlight s'}, Step s (.enter key live inFlight) s' →
    (∃ b, s'.callers = s.callers ++ [⟨key, b, .boarded⟩] ∧ Boards s key live inFlight b) ∧
      ∃ now, s'.flight.cache = (s.flight.cache.find? key now).2
  /-- When all calls are over, a loader has run for each of those that found nothing. -/
  runs : (∀ c ∈ s.callers, ∃ o, c.stage = .returned o) → moves.countP (·.isStart) = moves.countP (·.isMiss)

theorem Run.orderly [Sub τ] [LE τ] [DecidableLE τ] {c : Cache τ α} {moves : List (Move α ε)} {s : Traffic τ α ε}
    (h : Run c moves s) : Orderly s := by
  induction h with
  | start => exact Orderly.start c
  | step _ next ih => exact ih.step next

theorem Run.recorded [Sub τ] [LE τ] [DecidableLE τ] {c : Cache τ α} {moves : List (Move α ε)} {s : Traffic τ α ε}
    (h : Run c moves s) : Recorded moves s := by
  induction h with
  | start => exact ⟨by simp [look], by simp [look], rfl, rfl⟩
  | step _ next ih => exact ih.step next

/-- **Who has returned from a load that it joined** has the outcome that the load's leader committed. -/
theorem exists_leader_of_known {moves : List (Move α ε)} {s : Traffic τ α ε} (hs : Orderly s)
    (hr : Recorded moves s) {i : Nat} {k : String} {n : Nat} {st : CallStage α ε} {o : Except ε α}
    (h : s.callers[i]? = some ⟨k, .joined n, st⟩) (hknown : s.flight.landed.lookup n = some o) :
    ∃ (j : Nat) (st' : _), s.callers[j]? = some ⟨k, .leading n, st'⟩ ∧ .load j o ∈ moves ∧ .leave j o ∈ moves := by
  obtain ⟨j, st', hj⟩ := hs.joined h
  have hlook : ∀ {q : Caller α ε → Option (Except ε α)}, q ⟨k, .leading n, st'⟩ = some o → s.look q j = some o := by
    intro q hq
    unfold look
    rw [hj]
    exact hq
  -- the leader has landed, and what it landed is what it had loaded and committed
  rcases (hs.fits hj).known_iff.1 hknown with rfl | rfl
  · exact ⟨j, _, hj, hr.loads.2 (hlook rfl), hr.leaves.2 (hlook rfl)⟩
  · exact ⟨j, _, hj, hr.loads.2 (hlook rfl), hr.leaves.2 (hlook rfl)⟩

theorem unmarked_of_known {s : Traffic τ α ε} (hs : Orderly s) {n : Nat} {o : Except ε α}
    (hknown : s.flight.landed.lookup n = some o) (k : String) : s.flight.loading.lookup k ≠ some n := by
  intro hk
  obtain ⟨j, st, hj⟩ := hs.marker hk
  have hunknown := (hs.fits hj).unknown_of_aboard ((hs.fits hj).marked_iff.1 hk)
  rw [hunknown] at hknown
  cases hknown

theorem boards_of_enter [Sub τ] [LE τ] [DecidableLE τ] {s : Traffic τ α ε} (hs : Orderly s) (key : String) (now : τ) :
    Boards s key (s.flight.cache.peek? key now) (s.flight.loading.lookup key) (s.flight.enter key now).1 := by
  cases hlive : s.flight.cache.peek? key now with
  | some a =>
    rw [Flight.enter_hit hlive]
    rfl
  | none =>
    cases hload : s.flight.loading.lookup key with
    | some n =>
      rw [Flight.enter_joined hlive hload]
      obtain ⟨i, st, hi⟩ := hs.marker hload
      exact ⟨rfl, i, st, hi, (hs.fits hi).marked_iff.1 hload⟩
    | none =>
      rw [Flight.enter_leading hlive hload]
      refine ⟨_, rfl, ?_⟩
      intro i k st hi
      exact Nat.lt_irrefl _ (hs.fits hi).begun_lt

/-- When all calls are over, a leader's loader has run. -/
theorem countP_hasRun {callers : List (Caller α ε)} (h : ∀ c ∈ callers, ∃ o, c.stage = .returned o) :
    callers.countP (·.hasRun) = callers.countP (·.isLeader) := by
  apply List.countP_congr
  intro c hc
  obtain ⟨o, ho⟩ := h c hc
  obtain ⟨key, boarding, stage⟩ := c
  cases ho
  cases boarding with
  | hit a => rfl
  | joined n => rfl
  | leading n => rfl

/-- **Single flight holds at every moment** of everything that can happen. -/
theorem Run.singleFlight [Sub τ] [LE τ] [DecidableLE τ] {c : Cache τ α} {moves : List (Move α ε)}
    {s : Traffic τ α ε} (h : Run c moves s) : SingleFlight moves s := by
  have hs := h.orderly
  have hr := h.recorded
  -- a leader whose load is in flight has its marker standing
  have hmarked : ∀ {i : Nat} {k n} {st : CallStage α ε}, s.callers[i]? = some ⟨k, .leading n, st⟩ → st.IsAboard →
      s.flight.loading.lookup k = some n := fun hi hst => (hs.fits hi).marked_iff.2 hst
  refine ⟨?_, ?_, hs.leader, ?_, ?_, ?_, ?_, ?_, ?_, ?_, ?_⟩
  · intro i j k n n' hi hj
    -- two loaders that run for a key would have one marker, so one leader
    have hsame := (hmarked hi trivial).symm.trans (hmarked hj trivial)
    cases hsame
    exact hs.leader hi hj
  · intro k n
    constructor
    · intro hk
      obtain ⟨i, st, hi⟩ := hs.marker hk
      exact ⟨i, st, hi, (hs.fits hi).marked_iff.1 hk⟩
    · rintro ⟨i, st, hi, hst⟩
      exact hmarked hi hst
  · intro i o o' ho ho'
    rw [hr.loads] at ho ho'
    rw [ho] at ho'
    cases ho'
    rfl
  · intro i k n o hi
    have hfits := hs.fits hi
    cases hfits with
    | woken known => exact exists_leader_of_known hs hr hi known
  · intro i k n o s' hi hstep
    -- a caller that joined can only wake
    cases hstep with
    | lead h => rw [hi] at h; cases h
    | hit h => rw [hi] at h; cases h
    | wake h known =>
      rw [hi] at h
      cases h
      exact ⟨exists_leader_of_known hs hr hi known, unmarked_of_known hs known⟩
  · intro i a s' hstep
    cases hstep with
    | @leave _ key n _ h now =>
      refine ⟨key, n, now, h, ?_, ?_⟩
      · exact (Keyed.lookup_put _ _ _ _).trans (if_pos rfl)
      · exact (Keyed.lookup_erase _ _ _).trans (if_pos rfl)
  · intro i e s' hstep
    cases hstep with
    | @leave _ key n _ h now => exact ⟨key, n, h, rfl, (Keyed.lookup_erase _ _ _).trans (if_pos rfl)⟩
  · intro i o m s' hm hstep
    rcases hm with rfl | rfl | rfl | rfl
    · cases hstep; rfl
    · cases hstep; rfl
    · cases hstep; rfl
    · cases hstep with
      | lead h => rfl
      | hit h => rfl
      | wake h known => rfl
  · intro key live inFlight s' hstep
    cases hstep with
    | enter key now => exact ⟨⟨_, rfl, boards_of_enter hs key now⟩, now, Flight.enter_cache⟩
  · intro hover
    rw [hr.starts, hr.misses, countP_hasRun hover]

/-- Two callers share one load: one has led it and committed its value, the other returns that value. -/
theorem Run.singleFlight_pair :
    ∃ (moves : List (Move Nat Unit)) (s : Traffic Nat Nat Unit), Run ⟨none, none, []⟩ moves s ∧
      s.callers = [⟨"app-1", .leading 0, .returned (.ok 7)⟩, ⟨"app-1", .joined 0, .returned (.ok 7)⟩] ∧
      moves.countP (·.isStart) = 1 ∧ moves.countP (·.isStart) = moves.countP (·.isMiss) := by
  have h₀ : Run (⟨none, none, []⟩ : Cache Nat Nat) ([] : List (Move Nat Unit)) ⟨.ofCache ⟨none, none, []⟩, []⟩ :=
    Run.start
  -- both enter before the loader starts; the one that joined returns first
  have h₁ := h₀.step (.enter "app-1" 0)
  have h₂ := h₁.step (.enter "app-1" 0)
  have h₃ := h₂.step (@Step.start _ _ _ _ _ _ _ 0 "app-1" 0 rfl)
  have h₄ := h₃.step (@Step.load _ _ _ _ _ _ _ 0 "app-1" 0 rfl (.ok 7))
  have h₅ := h₄.step (@Step.leave _ _ _ _ _ _ _ 0 "app-1" 0 (.ok 7) rfl 0)
  have h₆ := h₅.step (@Step.land _ _ _ _ _ _ _ 0 "app-1" 0 (.ok 7) rfl)
  have h₇ := h₆.step (@Step.wake _ _ _ _ _ _ _ 1 "app-1" 0 (.ok 7) rfl rfl)
  have h₈ := h₇.step (@Step.lead _ _ _ _ _ _ _ 0 "app-1" 0 (.ok 7) rfl)
  refine ⟨_, _, h₈, rfl, rfl, h₈.singleFlight.runs ?_⟩
  intro c hc
  have hcallers : c ∈ [(⟨"app-1", .leading 0, .returned (.ok 7)⟩ : Caller Nat Unit),
      ⟨"app-1", .joined 0, .returned (.ok 7)⟩] := hc
  simp only [List.mem_cons, List.not_mem_nil, or_false] at hcallers
  rcases hcallers with rfl | rfl
  · exact ⟨_, rfl⟩
  · exact ⟨_, rfl⟩

end Traffic

end Steward
