import Steward.Cache.Flight
import Steward.Proofs.Cache.Contents

/-!
# Traffic at a cache

Any number of callers at one cache. What a caller does under the cache's lock is one step, everything else about it
is steps of its own: its loader starts, and comes to some outcome; the outcome is committed; those who joined are
told; the caller returns. Between any two steps of one caller others may take theirs, and anybody may write,
drop or look up. The clock may show anything at any time.

## Contents

* `CallStage`, `Caller`, `Traffic` — how far the callers have come;
* `Move`, `Traffic.Step` — the steps, and what is observed of them;
* `Traffic.Run` — what can happen from the start, with its history;
* `Flight.enter_hit`, `enter_joined`, `enter_leading` — what a caller learns when it enters.
-/

namespace Steward

/-! ## Callers -/

/-- How far a call has come. Only a caller that leads a load goes through all of it. -/
inductive CallStage (α ε : Type) where
  /-- It knows what it has to do. -/
  | boarded
  /-- Its loader runs. -/
  | running
  /-- Its loader has come to an outcome. -/
  | loaded (o : Except ε α)
  /-- The outcome is committed, and nobody can join the load any more. -/
  | left (o : Except ε α)
  /-- The outcome is known to those who joined. -/
  | landed (o : Except ε α)
  /-- The call is over. -/
  | returned (o : Except ε α)

/-- The load of a leader at this stage is in flight. -/
def CallStage.IsAboard {α ε : Type} : CallStage α ε → Prop
  | .boarded | .running | .loaded _ => True
  | .left _ | .landed _ | .returned _ => False

/-- A call. -/
structure Caller (α ε : Type) where
  key : String
  boarding : Boarding α
  stage : CallStage α ε

/-- A cache with its loads, and all callers there ever were, in the order in which they entered. -/
structure Traffic (τ α ε : Type) where
  flight : Flight τ α ε
  callers : List (Caller α ε)

namespace Traffic

variable {τ α ε : Type}

/-- A caller comes to another stage. -/
def advance (s : Traffic τ α ε) (i : Nat) (stage : CallStage α ε) : Traffic τ α ε :=
  { s with callers := s.callers.modify i fun c => { c with stage } }

/-- The cache and its loads change. -/
def withFlight (s : Traffic τ α ε) (flight : Flight τ α ε) : Traffic τ α ε :=
  { s with flight }

/-- The cache changes. -/
def withCache (s : Traffic τ α ε) (cache : Cache τ α) : Traffic τ α ε :=
  { s with flight := { s.flight with cache } }

end Traffic

/-! ## Steps -/

/-- What is observed of a step. Of a caller that enters it is observed what it found. -/
inductive Move (α ε : Type) where
  | enter (key : String) (live : Option α) (inFlight : Option Nat)
  | start (i : Nat)
  | load (i : Nat) (o : Except ε α)
  | leave (i : Nat) (o : Except ε α)
  | land (i : Nat) (o : Except ε α)
  | finish (i : Nat) (o : Except ε α)
  | put (key : String) (a : α)
  | invalidate (key : String)
  | clear
  | find (key : String)

namespace Traffic

variable {τ α ε : Type} [Sub τ] [LE τ] [DecidableLE τ]

/-- **The steps.** A loader may come to any outcome. -/
inductive Step : Traffic τ α ε → Move α ε → Traffic τ α ε → Prop where
  | enter {s : Traffic τ α ε} (key : String) (now : τ) :
      Step s (.enter key (s.flight.cache.peek? key now) (s.flight.loading.lookup key))
        ⟨(s.flight.enter key now).2, s.callers ++ [⟨key, (s.flight.enter key now).1, .boarded⟩]⟩
  | start {s : Traffic τ α ε} {i : Nat} {key : String} {n : Nat}
      (h : s.callers[i]? = some ⟨key, .leading n, .boarded⟩) : Step s (.start i) (s.advance i .running)
  | load {s : Traffic τ α ε} {i : Nat} {key : String} {n : Nat}
      (h : s.callers[i]? = some ⟨key, .leading n, .running⟩) (o : Except ε α) :
      Step s (.load i o) (s.advance i (.loaded o))
  | leave {s : Traffic τ α ε} {i : Nat} {key : String} {n : Nat} {o : Except ε α}
      (h : s.callers[i]? = some ⟨key, .leading n, .loaded o⟩) (now : τ) :
      Step s (.leave i o) ((s.advance i (.left o)).withFlight (s.flight.leave key o now))
  | land {s : Traffic τ α ε} {i : Nat} {key : String} {n : Nat} {o : Except ε α}
      (h : s.callers[i]? = some ⟨key, .leading n, .left o⟩) :
      Step s (.land i o) ((s.advance i (.landed o)).withFlight (s.flight.land n o))
  | lead {s : Traffic τ α ε} {i : Nat} {key : String} {n : Nat} {o : Except ε α}
      (h : s.callers[i]? = some ⟨key, .leading n, .landed o⟩) : Step s (.finish i o) (s.advance i (.returned o))
  | hit {s : Traffic τ α ε} {i : Nat} {key : String} {a : α}
      (h : s.callers[i]? = some ⟨key, .hit a, .boarded⟩) :
      Step s (.finish i (.ok a)) (s.advance i (.returned (.ok a)))
  | wake {s : Traffic τ α ε} {i : Nat} {key : String} {n : Nat} {o : Except ε α}
      (h : s.callers[i]? = some ⟨key, .joined n, .boarded⟩) (hland : s.flight.landed.lookup n = some o) :
      Step s (.finish i o) (s.advance i (.returned o))
  | put {s : Traffic τ α ε} (key : String) (a : α) (now : τ) :
      Step s (.put key a) (s.withCache (s.flight.cache.put key a now))
  | invalidate {s : Traffic τ α ε} (key : String) :
      Step s (.invalidate key) (s.withCache (s.flight.cache.invalidate key))
  | clear {s : Traffic τ α ε} : Step s .clear (s.withCache s.flight.cache.clear)
  | find {s : Traffic τ α ε} (key : String) (now : τ) :
      Step s (.find key) (s.withCache (s.flight.cache.find? key now).2)

/-- **What can happen** from a cache without loads, with its history. -/
inductive Run (c : Cache τ α) : List (Move α ε) → Traffic τ α ε → Prop where
  | start : Run c [] ⟨.ofCache c, []⟩
  | step {moves : List (Move α ε)} {s s' : Traffic τ α ε} {m : Move α ε} (run : Run c moves s)
      (next : Step s m s') : Run c (moves ++ [m]) s'

end Traffic

/-! ## Entering -/

namespace Flight

variable {τ α ε : Type} [Sub τ] [LE τ] [DecidableLE τ] {f : Flight τ α ε} {key : String} {now : τ}

/-- A live entry is a hit. -/
theorem enter_hit {a : α} (h : f.cache.peek? key now = some a) :
    f.enter key now = (.hit a, { f with cache := (f.cache.find? key now).2 }) := by
  have hfind : (f.cache.find? key now).1 = some a := (Cache.find?_fst _ _ _).trans h
  unfold enter
  rw [← Prod.eta (f.cache.find? key now), hfind]

/-- Without a live entry, a caller joins the load in flight. -/
theorem enter_joined {n : Nat} (h : f.cache.peek? key now = none) (hload : f.loading.lookup key = some n) :
    f.enter key now = (.joined n, { f with cache := (f.cache.find? key now).2 }) := by
  have hfind : (f.cache.find? key now).1 = none := (Cache.find?_fst _ _ _).trans h
  unfold enter
  rw [← Prod.eta (f.cache.find? key now), hfind]
  dsimp only
  rw [hload]

/-- A caller that finds neither an entry nor a load in flight leads a new one. -/
theorem enter_leading (h : f.cache.peek? key now = none) (hload : f.loading.lookup key = none) :
    f.enter key now = (.leading f.begun,
      { f with
        cache := (f.cache.find? key now).2, loading := (key, f.begun) :: f.loading, begun := f.begun + 1 }) := by
  have hfind : (f.cache.find? key now).1 = none := (Cache.find?_fst _ _ _).trans h
  unfold enter
  rw [← Prod.eta (f.cache.find? key now), hfind]
  dsimp only
  rw [hload]

/-- A caller that enters does no more to the cache than a lookup. -/
theorem enter_cache : (f.enter key now).2.cache = (f.cache.find? key now).2 := by
  cases hlive : f.cache.peek? key now with
  | some a => rw [enter_hit hlive]
  | none =>
    cases hload : f.loading.lookup key with
    | some n => rw [enter_joined hlive hload]
    | none => rw [enter_leading hlive hload]

end Flight

end Steward
