import Steward.Cache.Basic

/-!
# One load at a time

Callers that miss the same key share one load: the first leads it, the others join it and get its outcome.
Every function here is one step that nobody can interrupt; between the steps anything may happen.

## Contents

* `Flight` — a cache, the loads in flight and the outcomes of loads that have landed;
* `Flight.enter` — a caller asks for a key: `Boarding` says what it has to do;
* `Flight.leave` — the leader of a load commits the outcome to the cache;
* `Flight.land` — the leader hands the outcome to those who joined.
-/

namespace Steward

/-- A cache with its loads. Loads are numbered in the order in which they begin. -/
structure Flight (τ α ε : Type) where
  cache : Cache τ α
  /-- The load in flight for a key. -/
  loading : List (String × Nat)
  /-- The outcomes of loads that have landed. -/
  landed : List (Nat × Except ε α)
  /-- The number of loads that have begun. -/
  begun : Nat

/-- What a caller that asked for a key has to do. -/
inductive Boarding (α : Type) where
  /-- Nothing: the value is here. -/
  | hit (a : α)
  /-- Wait for a load that another caller leads. -/
  | joined (load : Nat)
  /-- Run the loader. -/
  | leading (load : Nat)
  deriving DecidableEq

namespace Flight

variable {τ α ε : Type} [Sub τ] [LE τ] [LT τ] [OfNat τ 0] [DecidableLE τ] [DecidableLT τ]

/-- A cache with no loads. -/
def ofCache (c : Cache τ α) : Flight τ α ε :=
  ⟨c, [], [], 0⟩

/-- A caller asks for a key. -/
def enter (f : Flight τ α ε) (key : String) (now : τ) : Boarding α × Flight τ α ε :=
  match f.cache.find? key now with
  | (some a, cache) => (.hit a, { f with cache })
  | (none, cache) =>
    match f.loading.lookup key with
    | some load => (.joined load, { f with cache })
    | none => (.leading f.begun, { f with cache, loading := (key, f.begun) :: f.loading, begun := f.begun + 1 })

/-- The leader of a load is done: a value is written, and in either case nobody can join the load any more. -/
def leave (f : Flight τ α ε) (key : String) (outcome : Except ε α) (now : τ) : Flight τ α ε :=
  { f with
    cache := match outcome with
      | .ok a => f.cache.put key a now
      | .error _ => f.cache
    loading := Keyed.erase f.loading key }

/-- The outcome of a load becomes known to those who joined it. -/
def land (f : Flight τ α ε) (load : Nat) (outcome : Except ε α) : Flight τ α ε :=
  { f with landed := (load, outcome) :: f.landed }

end Flight

end Steward
