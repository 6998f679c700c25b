import Steward.Keyed

/-!
# Expiring caches

A cache keeps values under keys. An entry lives until it has not been written, or not been read, for as long
as the cache allows. An expired entry is dropped when somebody looks for it; until then it is kept, but nobody
can see it.

## Contents

* `Entry`, `Cache` — entries in the order in which their keys came;
* `Cache.isExpired` — when an entry is past its time;
* `find?` — a lookup, which counts as reading; `peek?`, `keys`, `values`, `size` — views, which do not;
* `put`, `invalidate`, `clear` — changes.
-/

namespace Steward

/-- A value, and the times at which it was last written and last read. -/
structure Entry (τ α : Type) where
  value : α
  writtenAt : τ
  readAt : τ
  deriving DecidableEq, Inhabited

/-- A cache. An expiry that is not given never takes effect. -/
structure Cache (τ α : Type) where
  readExpiry : Option τ
  writeExpiry : Option τ
  entries : List (String × Entry τ α)
  deriving DecidableEq, Inhabited

namespace Cache

variable {τ α : Type} [Sub τ] [LE τ] [LT τ] [OfNat τ 0] [DecidableLE τ] [DecidableLT τ]

/-- An expiry as a cache keeps it: a negative one never takes effect. -/
def expiryOf (given : Option τ) : Option τ :=
  given.filter fun t => ¬ t < 0

/-- A cache without entries. -/
def empty (readExpiry writeExpiry : Option τ) : Cache τ α :=
  ⟨expiryOf readExpiry, expiryOf writeExpiry, []⟩

/-! ## Expiry -/

/-- Whether the time since some event has reached an expiry. -/
def isPast (expiry : Option τ) (since now : τ) : Bool :=
  expiry.any fun allowed => allowed ≤ now - since

/-- Whether an entry is past its time. -/
def isExpired (c : Cache τ α) (e : Entry τ α) (now : τ) : Bool :=
  isPast c.writeExpiry e.writtenAt now || isPast c.readExpiry e.readAt now

/-- The entries that can be seen. -/
def live (c : Cache τ α) (now : τ) : List (String × Entry τ α) :=
  c.entries.filter fun e => !c.isExpired e.2 now

/-! ## Views -/

/-- The keys of live entries. -/
def keys (c : Cache τ α) (now : τ) : List String :=
  (c.live now).map (·.1)

/-- The values of live entries. -/
def values (c : Cache τ α) (now : τ) : List α :=
  (c.live now).map (·.2.value)

/-- The number of live entries. -/
def size (c : Cache τ α) (now : τ) : Nat :=
  (c.keys now).length

/-- The value under a key, if its entry is live. -/
def peek? (c : Cache τ α) (key : String) (now : τ) : Option α :=
  match c.entries.lookup key with
  | some e => if c.isExpired e now then none else some e.value
  | none => none

/-! ## Changes -/

/-- Looks for a key. A live entry counts as read now; an expired one is dropped. -/
def find? (c : Cache τ α) (key : String) (now : τ) : Option α × Cache τ α :=
  match c.entries.lookup key with
  | none => (none, c)
  | some e =>
    if c.isExpired e now then (none, { c with entries := Keyed.erase c.entries key })
    else (some e.value, { c with entries := Keyed.put c.entries key { e with readAt := now } })

/-- Writes a value under a key. -/
def put (c : Cache τ α) (key : String) (value : α) (now : τ) : Cache τ α :=
  { c with entries := Keyed.put c.entries key ⟨value, now, now⟩ }

/-- Whether there is an entry under a key, live or not. -/
def holds (c : Cache τ α) (key : String) : Bool :=
  Keyed.holds c.entries key

/-- Drops the entry of a key. -/
def invalidate (c : Cache τ α) (key : String) : Cache τ α :=
  { c with entries := Keyed.erase c.entries key }

/-- Drops all entries. -/
def clear (c : Cache τ α) : Cache τ α :=
  { c with entries := [] }

end Cache

end Steward
