import Steward.Cache.Flight
import Steward.Value
import Steward.Fault
import Steward.Event.Basic

/-!
# Rehearsing a cache

A script of operations on a cache of document values, with loaders that take time, do further operations while
they run, and fail. Several callers at once all ask before the one that leads the load is done.

## Contents

* `CacheStep`, `Loader` — scripts;
* `CacheAnswer`, `CacheResult` — what a step gives, and what is seen after it;
* `CacheRehearsal` — the state; `CacheRehearsal.runAll` — a script from beginning to end.
-/

namespace Steward

mutual

/-- An operation on a cache. -/
inductive CacheStep where
  | put (key : String) (v : Value)
  | find (key : String)
  | invalidate (key : String)
  | clear
  | keys
  | values
  | size
  | advance (d : Number)
  | get (key : String) (loader : Loader)
  | together (key : String) (callers : Nat) (loader : Loader)

/-- What a loader does: it takes some time, does some steps, and comes to an outcome. -/
inductive Loader where
  | mk (takes : Number) (meanwhile : List CacheStep) (outcome : Except Report Value)

end

instance : Inhabited Loader := ⟨.mk 0 [] (.ok .null)⟩
instance : Inhabited CacheStep := ⟨.clear⟩

/-- What a step gives. -/
inductive CacheAnswer where
  | nothing
  | value (v : Value)
  | texts (ts : List String)
  | values (vs : List Value)
  | count (n : Nat)
  | outcomes (all : List (Except Fault Value))
  deriving Inhabited

/-- What a step gives, what is seen after it, and the results of the steps that a loader did meanwhile. -/
inductive CacheResult where
  | mk (answer : Except Fault CacheAnswer) (keys : List String) (loads : Nat) (meanwhile : List CacheResult)

instance : Inhabited CacheResult := ⟨.mk (.ok .nothing) [] 0 []⟩

/-- A cache under a script. -/
structure CacheRehearsal where
  flight : Flight Number Value Fault
  now : Number
  loads : Nat
  /-- The events, the latest first. -/
  events : List Event

namespace CacheRehearsal

/-- The start of a rehearsal. -/
def start (accessExpiry writeExpiry : Option Number) (now : Number) : CacheRehearsal :=
  { flight := .ofCache (.empty accessExpiry writeExpiry), now, loads := 0, events := [] }

/-- The cache changed. -/
def withCache (s : CacheRehearsal) (cache : Cache Number Value) : CacheRehearsal :=
  { s with flight := { s.flight with cache } }

/-- Drops a key, and reports it if there was an entry. -/
def invalidate (s : CacheRehearsal) (key : String) : CacheRehearsal :=
  let s' := s.withCache (s.flight.cache.invalidate key)
  if s.flight.cache.holds key then
    { s' with events := ⟨.debug, "Invalidated cache entry", [("key", .text key)]⟩ :: s'.events }
  else s'

/-- A step's result, with what is seen after it. -/
def seen (s : CacheRehearsal) (answer : Except Fault CacheAnswer) (meanwhile : List CacheResult) :
    CacheResult × CacheRehearsal :=
  (.mk answer (s.flight.cache.keys s.now) s.loads meanwhile, s)

/-- Callers that ask for a key one after the other. -/
def enterAll (key : String) : (callers : Nat) → CacheRehearsal → List (Boarding Value) × CacheRehearsal
  | 0, s => ([], s)
  | callers + 1, s =>
    let (b, flight) := s.flight.enter key s.now
    let (bs, s) := enterAll key callers { s with flight }
    (b :: bs, s)

/-- What a caller gets, once no load is in flight. -/
def outcomeOf (s : CacheRehearsal) : Boarding Value → Except Fault Value
  | .hit v => .ok v
  | .joined load | .leading load => (s.flight.landed.lookup load).getD (.error .cancelled)

/-- The outcome that a loader comes to. -/
def outcomeFor : Except Report Value → Except Fault Value
  | .ok v => .ok v
  | .error r => .error (.reported r)

/-- The load that one of some callers leads. -/
def ledBy (boardings : List (Boarding Value)) : Option Nat :=
  boardings.findSome? fun b =>
    match b with
    | .leading load => some load
    | _ => none

mutual

/-- Runs the loader of a load that has begun, and lands it. -/
def load (key : String) (number : Nat) : Loader → CacheRehearsal → List CacheResult × CacheRehearsal
  | .mk takes meanwhile outcome, s =>
    let (results, s) := runAll meanwhile { s with now := s.now + takes, loads := s.loads + 1 }
    let outcome := outcomeFor outcome
    let flight := (s.flight.leave key outcome s.now).land number outcome
    (results, { s with flight })

/-- One step. -/
def step : CacheStep → CacheRehearsal → CacheResult × CacheRehearsal
  | .put key v, s => (s.withCache (s.flight.cache.put key v s.now)).seen (.ok .nothing) []
  | .find key, s =>
    let (found, cache) := s.flight.cache.find? key s.now
    (s.withCache cache).seen (.ok (.value (found.getD .null))) []
  | .invalidate key, s => (s.invalidate key).seen (.ok .nothing) []
  | .clear, s => (s.withCache s.flight.cache.clear).seen (.ok .nothing) []
  | .keys, s => s.seen (.ok (.texts (s.flight.cache.keys s.now))) []
  | .values, s => s.seen (.ok (.values (s.flight.cache.values s.now))) []
  | .size, s => s.seen (.ok (.count (s.flight.cache.size s.now))) []
  | .advance d, s => { s with now := s.now + d }.seen (.ok .nothing) []
  | .get key loader, s =>
    let (boardings, s) := enterAll key 1 s
    let (results, s) := match ledBy boardings with
      | some number => load key number loader s
      | none => ([], s)
    let answer := match boardings with
      | b :: _ => (s.outcomeOf b).map .value
      | [] => .ok .nothing
    s.seen answer results
  | .together key callers loader, s =>
    let (boardings, s) := enterAll key callers s
    let (results, s) := match ledBy boardings with
      | some number => load key number loader s
      | none => ([], s)
    s.seen (.ok (.outcomes (boardings.map s.outcomeOf))) results

/-- Steps one after the other. -/
def runAll : List CacheStep → CacheRehearsal → List CacheResult × CacheRehearsal
  | [], s => ([], s)
  | first :: rest, s =>
    let (r, s) := step first s
    let (rs, s) := runAll rest s
    (r :: rs, s)

end

end CacheRehearsal

end Steward
