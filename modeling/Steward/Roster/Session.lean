import Steward.Cache.Basic
import Steward.Roster.Basic
import Steward.Settings.Basic

/-!
# Keeping a roster in one place

A session holds what the programs of a roster work on: the cache and its clock, the counters, the pool, and
whatever the platform is to whoever answers inquiries. The pool runs work at once, one task after another.

## Contents

* `Refusal`, `Pool` — how many submissions a pool still takes, and what it does with further ones;
* `Session` — the state;
* `Roster.ofSettings`, `Session.ofSettings` — the roster that is set, and an empty session for it;
* `Session.answerErrand`, `Session.runBatch` — workers and batches;
* `Session.answer` — the handler of a roster's programs.
-/

namespace Steward

/-! ## Pools -/

/-- What a pool does with a submission that it does not run. -/
inductive Refusal where
  /-- Takes no submission. -/
  | rejects (f : Fault)
  /-- Takes the submission and cancels it. -/
  | cancels
  /-- Takes the submission, and its worker dies. -/
  | dies (f : Fault)
  deriving Inhabited

/-- A pool that runs work at once: the submissions that it still runs, and what it does with further ones. A
pool without refusal runs everything. -/
structure Pool where
  left : Nat
  refusal : Option Refusal
  deriving Inhabited

namespace Pool

/-- Runs everything. -/
def working : Pool := ⟨0, none⟩

/-- What happens to the next submission, and the pool after it. -/
def next (p : Pool) : Option Refusal × Pool :=
  match p.refusal, p.left with
  | none, _ => (none, p)
  | some refusal, 0 => (some refusal, p)
  | some _, left + 1 => (none, { p with left })

end Pool

/-! ## Sessions -/

/-- What the programs of a roster work on. -/
structure Session (τ σ : Type) where
  cache : Cache τ Workload
  clock : τ
  meter : Meter
  tally : Tally
  stopwatch : Number
  pool : Pool
  world : σ

/-- The roster that is set. -/
def Roster.ofSettings (s : Settings) (naming : Resolver) : Roster where
  mapper := ⟨s.account, s.appsManagerUri, s.metricsUri⟩
  naming := naming
  onlyManaged := s.onlyManaged
  pageSize := s.resultsPerPage

/-- An empty session with the expiries and the meter that are set. -/
def Session.ofSettings (s : Settings) (clock : Number) (world : σ) : Session Number σ where
  cache := .empty (s.accessExpiry.map .whole) (s.writeExpiry.map .whole)
  clock := clock
  meter := ⟨s.account, s.metricsEnabled⟩
  tally := .empty
  stopwatch := 0
  pool := .working
  world := world

namespace Session

variable {τ σ : Type} [Sub τ] [LE τ] [LT τ] [OfNat τ 0] [DecidableLE τ] [DecidableLT τ]

/-- Looks a workload up. -/
def lookup (s : Session τ σ) (key : String) : Option Workload × Session τ σ :=
  let (found, cache) := s.cache.find? key s.clock
  (found, { s with cache })

omit [Sub τ] [LE τ] [LT τ] [OfNat τ 0] [DecidableLE τ] [DecidableLT τ] in
/-- Answers an inquiry. -/
def inquire (platform : Handler Inquiry σ) (r : Inquiry.Request) (s : Session τ σ) :
    Inquiry.Reply r × Session τ σ :=
  let (reply, world) := platform r s.world
  (reply, { s with world })

/-- Answers a worker. -/
def answerErrand (platform : Handler Inquiry σ) : Handler Errand (Session τ σ)
  | .inquiry r, s => s.inquire platform r
  | .lookup key, s => s.lookup key

/-- Runs a batch, task after task. A submission that the pool does not take ends the batch. -/
def runBatch (platform : Handler Inquiry σ) :
    List Task → Session τ σ → Except Fault (List (Except Fault (Option Workload))) × Session τ σ
  | [], s => (.ok [], s)
  | task :: rest, s =>
    let (refusal, pool) := s.pool.next
    let s := { s with pool }
    match refusal with
    | some (.rejects f) => (.error f, s)
    | some .cancels =>
      let (outcomes, s) := runBatch platform rest s
      (outcomes.map (.error .cancelled :: ·), s)
    | some (.dies f) =>
      let (outcomes, s) := runBatch platform rest s
      (outcomes.map (.error f :: ·), s)
    | none =>
      let (w, s) := task.run (answerErrand platform) s
      let (outcomes, s) := runBatch platform rest s
      (outcomes.map (.ok w :: ·), s)

/-- Answers the programs of a roster. -/
def answer (platform : Handler Inquiry σ) : Handler Keeping (Session τ σ)
  | .inquiry r, s => s.inquire platform r
  | .lookup key, s => s.lookup key
  | .store key w, s => ((), { s with cache := s.cache.put key w s.clock })
  | .invalidate key, s => (s.cache.holds key, { s with cache := s.cache.invalidate key })
  | .keys, s => (s.cache.keys s.clock, s)
  | .values, s => (s.cache.values s.clock, s)
  | .measure m, s => ((), { s with tally := (s.meter.record m s.tally).2 })
  | .stopwatch, s => (s.stopwatch, s)
  | .batch tasks, s => runBatch platform tasks s

end Session

end Steward
