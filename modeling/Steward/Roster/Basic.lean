import Steward.Event.Context
import Steward.Grouping
import Steward.Listing
import Steward.Mapping
import Steward.Measure

/-!
# The roster of an account

The roster keeps the workloads of one account in a cache. It is written as programs over an interface of its
own, which adds to inquiries what a roster does with its cache, its pool of workers and its counters.

## Contents

* `Errand` — what a worker may do: inquire, and look a workload up;
* `Keeping` — what the roster itself may do;
* `Keeping.under` — the events of a program with fields bound around them;
* `Roster` — what is fixed for an account.
-/

namespace Steward

/-! ## Errands -/

/-- What a worker may request. -/
inductive Errand.Request where
  | inquiry (r : Inquiry.Request)
  | lookup (key : String)

/-- What is replied to a worker. -/
abbrev Errand.Reply : Errand.Request → Type
  | .inquiry r => Inquiry.Reply r
  | .lookup _ => Option Workload

/-- The interface of workers. -/
abbrev Errand : Interface := ⟨Errand.Request, Errand.Reply⟩

namespace Errand

/-- An inquiry as a worker's program. -/
def inquire (p : Attempt Inquiry α) : Attempt Errand α :=
  p.lift fun r => Program.request (I := Errand) (Errand.Request.inquiry r)

/-- Looks a workload up, which counts as reading it. -/
def lookup (key : String) : Program Errand (Option Workload) :=
  Program.request (I := Errand) (Errand.Request.lookup key)

/-- A worker's request, with fields bound around its event. -/
def requestUnder (fields : List (String × Value)) : (r : Errand.Request) → Program Errand (Errand.Reply r)
  | .inquiry (.report e) => Program.request (I := Errand) (Errand.Request.inquiry (.report (e.within fields)))
  | r => Program.request (I := Errand) r

/-- A worker's program with fields bound around its events. -/
def under (fields : List (String × Value)) (p : Program Errand α) : Program Errand α :=
  p.lift (J := Errand) (requestUnder fields)

end Errand

/-- Work for the pool. It comes to a workload or to nothing. -/
abbrev Task := Program Errand (Option Workload)

/-! ## Keeping a roster -/

/-- What the keeper of a roster may request. -/
inductive Keeping.Request where
  | inquiry (r : Inquiry.Request)
  | lookup (key : String)
  | store (key : String) (w : Workload)
  | invalidate (key : String)
  | keys
  | values
  | measure (m : Measure)
  | stopwatch
  | batch (tasks : List Task)

/-- What is replied to a keeper: whether there was an entry to invalidate; for a batch of work why the pool
rejected a part of it, or what became of each task. -/
abbrev Keeping.Reply : Keeping.Request → Type
  | .inquiry r => Inquiry.Reply r
  | .lookup _ => Option Workload
  | .store _ _ => Unit
  | .invalidate _ => Bool
  | .keys => List String
  | .values => List Workload
  | .measure _ => Unit
  | .stopwatch => Number
  | .batch _ => Except Fault (List (Except Fault (Option Workload)))

/-- The interface of keepers. -/
abbrev Keeping : Interface := ⟨Keeping.Request, Keeping.Reply⟩

namespace Keeping

/-- A single request. -/
def ask (r : Keeping.Request) : Attempt Keeping (Keeping.Reply r) :=
  .ofProgram (Program.request (I := Keeping) r)

/-- An inquiry as a keeper's program. -/
def inquire (p : Attempt Inquiry α) : Attempt Keeping α :=
  p.lift fun r => Program.request (I := Keeping) (Keeping.Request.inquiry r)

/-- Reports an event. -/
def report : Reporter Keeping :=
  fun level text fields => inquire (Inquiry.report level text fields)

/-- A keeper's request, with fields bound around its event and those of its workers. -/
def requestUnder (fields : List (String × Value)) : (r : Keeping.Request) → Program Keeping (Keeping.Reply r)
  | .inquiry (.report e) =>
    Program.request (I := Keeping) (Keeping.Request.inquiry (.report (e.within fields)))
  | .batch tasks => Program.request (I := Keeping) (Keeping.Request.batch (tasks.map (Errand.under fields)))
  | r => Program.request (I := Keeping) r

/-- A keeper's program with fields bound around its events, those of its workers among them. -/
def under (fields : List (String × Value)) (p : Attempt Keeping α) : Attempt Keeping α :=
  p.lift (I := Keeping) (J := Keeping) (requestUnder fields)

/-- Drops a workload from the cache. -/
def drop (key : String) : Attempt Keeping Unit := do
  if ← ask (.invalidate key) then report .debug "Invalidated cache entry" [("key", .text key)]

end Keeping

/-! ## Rosters -/

/-- What is fixed for the roster of an account. -/
structure Roster where
  mapper : Mapper
  naming : Resolver
  onlyManaged : Bool
  pageSize : Int

namespace Roster

/-- The account. -/
def account (r : Roster) : String :=
  r.mapper.account

/-- How the account's workloads are grouped. -/
def grouper (r : Roster) : Grouper :=
  ⟨r.account, r.naming, r.onlyManaged⟩

end Roster

end Steward
