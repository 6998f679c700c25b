import Steward.Roster.Basic

/-!
# Reconciling the roster with a listing

A cycle runs in three steps: workloads that are not listed any more are evicted; those that are missing or out
of date are put together again; the health of every listed workload is read anew. The work of a step is handed
to the pool as one batch and committed once all of it is done, in the order of the listing. What fails for
one workload is reported and leaves that workload as it was. Only a pool that fails ends a cycle early, and then
nothing of that step is committed. A worker that comes to no end aborts the cycle, and so does a submission that is
rejected because the pool takes no more work; whatever else a submission is rejected with is passed on.

## Contents

* `Refresh` — what a cycle did;
* `evict`, `staleOf` — what has gone, and what is out of date;
* `Roster.remapTask`, `evaluateTask` — the work for one workload;
* `rejection`, `fanOut` — a batch of work;
* `commitRemapped`, `commitEvaluated` — the results of a batch, kept;
* `Roster.refresh` — a cycle; `Roster.all` — a listing, a cycle, and the view of what is cached.
-/

namespace Steward

/-- What a cycle did, by identifier. -/
structure Refresh where
  evicted : List String
  remapped : List String
  skipped : List String
  evaluated : List String
  deriving DecidableEq, Inhabited

namespace Roster

/-! ## Eviction -/

/-- Drops workloads one by one. -/
def dropAll : List String → Attempt Keeping Unit
  | [] => return ()
  | key :: rest => do
    Keeping.report .debug "Evicting application" [("appId", .text key)]
    Keeping.drop key
    dropAll rest

/-- Drops the workloads that are not listed, and says which. -/
def evict (listing : List AppRecord) : Attempt Keeping (List String) := do
  let gone := (← Keeping.ask .keys).filter fun key => !listing.any (·.guid = key)
  dropAll gone
  return gone

/-! ## Staleness -/

/-- Whether a record has no workload, or one of another time. -/
def isStale (record : AppRecord) : Attempt Keeping Bool := do
  match ← Keeping.ask (.lookup record.guid) with
  | none =>
    Keeping.report .debug "Application not cached" [("app", .text record.name)]
    return true
  | some w =>
    let millis ← .ofExcept record.updatedMillis
    if w.updatedTime = millis then return false
    else
      Keeping.report .debug "Cached application is out of date" [("app", .text record.name)]
      return true

/-- The records that have no workload, or one of another time. -/
def staleOf : List AppRecord → Attempt Keeping (List AppRecord)
  | [] => return []
  | record :: rest => do
    let stale ← isStale record
    let others ← staleOf rest
    return if stale then record :: others else others

/-! ## Work for one workload -/

/-- The workload that work came to; a fault is reported and comes to nothing. -/
def orNothing (text : String) (record : AppRecord) (p : Attempt Errand (Option Workload)) : Task := do
  match ← p.outcome with
  | .ok w => return w
  | .error f =>
    let reported ← (Errand.inquire (Inquiry.report .warning text
      [("appId", .text record.guid), ("app", .text record.name), ("error", .text f.message)])).outcome
    match reported with
    | .ok () | .error _ => return none

/-- Puts a workload together again. -/
def remapTask (r : Roster) (record : AppRecord) : Task :=
  orNothing "Failed to map application" record (Errand.inquire (r.mapper.map record))

/-- Reads the health of a cached workload anew. -/
def evaluateTask (record : AppRecord) : Task := do
  match ← Errand.lookup record.guid with
  | none => return none
  | some w =>
    orNothing "Failed to evaluate health" record (Errand.inquire (some <$> w.evaluate record))

/-! ## Batches -/

/-- What the tasks of a batch came to; the first that came to no end stands for all. -/
def resultsOf : List (Except Fault (Option Workload)) → Except Fault (List (Option Workload))
  | [] => .ok []
  | .ok w :: rest => (resultsOf rest).map (w :: ·)
  | .error f :: _ => .error (.workerFailed f)

/-- What is made of the fault of a rejected submission. Only one that tells that the pool cannot go on is taken for
its failure. -/
def rejection (f : Fault) : Fault :=
  if f.isRuntime then .poolRejected f else f

/-- Hands a batch of work to the pool and waits for all of it. -/
def fanOut (tasks : List Task) : Attempt Keeping (List (Option Workload)) := do
  match ← Keeping.ask (.batch tasks) with
  | .error f => throw (rejection f)
  | .ok outcomes => .ofExcept (resultsOf outcomes)

/-! ## Commits -/

/-- Keeps the workloads that were put together again. Says which they are, and which records came to none. -/
def commitRemapped : List (AppRecord × Option Workload) → Attempt Keeping (List String × List String)
  | [] => return ([], [])
  | (record, none) :: rest => do
    let (remapped, skipped) ← commitRemapped rest
    return (remapped, record.guid :: skipped)
  | (_, some w) :: rest => do
    Keeping.ask (.store w.id w)
    let (remapped, skipped) ← commitRemapped rest
    return (w.id :: remapped, skipped)

/-- Keeps the workloads whose health was read. Says which they are. -/
def commitEvaluated : List (Option Workload) → Attempt Keeping (List String)
  | [] => return []
  | none :: rest => commitEvaluated rest
  | some w :: rest => do
    Keeping.ask (.store w.id w)
    let evaluated ← commitEvaluated rest
    return w.id :: evaluated

/-! ## The cycle -/

/-- The step that puts workloads together again. -/
def remap (r : Roster) (stale : List AppRecord) : Attempt Keeping (List String × List String) := do
  let mapped ← fanOut (stale.map r.remapTask)
  let (remapped, skipped) ← commitRemapped (stale.zip mapped)
  Keeping.ask (.measure (.remapped (.whole remapped.length)))
  Keeping.ask (.measure (.skipped "remap" (.whole skipped.length)))
  return (remapped, skipped)

/-- The step that reads health anew. -/
def evaluateAll (listing : List AppRecord) : Attempt Keeping (List String) := do
  let results ← fanOut (listing.map evaluateTask)
  let evaluated ← commitEvaluated results
  Keeping.ask (.measure (.skipped "health" (.whole (results.length - evaluated.length : Nat))))
  return evaluated

/-- The steps that need the pool. -/
def pooledSteps (r : Roster) (listing stale : List AppRecord) :
    Attempt Keeping ((List String × List String) × List String) := do
  let changes ← r.remap stale
  let evaluated ← evaluateAll listing
  return (changes, evaluated)

/-- A cycle, without the fields bound around it. -/
def refreshUnbound (r : Roster) (listing : List AppRecord) : Attempt Keeping Refresh := do
  let began ← Keeping.ask .stopwatch
  let evicted ← evict listing
  Keeping.ask (.measure (.evicted (.whole evicted.length)))
  Keeping.report .debug "Evicted applications no longer on the platform" [("count", .int evicted.length)]
  let stale ← staleOf listing
  match ← (r.pooledSteps listing stale).settle with
  | .error f =>
    if f.isAbort then
      let ended ← Keeping.ask .stopwatch
      Keeping.ask (.measure (.cycle "aborted" (ended - began)))
      throw f
    else throw f
  | .ok ((remapped, skipped), evaluated) =>
    let ended ← Keeping.ask .stopwatch
    Keeping.ask (.measure (.cycle "success" (ended - began)))
    Keeping.report .info "Refreshed applications"
      [("listed", .int listing.length), ("evicted", .int evicted.length), ("remapped", .int remapped.length),
       ("skipped", .int skipped.length)]
    return { evicted, remapped, skipped, evaluated }

/-- A cycle: the cache is reconciled with a complete listing. Its events name the account. -/
def refresh (r : Roster) (listing : List AppRecord) : Attempt Keeping Refresh :=
  Keeping.under (correlation (some r.account) none) (r.refreshUnbound listing)

/-- The filter for some spaces; none of them means all. -/
def spaceFilter : Option (List String) → Option String
  | none | some [] => none
  | some ids => some (",".intercalate ids)

/-- Lists all applications, reconciles the cache and groups what is cached. -/
def all (r : Roster) (spaces : Option (List String)) : Attempt Keeping (List Application) := do
  Keeping.report .debug "Listing all applications" [("account", .text r.account)]
  let filter := spaceFilter spaces
  let listing ← collectPages Keeping.report "applications" fun page =>
    Keeping.inquire (Inquiry.call (.listing (some page) r.pageSize none filter))
  Keeping.report .debug "Fetched applications"
    [("account", .text r.account), ("count", .int listing.length)]
  let _ ← r.refresh listing
  let workloads ← Keeping.ask .values
  Keeping.inquire (r.grouper.group workloads)

end Roster

end Steward
