import Steward.Roster.Basic

/-!
# Looking workloads up, creating and deleting them

## Contents

* `Roster.load` — a workload read from the platform;
* `Roster.findById`, `Roster.findByNameAndSpace`, `Roster.findId`, `Roster.appState` — lookups;
* `Roster.create`, `Roster.delete` — changes on the platform.
-/

namespace Steward.Roster

/-! ## Lookups -/

/-- Reads a workload from the platform. -/
def load (r : Roster) (id : String) : Attempt Inquiry Workload := do
  match ← Inquiry.call (.application id) with
  | none => throw (.applicationNotFound id)
  | some record =>
    match ← r.mapper.map record with
    | none => throw (.applicationNotReadable id)
    | some w => return w

/-- What a caller learns from a load: nothing if the application does not exist or is not readable. Faults that
are not the platform's are passed on as such. -/
def loaded : Except Fault Workload → Except Fault (Option Workload)
  | .ok w => .ok (some w)
  | .error f =>
    if f.isNotFound then .ok none else if f.isRemote then .error f else .error (.lookupFailed f)

/-- Reads a workload from the platform and keeps it. -/
def loadAndStore (r : Roster) (id : String) : Attempt Keeping Workload := do
  let w ← Keeping.inquire (r.load id)
  Keeping.ask (.store id w)
  return w

/-- The workload of an identifier: the cached one, or the one that the platform has. -/
def findById (r : Roster) (id : String) : Attempt Keeping (Option Workload) := do
  match ← Keeping.ask (.lookup id) with
  | some w => return some w
  | none =>
    let outcome ← (r.loadAndStore id).settle
    .ofExcept (loaded outcome)

/-- The first record that the platform lists for a name and a space. -/
def findRecord (name space : String) : Attempt Keeping (Option AppRecord) := do
  match ← Keeping.inquire (Inquiry.call (.listing none 1 (some [name]) (some space))) with
  | some ⟨_, _, record :: _⟩ => return some record
  | _ => return none

/-- What a name on the platform stands for. -/
inductive Found where
  | missing
  | unreadable
  | found (w : Workload)

/-- Looks on the platform for a name in a space and keeps the workload. -/
def findRemotely (r : Roster) (name space : String) : Attempt Keeping Found := do
  match ← findRecord name space with
  | none => return .missing
  | some record =>
    match ← Keeping.inquire (r.mapper.map record) with
    | none => return .unreadable
    | some w =>
      Keeping.ask (.store w.id w)
      return .found w

/-- The workload of a name in a space, as the platform has it. -/
def findByNameAndSpace (r : Roster) (name space : String) : Attempt Keeping (Option Workload) := do
  match ← r.findRemotely name space with
  | .missing => return none
  | .unreadable => throw .detailsRefused
  | .found w => return some w

/-- Whether a workload has a name, in any case, and is in a space. -/
def isNamed (name space : String) (w : Workload) : Bool :=
  Text.lower w.name = Text.lower name && w.space.any (·.id = space)

/-- The identifier of a name in a space: that of a cached workload, or that of the platform. -/
def findId (r : Roster) (name space : String) : Attempt Keeping (Option String) := do
  match (← Keeping.ask .values).find? (isNamed name space) with
  | some w => return some w.id
  | none =>
    match ← r.findRemotely name space with
    | .found w => return some w.id
    | .missing | .unreadable => return none

/-- The state of an application's process, or what its run state implies. -/
def appState (id : String) : Attempt Keeping String := do
  match ← Keeping.inquire (Inquiry.call (.processState id)) with
  | some state => return state
  | none =>
    match ← Keeping.inquire (Inquiry.call (.application id)) with
    | none => return "DOWN"
    | some record =>
      match ← .ofExcept (RunState.parse record.state) with
      | .started => return "RUNNING"
      | .stopped => return "DOWN"

/-! ## Changes -/

/-- Creates an application. The workload is not kept: the next cycle finds it. -/
def create (r : Roster) (name : String) (space : Space) (env : Option (List (String × Value)))
    (lifecycle : Option Lifecycle) : Attempt Keeping Workload := do
  match ← Keeping.inquire (Inquiry.call (.createApplication name space.id env lifecycle)) with
  | none => throw .creationUnanswered
  | some record =>
    match ← Keeping.inquire (r.mapper.map record) with
    | none => throw (.creationNotReadable record.guid)
    | some w =>
      Keeping.report .info "Application created"
        [("appId", .text w.id), ("app", .text name), ("spaceId", .text space.id)]
      return w

/-- Deletes an application on the platform, then in the cache. -/
def delete (r : Roster) (id : String) : Attempt Keeping Unit := do
  Keeping.inquire (Inquiry.call (.deleteApplication id))
  Keeping.drop id
  Keeping.report .info "Application deleted" [("appId", .text id), ("account", .text r.account)]

end Steward.Roster
