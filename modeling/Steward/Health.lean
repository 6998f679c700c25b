import Steward.Platform.Inquiry
import Steward.Workload.Schema
import Steward.Text.Case

/-!
# Health of workloads

The run state of a workload is the one that the platform lists; its replicas are read from the platform's
instance reports. A failed read of the reports leaves a workload without replicas, it never fails the whole.

## Contents

* `Health.ofInstanceState`, `RunState.ofWord`, `RunState.parse` — the words of the platform;
* `Replica.ordered` — the order of replicas;
* `Workload.replicasAt` — the replicas that instance reports speak of;
* `Workload.evaluate` — a workload with its state and replicas read again.
-/

namespace Steward

/-- What the words for an instance's state say about its health. -/
def Health.ofWord : List (String × Health) :=
  [("RUNNING", .up), ("DOWN", .down), ("CRASHED", .down), ("STARTING", .starting)]

/-- The health of an instance in some state, in any case. Of a state with no known word, or of none, nothing
is known. -/
def Health.ofInstanceState (state : Option String) : Health :=
  (Health.ofWord.lookup (Text.upper (state.getD ""))).getD .unknown

/-- The run state that a word names, spelt exactly. -/
def RunState.ofWord (word : String) : Except Fault RunState :=
  match RunState.members.lookup word with
  | some state => .ok state
  | none => .error (.unknownRunState word)

/-- The run state that a word names, in any case. -/
def RunState.parse (word : String) : Except Fault RunState :=
  RunState.ofWord (Text.upper word)

/-- Whether one key stands before another, or they are equal: shorter keys first, keys of one length by their
characters. -/
def Replica.keyAtMost (a b : String) : Bool :=
  a.length < b.length || (a.length = b.length && !(b < a))

/-- Replicas in the order of their keys. -/
def Replica.ordered (replicas : List Replica) : List Replica :=
  replicas.mergeSort fun a b => Replica.keyAtMost a.key b.key

namespace Workload

/-- The replicas that instance reports speak of, at a time in milliseconds since 1970. -/
def replicasAt (w : Workload) (millis : Int) (reports : Keyed.Map String InstanceReport) : List Replica :=
  Replica.ordered <| reports.entries.map fun (key, report) =>
    { app := w.id
      key
      health := Health.ofInstanceState (some report.state)
      launchTime := millis - report.uptime * 1000
      details := report.details
      zone := w.region }

/-- The wall clock in milliseconds since 1970. -/
def nowMillis : Attempt Inquiry Int := do
  match Number.millis? (← Inquiry.now) with
  | .ok millis => return millis
  | .error .undefined => throw .clockUndefined
  | .error .infinite => throw .clockInfinite

/-- Reads the replicas of a started workload. -/
def readReplicas (w : Workload) : Attempt Inquiry (List Replica) := do
  let reports ← Inquiry.call (.instances w.id)
  let millis ← nowMillis
  return w.replicasAt millis (reports.getD default)

/-- The replicas of a started workload, or none if they cannot be read. -/
def replicasOrNone (w : Workload) (record : AppRecord) : Attempt Inquiry (List Replica) := do
  match ← w.readReplicas.settle with
  | .ok replicas =>
    Inquiry.report .debug "Retrieved instances"
      [("appId", .text w.id), ("app", .text record.name), ("count", .int replicas.length)]
    return replicas
  | .error f =>
    Inquiry.report .debug "Unable to retrieve instances"
      [("appId", .text w.id), ("app", .text record.name), ("error", .text f.message)]
    return []

/-- The workload with the run state of a record and the replicas that run now. -/
def evaluate (w : Workload) (record : AppRecord) : Attempt Inquiry Workload := do
  let state ← .ofExcept (RunState.parse record.state)
  let replicas ← match state with
    | .started => w.replicasOrNone record
    | .stopped => pure []
  .ofExcept (w.withHealth state replicas)

end Workload

end Steward
