import Steward.Naming
import Steward.Platform.Inquiry
import Steward.Workload.Application

/-!
# Grouping

Workloads are grouped into clusters by their names, and clusters into applications.

## Contents

* `Placement`, `Names.placement` — where a name puts a workload;
* `Grouping` — clusters under construction, `Grouping.add` — one workload more;
* `Grouping.applications` — the finished view;
* `Grouper.group` — the view of a list of workloads.
-/

namespace Steward

/-- Where a name puts a workload. -/
inductive Placement where
  /-- Nowhere: only names with a sequence token count. -/
  | unmanaged
  /-- Nowhere: the name names no cluster. -/
  | outside
  | within (application cluster : String)
  deriving DecidableEq, Inhabited

/-- Where the parts of a name put a workload. A cluster without an application is an application of its
own. -/
def Names.placement (names : Names) (onlyManaged : Bool) : Placement :=
  if onlyManaged && names.sequence.isNone then .unmanaged
  else
    match names.cluster with
    | none => .outside
    | some cluster =>
      match names.app with
      | none | some "" => .within cluster cluster
      | some app => .within app cluster

/-- Clusters under construction: the workloads of each cluster by identifier, and the clusters of each
application. -/
structure Grouping where
  members : List (String × List (String × Workload))
  clusters : List (String × List String)
  deriving Inhabited

namespace Grouping

/-- No clusters. -/
def empty : Grouping := ⟨[], []⟩

/-- A list with an item at its end, unless it holds the item already. -/
def including (items : List String) (item : String) : List String :=
  if items.contains item then items else items ++ [item]

/-- One workload more. A workload that is given again takes the place of the earlier one. -/
def add (g : Grouping) (application cluster : String) (w : Workload) : Grouping :=
  { members := Keyed.update g.members cluster fun old => Keyed.put (old.getD []) w.id w
    clusters := Keyed.update g.clusters application fun old => including (old.getD []) cluster }

/-- The workloads of a cluster. -/
def serverGroups (g : Grouping) (cluster : String) : List Workload :=
  ((g.members.lookup cluster).getD []).map (·.2)

/-- The finished view. -/
def applications (g : Grouping) (account : String) : List Application :=
  g.clusters.map fun (name, clusters) =>
    { name, clusters := clusters.map fun cluster => ⟨account, cluster, g.serverGroups cluster⟩ }

end Grouping

/-- How the workloads of an account are grouped. -/
structure Grouper where
  account : String
  naming : Resolver
  onlyManaged : Bool

namespace Grouper

/-- Puts workloads where their names say. -/
def gather (grouper : Grouper) : Grouping → List Workload → Attempt Inquiry Grouping
  | g, [] => return g
  | g, w :: rest => do
    let names ← .ofExcept (grouper.naming w.name)
    match names.placement grouper.onlyManaged with
    | .unmanaged =>
      Inquiry.report .debug "Skipping unmanaged application"
        [("app", .text w.name), ("account", .text grouper.account), ("reason", .text "no sequence token")]
      gather grouper g rest
    | .outside =>
      Inquiry.report .debug "Skipping application outside the naming convention"
        [("app", .text w.name), ("account", .text grouper.account)]
      gather grouper g rest
    | .within application cluster => gather grouper (g.add application cluster w) rest

/-- The applications that workloads belong to, in the order in which their names come up. -/
def group (grouper : Grouper) (workloads : List Workload) : Attempt Inquiry (List Application) := do
  let g ← grouper.gather .empty workloads
  return g.applications grouper.account

end Grouper

end Steward
