import Steward.Workload.Schema

/-!
# Applications

Workloads by name: an application has clusters, and a cluster has the workloads that are its successive
server groups.

## Contents

* `Cluster`, `Application` — the two levels, and their schemas.
-/

namespace Steward

/-- The workloads that share a name up to its sequence number. -/
structure Cluster where
  account : String
  name : String
  serverGroups : List Workload
  deriving Inhabited

/-- The clusters that belong to one application. -/
structure Application where
  name : String
  clusters : List Cluster
  deriving Inhabited

/-- Clusters. -/
def Cluster.schema : Schema Cluster where
  title := "ClusterView"
  read := record fun es =>
    Cluster.mk <$> required es "account" text <*> required es "name" text
      <*> optional es "server_groups" (tupleOf Workload.schema.read) []
  write c := .map [("account", .text c.account), ("name", .text c.name),
    ("server_groups", .ofList Workload.schema.write c.serverGroups)]

/-- Applications. -/
def Application.schema : Schema Application where
  title := "ApplicationView"
  read := record fun es =>
    Application.mk <$> required es "name" text <*> optional es "clusters" (tupleOf Cluster.schema.read) []
  write a := .map [("name", .text a.name), ("clusters", .ofList Cluster.schema.write a.clusters)]

end Steward
