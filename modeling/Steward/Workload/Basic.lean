import Steward.Fault

/-!
# Workloads

The library's view of one application that is deployed on the platform: what it is, where it runs, what was
staged for it and which replicas of it run.

## Contents

* `RunState`, `Health` — the state of a workload and of a replica;
* `Organization`, `Space` — where a workload belongs;
* `Replica`, `Droplet`, `Binding`, `BuildInfo`, `ArtifactInfo` — the parts of a workload;
* `Workload` — the view; `Workload.checked` — its consistency rule;
* `Workload.withHealth` — the view with another run state and other replicas;
* `Workload.assign`, `Workload.assignVariable` — the view does not change in place.
-/

namespace Steward

/-- Whether a workload is meant to run. -/
inductive RunState where
  | started
  | stopped
  deriving DecidableEq, Inhabited

/-- The health of a replica. -/
inductive Health where
  | up
  | down
  | starting
  | unknown
  deriving DecidableEq, Inhabited

/-- An organization, which holds spaces. -/
structure Organization where
  id : String
  name : Option String
  deriving DecidableEq, Inhabited

/-- A space, in which workloads are placed. -/
structure Space where
  id : String
  name : Option String
  organization : Option Organization
  deriving DecidableEq, Inhabited

/-- One running copy of a workload. -/
structure Replica where
  /-- The workload that it is a copy of. -/
  app : String
  /-- The index of the copy. -/
  key : String
  health : Health
  /-- The start of the copy, in milliseconds since 1970. -/
  launchTime : Int
  details : Option String
  zone : Option String
  deriving DecidableEq, Inhabited

/-- What prepared a droplet for a kind of program. -/
structure Buildpack where
  name : Option String
  buildpackName : Option String
  detectOutput : Option String
  version : Option String
  deriving DecidableEq, Inhabited

/-- Where the bits of a droplet came from. -/
structure SourcePackage where
  downloadUrl : Option String
  checksumType : Option String
  checksum : Option String
  deriving DecidableEq, Inhabited

/-- A staged artifact that can be run. -/
structure Droplet where
  id : String
  name : String
  stack : Option String
  buildpacks : List Buildpack
  space : Option Space
  sourcePackage : Option SourcePackage
  deriving DecidableEq, Inhabited

/-- A service that a workload is bound to. -/
structure Binding where
  service : String
  name : Option String
  plan : Option String
  tags : List String
  status : Option String
  lastOperation : Option String
  deriving DecidableEq, Inhabited

/-- The build that a workload came from. -/
structure BuildInfo where
  jobName : Option String
  jobNumber : Option String
  jobUrl : Option String
  deriving DecidableEq, Inhabited

/-- The artifact that a workload was built as. -/
structure ArtifactInfo where
  name : Option String
  version : Option String
  url : Option String
  deriving DecidableEq, Inhabited

/-- The view of one deployed application. -/
structure Workload where
  id : String
  name : String
  account : String
  space : Option Space
  state : RunState
  /-- The memory quota in megabytes. -/
  memory : Option Int
  /-- The disk quota in megabytes. -/
  diskQuota : Option Int
  /-- The time of creation, in milliseconds since 1970. -/
  createdTime : Int
  /-- The time of the last change, in milliseconds since 1970. -/
  updatedTime : Int
  healthCheckType : Option String
  healthCheckEndpoint : Option String
  bindings : List Binding
  env : List (String × Value)
  build : BuildInfo
  artifact : ArtifactInfo
  pipelineId : Option String
  droplet : Option Droplet
  replicas : List Replica
  appsManagerUri : Option String
  metricsUri : Option String
  deriving Inhabited

namespace Workload

/-- The title of workload records. -/
def title : String := "WorkloadEntity"

/-- The rule that only a started workload has replicas. -/
def checked (w : Workload) : Reading Workload :=
  if w.replicas.isEmpty || w.state = .started then .accepted w
  else .complain (.rule "instances must be empty unless the application is STARTED")

/-- The name of the space, in which replicas are placed. -/
def region (w : Workload) : Option String :=
  w.space.bind (·.name)

/-- The workload with another run state and other replicas, as long as they agree. -/
def withHealth (w : Workload) (state : RunState) (replicas : List Replica) : Except Fault Workload :=
  match ({ w with state, replicas } : Workload).checked with
  | .accepted w => .ok w
  | .refused problems => .error (.invalid title problems)

/-- Assigning a field is refused: a workload is replaced, not changed. -/
def assign (_ : Workload) (field : String) : Except Fault Workload :=
  .error (.invalid title [⟨[.key field], .frozen⟩])

/-- Assigning a variable of the environment, or a part of one, is refused as well. -/
def assignVariable (_ : Workload) (_ : List Segment) : Except Fault Workload :=
  .error .immutable

end Workload

end Steward
