import Steward.Health
import Steward.Workload.Provenance

/-!
# From records to workloads

A workload is put together from the record that the platform lists and from five reads that belong to it.
The reads are independent: a failed one leaves out what it would have told. Two of them decide more: a refused
read of the environment means that the application is not ours to see, and a failed read of the space or the
process fails the whole.

## Contents

* `Mapper` — what every workload of an account shares;
* `environmentOf`, `dropletOf` — the reads that may fail;
* `bindingsOf`, `Mapper.appsManagerOf`, `Mapper.metricsOf` — what is derived;
* `Mapper.assemble` — the workload, once everything is read;
* `Mapper.map` — from a record to a workload, or to nothing if it has to be skipped.
-/

namespace Steward

/-- What every workload of an account shares. -/
structure Mapper where
  account : String
  appsManagerUri : Option String
  metricsUri : Option String
  deriving DecidableEq, Inhabited

/-- What was read for a record. -/
structure Findings where
  state : RunState
  space : Option Space
  environment : Option Environment
  process : Option ProcessInfo
  droplet : Option Droplet
  deriving Inhabited

/-- The space of a record, if the record names one. -/
def spaceOf (record : AppRecord) : Attempt Inquiry (Option Space) :=
  match record.spaceGuid with
  | none | some "" => return none
  | some id => Inquiry.call (.space id)

/-- What became of the read of an environment. -/
inductive EnvironmentRead where
  | read (environment : Option Environment)
  | refused

/-- The environment of a record. Only a refusal stands out; after another failure there is none. -/
def environmentOf (record : AppRecord) : Attempt Inquiry EnvironmentRead := do
  match ← (Inquiry.call (.environment record.guid)).settle with
  | .ok environment => return .read environment
  | .error f =>
    if f.isRefusal then
      Inquiry.report .debug "Not authorized to read environment, skipping"
        [("appId", .text record.guid), ("app", .text record.name)]
      return .refused
    else
      Inquiry.report .debug "Unable to read environment"
        [("appId", .text record.guid), ("app", .text record.name), ("error", .text f.message)]
      return .read none

/-- The source package that the first package of a listing tells of. -/
def sourceOf (packages : Option (Page Package)) : Option SourcePackage :=
  match packages with
  | some ⟨_, _, p :: _⟩ =>
    some
      { downloadUrl := (p.links.find? "download").bind (·.href)
        checksumType := p.data.checksum.bind (·.type)
        checksum := p.data.checksum.bind (·.value) }
  | _ => none

/-- The droplet of a record, once it is read. -/
def dropletFrom (record : AppRecord) (space : Option Space) (packages : Option (Page Package))
    (droplet : DropletRecord) : Droplet :=
  { id := droplet.guid
    name := record.name ++ "-droplet"
    stack := droplet.stack
    buildpacks := (droplet.buildpacks.getD []).map fun b =>
      ⟨b.name, b.buildpackName, b.detectOutput, b.version⟩
    space
    sourcePackage := sourceOf packages }

/-- Reads the packages and the droplet of a record. -/
def readDroplet (record : AppRecord) (space : Option Space) : Attempt Inquiry (Option Droplet) := do
  let packages ← Inquiry.call (.packages record.guid)
  let droplet ← Inquiry.call (.droplet (some record.guid))
  return droplet.map (dropletFrom record space packages)

/-- The droplet of a record; none if it cannot be read. -/
def dropletOf (record : AppRecord) (space : Option Space) : Attempt Inquiry (Option Droplet) := do
  match ← (readDroplet record space).settle with
  | .ok droplet => return droplet
  | .error f =>
    Inquiry.report .debug "Unable to retrieve droplet"
      [("appId", .text record.guid), ("app", .text record.name), ("error", .text f.message)]
    return none

/-- The binding to one instance of a service. What was last done to it is told only if its state is known. -/
def bindingOf (service : String) (s : ServiceInstance) : Binding :=
  let status := s.lastOperation.bind (·.state)
  { service
    name := s.name
    plan := s.plan
    tags := s.tags
    status
    lastOperation := if status.isSome then s.lastOperation.bind (·.description) else none }

/-- The bindings of an environment: its services in order, and the instances of each. -/
def bindingsOf (environment : Option Environment) : List Binding :=
  match environment with
  | none => []
  | some e => e.system.services.flatMap fun (service, instances) => instances.map (bindingOf service)

/-- The variables of an environment. -/
def variablesOf (environment : Option Environment) : List (String × Value) :=
  (environment.bind (·.vars)).getD []

namespace Mapper

/-- Where an application is managed: the address is empty if it is not known where the application is. -/
def appsManagerOf (m : Mapper) (id : String) (space : Option Space) : Option String :=
  match m.appsManagerUri with
  | none => none
  | some "" => some ""
  | some base =>
    match space with
    | some ⟨space, _, some organization⟩ =>
      some (base ++ "/organizations/" ++ organization.id ++ "/spaces/" ++ space ++ "/applications/" ++ id)
    | _ => some ""

/-- Where an application is measured. -/
def metricsOf (m : Mapper) (id : String) : Option String :=
  match m.metricsUri with
  | none => none
  | some "" => some ""
  | some base => some (base ++ "/apps/" ++ id)

/-- The workload that a record and the findings for it make. It has no replicas yet. -/
def assemble (m : Mapper) (record : AppRecord) (found : Findings) : Except Fault Workload := do
  let createdTime ← record.createdMillis
  let updatedTime ← record.updatedMillis
  let env := variablesOf found.environment
  let build ← BuildInfo.ofVariables env
  let artifact ← ArtifactInfo.ofVariables env
  let pipelineId ← Provenance.pipelineId.read env
  let check := found.process.bind (·.healthCheck)
  return {
    id := record.guid
    name := record.name
    account := m.account
    space := found.space
    state := found.state
    memory := found.process.bind (·.memory)
    diskQuota := found.process.bind (·.disk)
    createdTime
    updatedTime
    healthCheckType := check.bind (·.type)
    healthCheckEndpoint := (check.bind (·.data)).bind (·.endpoint)
    bindings := bindingsOf found.environment
    env
    build
    artifact
    pipelineId
    droplet := found.droplet
    replicas := []
    appsManagerUri := m.appsManagerOf record.guid found.space
    metricsUri := m.metricsOf record.guid }

/-- The workload of a record with its replicas; nothing if its environment is refused. -/
def map (m : Mapper) (record : AppRecord) : Attempt Inquiry (Option Workload) := do
  let state ← .ofExcept (RunState.parse record.state)
  let space ← spaceOf record
  match ← environmentOf record with
  | .refused => return none
  | .read environment =>
    let process ← Inquiry.call (.process record.guid)
    let droplet ← dropletOf record space
    let workload ← .ofExcept (m.assemble record { state, space, environment, process, droplet })
    return some (← workload.evaluate record)

end Mapper

end Steward
