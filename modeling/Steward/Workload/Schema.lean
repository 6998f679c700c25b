import Steward.Workload.Basic
import Steward.Reading.Schema
import Steward.Reading.Scalar

/-!
# Documents of workloads

How workloads and their parts are read and written.

## Contents

* `RunState.members`, `Health.members` — the words for states;
* one schema for each kind of record.
-/

namespace Steward

/-- The words for run states. -/
def RunState.members : List (String × RunState) :=
  [("STARTED", .started), ("STOPPED", .stopped)]

/-- The word for a run state. -/
def RunState.word : RunState → String
  | started => "STARTED"
  | stopped => "STOPPED"

/-- The words for health. -/
def Health.members : List (String × Health) :=
  [("Up", .up), ("Down", .down), ("Starting", .starting), ("Unknown", .unknown)]

/-- The word for health. -/
def Health.word : Health → String
  | up => "Up"
  | down => "Down"
  | starting => "Starting"
  | unknown => "Unknown"

/-- Organizations. -/
def Organization.schema : Schema Organization where
  title := "Organization"
  read := record fun es => Organization.mk <$> required es "id" text <*> perhaps es "name" text
  write o := .map [("id", .text o.id), ("name", .ofText? o.name)]

/-- Spaces. -/
def Space.schema : Schema Space where
  title := "Space"
  read := record fun es =>
    Space.mk <$> required es "id" text <*> perhaps es "name" text
      <*> perhaps es "organization" Organization.schema.read
  write s := .map [("id", .text s.id), ("name", .ofText? s.name),
    ("organization", .ofRecord? Organization.schema.write s.organization)]

/-- Replicas. -/
def Replica.schema : Schema Replica where
  title := "InstanceRecord"
  read := record fun es =>
    Replica.mk <$> required es "app_id" text <*> required es "key" text
      <*> optional es "health_state" (enumeration Health.members) .unknown
      <*> required es "launch_time" integer <*> perhaps es "details" text <*> perhaps es "zone" text
  write r := .map [("app_id", .text r.app), ("key", .text r.key), ("health_state", .text r.health.word),
    ("launch_time", .int r.launchTime), ("details", .ofText? r.details), ("zone", .ofText? r.zone)]

/-- Buildpacks of a droplet. -/
def Buildpack.schema : Schema Buildpack where
  title := "Buildpack"
  read := record fun es =>
    Buildpack.mk <$> perhaps es "name" text <*> perhaps es "buildpack_name" text
      <*> perhaps es "detect_output" text <*> perhaps es "version" text
  write b := .map [("name", .ofText? b.name), ("buildpack_name", .ofText? b.buildpackName),
    ("detect_output", .ofText? b.detectOutput), ("version", .ofText? b.version)]

/-- Source packages of a droplet. -/
def SourcePackage.schema : Schema SourcePackage where
  title := "SourcePackage"
  read := record fun es =>
    SourcePackage.mk <$> perhaps es "download_url" text <*> perhaps es "checksum_type" text
      <*> perhaps es "checksum" text
  write p := .map [("download_url", .ofText? p.downloadUrl), ("checksum_type", .ofText? p.checksumType),
    ("checksum", .ofText? p.checksum)]

/-- Droplets. -/
def Droplet.schema : Schema Droplet where
  title := "DropletRef"
  read := record fun es =>
    Droplet.mk <$> required es "id" text <*> required es "name" text <*> perhaps es "stack" text
      <*> optional es "buildpacks" (tupleOf Buildpack.schema.read) []
      <*> perhaps es "space" Space.schema.read <*> perhaps es "source_package" SourcePackage.schema.read
  write d := .map [("id", .text d.id), ("name", .text d.name), ("stack", .ofText? d.stack),
    ("buildpacks", .ofList Buildpack.schema.write d.buildpacks),
    ("space", .ofRecord? Space.schema.write d.space),
    ("source_package", .ofRecord? SourcePackage.schema.write d.sourcePackage)]

/-- Service bindings. -/
def Binding.schema : Schema Binding where
  title := "ServiceBinding"
  read := record fun es =>
    Binding.mk <$> required es "service_name" text <*> perhaps es "name" text <*> perhaps es "plan" text
      <*> optional es "tags" (tupleOf text) [] <*> perhaps es "status" text
      <*> perhaps es "last_operation_description" text
  write b := .map [("service_name", .text b.service), ("name", .ofText? b.name), ("plan", .ofText? b.plan),
    ("tags", .ofList .text b.tags), ("status", .ofText? b.status),
    ("last_operation_description", .ofText? b.lastOperation)]

/-- Builds. -/
def BuildInfo.schema : Schema BuildInfo where
  title := "BuildInfo"
  read := record fun es =>
    BuildInfo.mk <$> perhaps es "job_name" text <*> perhaps es "job_number" text <*> perhaps es "job_url" text
  write b := .map [("job_name", .ofText? b.jobName), ("job_number", .ofText? b.jobNumber),
    ("job_url", .ofText? b.jobUrl)]

/-- Artifacts. -/
def ArtifactInfo.schema : Schema ArtifactInfo where
  title := "ArtifactInfo"
  read := record fun es =>
    ArtifactInfo.mk <$> perhaps es "name" text <*> perhaps es "version" text <*> perhaps es "url" text
  write a := .map [("name", .ofText? a.name), ("version", .ofText? a.version), ("url", .ofText? a.url)]

/-- Workloads. The consistency rule is asked once all fields are read. -/
def Workload.schema : Schema Workload where
  title := Workload.title
  read := record fun es =>
    (Workload.mk <$> required es "id" text <*> required es "name" text <*> required es "account" text
      <*> perhaps es "space" Space.schema.read
      <*> optional es "state" (enumeration RunState.members) .stopped
      <*> perhaps es "memory" integer <*> perhaps es "disk_quota" integer
      <*> required es "created_time" integer <*> required es "updated_time" integer
      <*> perhaps es "health_check_type" text <*> perhaps es "health_check_http_endpoint" text
      <*> optional es "service_bindings" (tupleOf Binding.schema.read) []
      <*> optional es "env" (mapOf anything) []
      <*> optional es "ci_build" BuildInfo.schema.read ⟨none, none, none⟩
      <*> optional es "app_artifact" ArtifactInfo.schema.read ⟨none, none, none⟩
      <*> perhaps es "pipeline_id" text <*> perhaps es "droplet" Droplet.schema.read
      <*> optional es "instances" (tupleOf Replica.schema.read) []
      <*> perhaps es "apps_manager_uri" text <*> perhaps es "metrics_uri" text).check Workload.checked
  write w := .map [("id", .text w.id), ("name", .text w.name), ("account", .text w.account),
    ("space", .ofRecord? Space.schema.write w.space), ("state", .text w.state.word),
    ("memory", .ofInteger? w.memory), ("disk_quota", .ofInteger? w.diskQuota),
    ("created_time", .int w.createdTime), ("updated_time", .int w.updatedTime),
    ("health_check_type", .ofText? w.healthCheckType),
    ("health_check_http_endpoint", .ofText? w.healthCheckEndpoint),
    ("service_bindings", .ofList Binding.schema.write w.bindings), ("env", .map w.env),
    ("ci_build", BuildInfo.schema.write w.build), ("app_artifact", ArtifactInfo.schema.write w.artifact),
    ("pipeline_id", .ofText? w.pipelineId), ("droplet", .ofRecord? Droplet.schema.write w.droplet),
    ("instances", .ofList Replica.schema.write w.replicas),
    ("apps_manager_uri", .ofText? w.appsManagerUri), ("metrics_uri", .ofText? w.metricsUri)]

end Steward
