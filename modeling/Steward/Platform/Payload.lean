import Steward.Reading.Schema
import Steward.Reading.Moment

/-!
# Payloads of the platform

The documents that the platform answers with, and how they are read.

## Contents

* `Link`, `AppRecord` — an application as the platform lists it, `AppRecord.createdMillis`,
  `AppRecord.updatedMillis` — its times;
* `Environment`, `ProcessInfo`, `Package`, `DropletRecord`, `InstanceReport` — what belongs to an application;
* `Build`, `Lifecycle` — builds, and how an application is to be built;
* `Page` — one page of a listing.
-/

namespace Steward

/-! ## Applications -/

/-- A reference to another resource. -/
structure Link where
  href : Option String
  guid : Option String
  deriving DecidableEq, Inhabited

/-- References. -/
def Link.schema : Schema Link where
  title := "Link"
  read := record fun es => Link.mk <$> perhaps es "href" text <*> perhaps es "guid" text
  write l := .map [("href", .ofText? l.href), ("guid", .ofText? l.guid)]

/-- The references of a resource, by name. -/
abbrev Links := List (String × Link)

/-- A reference by name. -/
def Links.find? (links : Links) (name : String) : Option Link :=
  List.lookup name links

/-- The field that holds the references of a resource. -/
def linksField (es : List (String × Value)) : Reading Links :=
  optional es "links" (mapOf Link.schema.read) []

/-- An application as the platform lists it. -/
structure AppRecord where
  guid : String
  name : String
  state : String
  createdAt : Moment
  updatedAt : Moment
  links : Links
  deriving DecidableEq, Inhabited

namespace AppRecord

/-- Application records. -/
def schema : Schema AppRecord where
  title := "RawApplication"
  read := record fun es =>
    AppRecord.mk <$> required es "guid" text <*> required es "name" text
      <*> optional es "state" text "STOPPED" <*> required es "created_at" moment
      <*> required es "updated_at" moment <*> linksField es
  write a := .map [("guid", .text a.guid), ("name", .text a.name), ("state", .text a.state),
    ("links", .ofEntries Link.schema.write a.links)]

/-- The space that the application belongs to. -/
def spaceGuid (a : AppRecord) : Option String :=
  (a.links.find? "space").bind (·.guid)

/-- Milliseconds of a moment, where the calendar has room for it. -/
def millisOf (t : Moment) : Except Fault Int :=
  match t.millis with
  | some n => .ok n
  | none => .error .yearOutOfRange

/-- The time of creation, in milliseconds since 1970. -/
def createdMillis (a : AppRecord) : Except Fault Int :=
  millisOf a.createdAt

/-- The time of the last change, in milliseconds since 1970. -/
def updatedMillis (a : AppRecord) : Except Fault Int :=
  millisOf a.updatedAt

end AppRecord

/-! ## Environment -/

/-- What was last done to a service instance. -/
structure LastOperation where
  state : Option String
  description : Option String
  deriving DecidableEq, Inhabited

/-- Last operations. -/
def LastOperation.schema : Schema LastOperation where
  title := "LastOperation"
  read := record fun es => LastOperation.mk <$> perhaps es "state" text <*> perhaps es "description" text
  write o := .map [("state", .ofText? o.state), ("description", .ofText? o.description)]

/-- A service instance that an application is bound to. -/
structure ServiceInstance where
  name : Option String
  plan : Option String
  tags : List String
  lastOperation : Option LastOperation
  deriving DecidableEq, Inhabited

/-- Service instances. -/
def ServiceInstance.schema : Schema ServiceInstance where
  title := "ServiceInstanceEnv"
  read := record fun es =>
    ServiceInstance.mk <$> perhaps es "name" text <*> perhaps es "plan" text
      <*> optional es "tags" (listOf text) [] <*> perhaps es "last_operation" LastOperation.schema.read
  write s := .map [("name", .ofText? s.name), ("plan", .ofText? s.plan), ("tags", .ofList .text s.tags),
    ("last_operation", .ofRecord? LastOperation.schema.write s.lastOperation)]

/-- The variables that the platform supplies: the service instances of each service. -/
structure SystemEnvironment where
  services : List (String × List ServiceInstance)
  deriving DecidableEq, Inhabited

/-- System environments. -/
def SystemEnvironment.schema : Schema SystemEnvironment where
  title := "SystemEnv"
  read := record fun es =>
    SystemEnvironment.mk
      <$> optional es "vcap_services" (mapOf (listOf ServiceInstance.schema.read)) []
  write e := .map [("vcap_services", .ofEntries (.ofList ServiceInstance.schema.write) e.services)]

/-- The environment of an application. -/
structure Environment where
  vars : Option (List (String × Value))
  system : SystemEnvironment
  deriving Inhabited

/-- Environments. -/
def Environment.schema : Schema Environment where
  title := "ApplicationEnv"
  read := record fun es =>
    Environment.mk <$> perhaps es "environment_json" (mapOf anything)
      <*> optional es "system_env_json" SystemEnvironment.schema.read ⟨[]⟩
  write e := .map [("environment_json", .ofRecord? .map e.vars),
    ("system_env_json", SystemEnvironment.schema.write e.system)]

/-! ## Processes -/

/-- What a health check asks. -/
structure HealthCheckData where
  endpoint : Option String
  deriving DecidableEq, Inhabited

/-- What health checks ask. -/
def HealthCheckData.schema : Schema HealthCheckData where
  title := "HealthCheckData"
  read := record fun es => HealthCheckData.mk <$> perhaps es "endpoint" text
  write d := .map [("endpoint", .ofText? d.endpoint)]

/-- How the platform tells whether a process is healthy. -/
structure HealthCheck where
  type : Option String
  data : Option HealthCheckData
  deriving DecidableEq, Inhabited

/-- Health checks. -/
def HealthCheck.schema : Schema HealthCheck where
  title := "HealthCheck"
  read := record fun es =>
    HealthCheck.mk <$> perhaps es "type" text <*> perhaps es "data" HealthCheckData.schema.read
  write c := .map [("type", .ofText? c.type), ("data", .ofRecord? HealthCheckData.schema.write c.data)]

/-- The web process of an application. -/
structure ProcessInfo where
  guid : Option String
  memory : Option Int
  disk : Option Int
  instances : Option Int
  healthCheck : Option HealthCheck
  deriving DecidableEq, Inhabited

/-- Processes. -/
def ProcessInfo.schema : Schema ProcessInfo where
  title := "ProcessInfo"
  read := record fun es =>
    ProcessInfo.mk <$> perhaps es "guid" text <*> perhaps es "memory_in_mb" integer
      <*> perhaps es "disk_in_mb" integer <*> perhaps es "instances" integer
      <*> perhaps es "health_check" HealthCheck.schema.read
  write p := .map [("guid", .ofText? p.guid), ("memory_in_mb", .ofInteger? p.memory),
    ("disk_in_mb", .ofInteger? p.disk), ("instances", .ofInteger? p.instances),
    ("health_check", .ofRecord? HealthCheck.schema.write p.healthCheck)]

/-! ## Packages -/

/-- The checksum of uploaded bits. -/
structure Checksum where
  type : Option String
  value : Option String
  deriving DecidableEq, Inhabited

/-- Checksums. -/
def Checksum.schema : Schema Checksum where
  title := "Checksum"
  read := record fun es => Checksum.mk <$> perhaps es "type" text <*> perhaps es "value" text
  write c := .map [("type", .ofText? c.type), ("value", .ofText? c.value)]

/-- What is known about the bits of a package. -/
structure PackageData where
  checksum : Option Checksum
  deriving DecidableEq, Inhabited

/-- Package data. -/
def PackageData.schema : Schema PackageData where
  title := "PackageData"
  read := record fun es => PackageData.mk <$> perhaps es "checksum" Checksum.schema.read
  write d := .map [("checksum", .ofRecord? Checksum.schema.write d.checksum)]

/-- Uploaded, or to be uploaded, bits. The state is any word: what it means is for the one who asks. -/
structure Package where
  guid : String
  state : String
  data : PackageData
  links : Links
  deriving DecidableEq, Inhabited

/-- Packages. -/
def Package.schema : Schema Package where
  title := "RawPackage"
  read := record fun es =>
    Package.mk <$> required es "guid" text <*> optional es "state" text "AWAITING_UPLOAD"
      <*> optional es "data" PackageData.schema.read ⟨none⟩ <*> linksField es
  write p := .map [("guid", .text p.guid), ("state", .text p.state),
    ("data", PackageData.schema.write p.data), ("links", .ofEntries Link.schema.write p.links)]

/-! ## Droplets and builds -/

/-- A buildpack as the platform reports it. -/
structure BuildpackRecord where
  name : Option String
  buildpackName : Option String
  detectOutput : Option String
  version : Option String
  deriving DecidableEq, Inhabited

/-- Buildpack records. -/
def BuildpackRecord.schema : Schema BuildpackRecord where
  title := "RawBuildpack"
  read := record fun es =>
    BuildpackRecord.mk <$> perhaps es "name" text <*> perhaps es "buildpack_name" text
      <*> perhaps es "detect_output" text <*> perhaps es "version" text
  write b := .map [("name", .ofText? b.name), ("buildpack_name", .ofText? b.buildpackName),
    ("detect_output", .ofText? b.detectOutput), ("version", .ofText? b.version)]

/-- A droplet as the platform reports it. -/
structure DropletRecord where
  guid : String
  state : Option String
  stack : Option String
  buildpacks : Option (List BuildpackRecord)
  links : Links
  deriving DecidableEq, Inhabited

/-- Droplet records. -/
def DropletRecord.schema : Schema DropletRecord where
  title := "RawDroplet"
  read := record fun es =>
    DropletRecord.mk <$> required es "guid" text <*> perhaps es "state" text <*> perhaps es "stack" text
      <*> perhaps es "buildpacks" (listOf BuildpackRecord.schema.read) <*> linksField es
  write d := .map [("guid", .text d.guid), ("state", .ofText? d.state), ("stack", .ofText? d.stack),
    ("buildpacks", .ofRecord? (.ofList BuildpackRecord.schema.write) d.buildpacks),
    ("links", .ofEntries Link.schema.write d.links)]

/-- The droplet that a build made. -/
structure DropletGuid where
  guid : String
  deriving DecidableEq, Inhabited

/-- Droplets of builds. -/
def DropletGuid.schema : Schema DropletGuid where
  title := "DropletGuid"
  read := record fun es => DropletGuid.mk <$> required es "guid" text
  write d := .map [("guid", .text d.guid)]

/-- The staging of a package. -/
structure Build where
  guid : String
  state : String
  droplet : Option DropletGuid
  deriving DecidableEq, Inhabited

/-- Builds. -/
def Build.schema : Schema Build where
  title := "RawBuild"
  read := record fun es =>
    Build.mk <$> required es "guid" text <*> optional es "state" text "STAGING"
      <*> perhaps es "droplet" DropletGuid.schema.read
  write b := .map [("guid", .text b.guid), ("state", .text b.state),
    ("droplet", .ofRecord? DropletGuid.schema.write b.droplet)]

/-! ## Instances -/

/-- The report on one instance of a running application. -/
structure InstanceReport where
  state : String
  /-- How long the instance has run, in seconds. -/
  uptime : Int
  details : Option String
  since : Option Binary64
  deriving DecidableEq, Inhabited

/-- Instance reports. -/
def InstanceReport.schema : Schema InstanceReport where
  title := "RawInstance"
  read := record fun es =>
    InstanceReport.mk <$> required es "state" text <*> optional es "uptime" integer 0
      <*> perhaps es "details" text <*> perhaps es "since" number
  write i := .map [("state", .text i.state), ("uptime", .int i.uptime), ("details", .ofText? i.details),
    ("since", .ofRecord? .real i.since)]

/-! ## Lifecycles -/

/-- How an application is to be built. -/
structure Lifecycle where
  type : String
  data : List (String × Value)
  deriving Inhabited

/-- Lifecycles. -/
def Lifecycle.schema : Schema Lifecycle where
  title := "Lifecycle"
  read := record fun es =>
    Lifecycle.mk <$> optional es "type" text "buildpack" <*> optional es "data" (mapOf anything) []
  write l := .map [("type", .text l.type), ("data", .map l.data)]

/-! ## Pages -/

/-- One page of a listing. -/
structure Page (α : Type) where
  totalResults : Int
  totalPages : Int
  resources : List α
  deriving DecidableEq, Inhabited

/-- Pages of resources of one kind, under that kind's title. -/
def Page.schema (title : String) (read : Reader α) (write : α → Value) : Schema (Page α) where
  title := "Page[" ++ title ++ "]"
  read := record fun es =>
    Page.mk <$> optional es "total_results" integer 0 <*> optional es "total_pages" integer 1
      <*> optional es "resources" (listOf read) []
  write p := .map [("total_results", .int p.totalResults), ("total_pages", .int p.totalPages),
    ("resources", .ofList write p.resources)]

/-- Pages of application records. -/
def Page.ofApplications : Schema (Page AppRecord) :=
  Page.schema AppRecord.schema.title AppRecord.schema.read AppRecord.schema.write

/-- Pages of packages. -/
def Page.ofPackages : Schema (Page Package) :=
  Page.schema Package.schema.title Package.schema.read Package.schema.write

/-- Pages of texts. -/
def Page.ofTexts : Schema (Page String) :=
  Page.schema "str" text .text

end Steward
