import Steward.Workload.Basic

/-!
# Provenance

Variables in the environment of an application that say which build, artifact and pipeline it came from.

## Contents

* `Provenance` — the variables, `Provenance.variableName` and `Provenance.ofVariable` — their names;
* `Provenance.read` — the text of a variable;
* `BuildInfo.ofVariables`, `ArtifactInfo.ofVariables` — what the variables tell.
-/

namespace Steward

/-- A variable that carries metadata of a deployment. -/
inductive Provenance where
  | jobName
  | jobNumber
  | jobUrl
  | artifactName
  | artifactVersion
  | artifactUrl
  | pipelineId
  deriving DecidableEq, Inhabited

namespace Provenance

/-- The name of the variable. -/
def variableName : Provenance → String
  | jobName => "CI_BUILD_JOB_NAME"
  | jobNumber => "CI_BUILD_JOB_NUMBER"
  | jobUrl => "CI_BUILD_JOB_URL"
  | artifactName => "ARTIFACT_NAME"
  | artifactVersion => "ARTIFACT_VERSION"
  | artifactUrl => "ARTIFACT_URL"
  | pipelineId => "DEPLOY_PIPELINE_ID"

/-- All variables that carry metadata. -/
def all : List Provenance :=
  [jobName, jobNumber, jobUrl, artifactName, artifactVersion, artifactUrl, pipelineId]

/-- The variable of a name. -/
def ofVariable (name : String) : Except Fault Provenance :=
  match all.find? (·.variableName = name) with
  | some p => .ok p
  | none => .error (.unknownVariable name)

/-- The text of a variable; nothing if the environment does not have it or gives null. -/
def read (p : Provenance) (env : List (String × Value)) : Except Fault (Option String) :=
  match Value.lookup env p.variableName with
  | none | some .null => .ok none
  | some v =>
    match v.display with
    | some s => .ok (some s)
    | none => .error .integerTooLong

end Provenance

/-- The build that an environment speaks of. -/
def BuildInfo.ofVariables (env : List (String × Value)) : Except Fault BuildInfo := do
  let jobName ← Provenance.jobName.read env
  let jobNumber ← Provenance.jobNumber.read env
  let jobUrl ← Provenance.jobUrl.read env
  return { jobName, jobNumber, jobUrl }

/-- The artifact that an environment speaks of. -/
def ArtifactInfo.ofVariables (env : List (String × Value)) : Except Fault ArtifactInfo := do
  let name ← Provenance.artifactName.read env
  let version ← Provenance.artifactVersion.read env
  let url ← Provenance.artifactUrl.read env
  return { name, version, url }

end Steward
