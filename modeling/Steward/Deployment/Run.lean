import Steward.Deployment.Pipeline

/-!
# Running a deployment

A deployment goes from stage to stage and saves its progress after each. A run that fails can be taken up
again with the saved progress: finished stages are not repeated, so no package and no build is made twice. A
package or a build that cannot become ready any more is given up, and the next run makes a new one.

## Contents

* `Plan` — what is deployed, and how patiently;
* `awaitReady` — polling until ready or out of time;
* one function for each stage;
* `Plan.deploy` — a run.
-/

namespace Steward

/-- What is deployed, and how patiently. -/
structure Plan (τ : Type) where
  app : Option String
  artifact : Artifact
  /-- Whether the application is started at the end. -/
  start : Bool
  /-- The time between two polls. -/
  interval : τ
  /-- The time that all waiting together may take. -/
  timeout : τ
  /-- The most polls of one wait. A wait on a clock that advances is over before, if this is more than the
  timeout has intervals. -/
  patience : Nat

namespace Plan

variable {τ : Type} [Add τ] [LT τ] [DecidableLT τ]

/-- Saves progress. -/
def save (p : Progress) : Attempt (Staging τ) Progress := do
  Staging.ask (.save p)
  return p

/-- Reports an event of the deployment. -/
def report (plan : Plan τ) (level : Level) (text : String) (fields : List (String × Value)) :
    Attempt (Staging τ) Unit :=
  Staging.report level text (("appId", .ofText? plan.app) :: fields)

/-! ## Waiting -/

/-- Polls until the answer is that it is ready. Between two polls there is a pause, unless it would end after
the deadline. -/
def awaitReady (plan : Plan τ) (wait : Wait) (poll : Attempt (Staging τ) Readiness) (deadline : τ) :
    (patience : Nat) → Attempt (Staging τ) Unit
  | 0 => throw (.unfinished wait)
  | patience + 1 => do
    match ← poll with
    | .ready => return ()
    | .pending =>
      let now ← Staging.ask .clock
      if deadline < now + plan.interval then throw (.timedOut wait)
      else
        Staging.ask (.pause plan.interval)
        awaitReady plan wait poll deadline patience

/-! ## Stages -/

/-- Makes a package. -/
def createPackage (plan : Plan τ) (p : Progress) : Attempt (Staging τ) Progress := do
  if p.stage = .createPackage then
    let package ← Pipeline.createPackage plan.app
    save { p with stage := .uploadBits, package := some package }
  else return p

/-- Uploads the artifact. -/
def uploadBits (plan : Plan τ) (p : Progress) : Attempt (Staging τ) Progress := do
  if p.stage = .uploadBits then
    let _ ← Pipeline.uploadBits p.package plan.artifact
    save { p with stage := .packageReady }
  else return p

/-- Waits for the package. -/
def packageReady (plan : Plan τ) (deadline : τ) (p : Progress) : Attempt (Staging τ) Progress := do
  if p.stage = .packageReady then
    match ← (plan.awaitReady .package (Pipeline.pollPackage p.package) deadline plan.patience).settle with
    | .error f =>
      if f.isTerminal then
        plan.report .warning "Package failed, next attempt starts from a new package"
          [("packageId", .ofText? p.package)]
        let _ ← save { p with stage := .createPackage, package := none }
      throw f
    | .ok () =>
      let p ← save { p with stage := .createBuild }
      plan.report .info "Package ready" [("packageId", .ofText? p.package)]
      return p
  else return p

/-- Makes a build. -/
def createBuild (_ : Plan τ) (p : Progress) : Attempt (Staging τ) Progress := do
  if p.stage = .createBuild then
    let build ← Pipeline.createBuild p.package
    save { p with stage := .buildReady, build := some build }
  else return p

/-- Waits for the build and asks for its droplet. -/
def buildReady (plan : Plan τ) (deadline : τ) (p : Progress) : Attempt (Staging τ) Progress := do
  if p.stage = .buildReady then
    match ← (plan.awaitReady .build (Pipeline.pollBuild p.build) deadline plan.patience).settle with
    | .error f =>
      if f.isTerminal then
        plan.report .warning "Build failed, next attempt starts from a new build"
          [("buildId", .ofText? p.build)]
        let _ ← save { p with stage := .createBuild, build := none }
      throw f
    | .ok () =>
      match ← Pipeline.dropletOfBuild p.build with
      | none => throw (.stagedWithoutDroplet p.build)
      | some droplet =>
        let p ← save { p with stage := .setDroplet, droplet := some droplet }
        plan.report .info "Build staged" [("buildId", .ofText? p.build), ("dropletId", .text droplet)]
        return p
  else return p

/-- Sets the droplet. -/
def setDroplet (plan : Plan τ) (p : Progress) : Attempt (Staging τ) Progress := do
  if p.stage = .setDroplet then
    Pipeline.setDroplet plan.app p.droplet
    save { p with stage := .start }
  else return p

/-- Starts the application, if that is planned. -/
def startApp (plan : Plan τ) (p : Progress) : Attempt (Staging τ) Progress := do
  if p.stage = .start then
    if plan.start then Pipeline.start plan.app
    save { p with stage := .done }
  else return p

/-! ## Runs -/

/-- Takes a deployment from where it is to its end. -/
def resume (plan : Plan τ) (p : Progress) : Attempt (Staging τ) Progress := do
  let began ← Staging.ask .clock
  let deadline := began + plan.timeout
  let p ← plan.createPackage p
  let p ← plan.uploadBits p
  let p ← plan.packageReady deadline p
  let p ← plan.createBuild p
  let p ← plan.buildReady deadline p
  let p ← plan.setDroplet p
  let p ← plan.startApp p
  plan.report .info "Deployment finished" [("dropletId", .ofText? p.droplet), ("started", .bool plan.start)]
  return p

/-- Deploys: goes on from saved progress, or begins. -/
def deploy (plan : Plan τ) (saved : Option Progress) : Attempt (Staging τ) Progress := do
  let p ← match saved with
    | some p => pure p
    | none => .ofExcept (Progress.fresh? plan.app)
  plan.resume p

end Plan

end Steward
