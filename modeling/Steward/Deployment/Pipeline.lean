import Steward.Deployment.Progress
import Steward.Measure
import Steward.Platform.Inquiry

/-!
# The deployment pipeline

Each operation of the pipeline is one call to the platform. A call that the platform fails becomes a failure
of the operation; nothing is tried again here.

## Contents

* `Staging` — the interface of deployments;
* `Artifact` — what is uploaded;
* `Pipeline.operate` — one operation: the call, its counter and its failure;
* the operations on packages, builds and applications.
-/

namespace Steward

/-! ## The interface -/

/-- What a deployment may request, on a clock with times in `τ`. -/
inductive Staging.Request (τ : Type) where
  | call (c : Call)
  | report (e : Event)
  | measure (m : Measure)
  | clock
  | pause (d : τ)
  | save (p : Progress)

/-- What is replied to a deployment. -/
abbrev Staging.Reply (τ : Type) : Staging.Request τ → Type
  | .call c => Except Fault c.Answer
  | .clock => τ
  | .report _ | .measure _ | .pause _ | .save _ => Unit

/-- The interface of deployments. -/
abbrev Staging (τ : Type) : Interface := ⟨Staging.Request τ, Staging.Reply τ⟩

namespace Staging

variable {τ : Type}

/-- A request that cannot fail. -/
def ask (r : Staging.Request τ) : Attempt (Staging τ) (Staging.Reply τ r) :=
  .ofProgram (Program.request (I := Staging τ) r)

/-- Asks the platform. -/
def call (c : Call) : Attempt (Staging τ) c.Answer :=
  .mk (Program.request (I := Staging τ) (Staging.Request.call c))

/-- Reports an event. -/
def report (level : Level) (text : String) (fields : List (String × Value)) : Attempt (Staging τ) Unit :=
  ask (.report ⟨level, text, fields⟩)

end Staging

/-! ## Artifacts -/

/-- A file that is uploaded: its path, and its bits if it can be opened. -/
structure Artifact where
  path : String
  bits : Option ByteArray
  deriving Inhabited

/-- The name of a file: the last part of its path. -/
def Artifact.name (a : Artifact) : String :=
  let parts := (Text.splitOn '/' a.path.toList).filter fun part => !part.isEmpty && part ≠ ['.']
  String.ofList (parts.getLast?.getD [])

/-! ## Operations -/

namespace Pipeline

variable {τ : Type}

/-- One operation: the call is counted by its outcome, and a failed call is a failed operation. Other faults are
passed on and not counted. -/
def operate (operation : Operation) (c : Call) : Attempt (Staging τ) c.Answer := do
  match ← (Staging.call c).settle with
  | .ok answer =>
    Staging.ask (.measure (.step operation.name "ok"))
    return answer
  | .error f =>
    if f.isRemote then
      Staging.ask (.measure (.step operation.name "error"))
      Staging.report .warning "Pipeline step failed"
        [("step", .text operation.name), ("error", .text f.message)]
      throw (.operationFailed operation f)
    else throw f

/-! ### Packages -/

/-- Creates a package for an application. -/
def createPackage (app : Option String) : Attempt (Staging τ) String := do
  match ← operate .createPackage (.createPackage app) with
  | none => throw (.unanswered .createPackage)
  | some p =>
    Staging.report .info "Package created" [("appId", .ofText? app), ("packageId", .text p.guid)]
    return p.guid

/-- Uploads an artifact as the bits of a package. -/
def uploadBits (package : Option String) (artifact : Artifact) : Attempt (Staging τ) String := do
  match artifact.bits with
  | none => throw .artifactMissing
  | some bits =>
    match ← operate .uploadBits (.uploadBits package bits artifact.name) with
    | none => throw (.unanswered .uploadBits)
    | some p =>
      Staging.report .info "Package bits uploaded"
        [("packageId", .ofText? package), ("artifact", .text artifact.name)]
      return p.guid

/-- What the state of a package says. A package that is not reported any more counts as failed. -/
def packageReadiness (id : Option String) (p : Option Package) : Except Fault Readiness :=
  let state := (p.map (·.state)).getD "FAILED"
  if state = "FAILED" ∨ state = "EXPIRED" then .error (.packageFailed id state)
  else .ok (if state = "READY" then .ready else .pending)

/-- Whether the bits of a package have been processed. -/
def pollPackage (id : Option String) : Attempt (Staging τ) Readiness := do
  let p ← operate .packageReady (.package id)
  .ofExcept (packageReadiness id p)

/-- The last part of an address: what stands after the last slash, slashes at the end apart. -/
def lastSegment (href : String) : String :=
  let kept := href.toList.reverse.dropWhile (· = '/')
  String.ofList (kept.takeWhile (· ≠ '/')).reverse

/-- The package that a droplet was made from. -/
def packageOf (droplet : DropletRecord) : Option String :=
  match (droplet.links.find? "package").bind (·.href) with
  | none | some "" => none
  | some href => some (lastSegment href)

/-- The package behind the droplet of an application. -/
def currentPackage (app : Option String) : Attempt (Staging τ) (Option String) := do
  let droplet ← operate .findCurrentPackage (.droplet app)
  return droplet.bind packageOf

/-- Downloads the bits of a package. -/
def downloadBits (package : Option String) : Attempt (Staging τ) ByteArray := do
  match ← operate .downloadBits (.downloadBits package) with
  | none => throw (.unanswered .downloadBits)
  | some bits => return bits

/-! ### Builds -/

/-- Creates a build of a package. -/
def createBuild (package : Option String) : Attempt (Staging τ) String := do
  match ← operate .createBuild (.createBuild package) with
  | none => throw (.unanswered .createBuild)
  | some b =>
    Staging.report .info "Build created" [("packageId", .ofText? package), ("buildId", .text b.guid)]
    return b.guid

/-- What the state of a build says. A build that is not reported any more counts as failed. -/
def buildReadiness (b : Option Build) : Except Fault Readiness :=
  let state := (b.map (·.state)).getD "FAILED"
  if state = "FAILED" then .error (.buildFailed state)
  else .ok (if state = "STAGED" then .ready else .pending)

/-- Whether a build has staged a droplet. -/
def pollBuild (id : Option String) : Attempt (Staging τ) Readiness := do
  let b ← operate .buildReady (.build id)
  .ofExcept (buildReadiness b)

/-- The droplet of a build. -/
def dropletOfBuild (id : Option String) : Attempt (Staging τ) (Option String) := do
  let b ← operate .dropletFromBuild (.build id)
  return (b.bind (·.droplet)).map (·.guid)

/-! ### Applications -/

/-- Sets the droplet that an application runs. -/
def setDroplet (app droplet : Option String) : Attempt (Staging τ) Unit := do
  operate .setDroplet (.setDroplet app droplet)
  Staging.report .info "Current droplet set" [("appId", .ofText? app), ("dropletId", .ofText? droplet)]

/-- Starts an application. -/
def start (app : Option String) : Attempt (Staging τ) Unit :=
  operate .start (.start app)

/-- Stops an application. -/
def stop (app : Option String) : Attempt (Staging τ) Unit :=
  operate .stop (.stop app)

/-- Stages an application anew. -/
def restage (app : Option String) : Attempt (Staging τ) Unit :=
  operate .restage (.restage app)

/-- Deletes an instance of an application, named by any value. -/
def deleteInstance (app : Option String) (index : Value) : Attempt (Staging τ) Unit := do
  match index.display with
  | some index => operate .deleteInstance (.deleteInstance app index)
  | none => throw .integerTooLong

/-- Maps a route to an application. -/
def mapRoute (app route : Option String) : Attempt (Staging τ) Unit :=
  operate .mapRoute (.mapRoute app route)

/-- Takes a route from an application. -/
def unmapRoute (app route : Option String) : Attempt (Staging τ) Unit :=
  operate .unmapRoute (.unmapRoute app route)

end Pipeline

end Steward
