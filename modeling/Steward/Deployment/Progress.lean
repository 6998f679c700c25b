import Steward.Reading.Schema
import Steward.Reading.Moment
import Steward.Deployment.Operation

/-!
# Progress of a deployment

How far a deployment has come, and what it has made so far. Whoever deploys keeps the progress and hands it in
again to go on after a failure.

## Contents

* `Stage` — the stages of a deployment;
* `Progress` — the stage reached, and the package, the build and the droplet made so far;
* `Readiness` — the answer of a poll.
-/

namespace Steward

/-- The next thing that a deployment has to do. -/
inductive Stage where
  | createPackage
  | uploadBits
  | packageReady
  | createBuild
  | buildReady
  | setDroplet
  | start
  | done
  deriving DecidableEq, Inhabited

/-- The words for stages. -/
def Stage.members : List (String × Stage) :=
  [("create_package", .createPackage), ("upload_bits", .uploadBits), ("package_ready", .packageReady),
   ("create_build", .createBuild), ("build_ready", .buildReady), ("set_droplet", .setDroplet),
   ("start", .start), ("done", .done)]

/-- The word for a stage. -/
def Stage.word : Stage → String
  | createPackage => "create_package"
  | uploadBits => "upload_bits"
  | packageReady => "package_ready"
  | createBuild => "create_build"
  | buildReady => "build_ready"
  | setDroplet => "set_droplet"
  | start => "start"
  | done => "done"

/-- How far the deployment of an application has come. -/
structure Progress where
  app : String
  stage : Stage
  package : Option String
  build : Option String
  droplet : Option String
  deriving DecidableEq, Inhabited

namespace Progress

/-- Records of progress. Their times are read, but not kept. -/
def schema : Schema Progress where
  title := "PipelineState"
  read := record fun es =>
    (fun app stage package build droplet (_ _ : Option Moment) =>
        ({ app, stage, package, build, droplet } : Progress))
      <$> required es "app_id" text <*> optional es "step" (enumeration Stage.members) .createPackage
      <*> perhaps es "package_id" text <*> perhaps es "build_id" text <*> perhaps es "droplet_id" text
      <*> optional es "started_at" (fun v => (moment v).map some) none
      <*> optional es "updated_at" (fun v => (moment v).map some) none
  write p := .map [("app_id", .text p.app), ("step", .text p.stage.word), ("package_id", .ofText? p.package),
    ("build_id", .ofText? p.build), ("droplet_id", .ofText? p.droplet)]

/-- The progress of a deployment that has not begun. -/
def fresh (app : String) : Progress :=
  ⟨app, .createPackage, none, none, none⟩

/-- The progress of a deployment that has not begun, for an application that may be missing. -/
def fresh? (app : Option String) : Except Fault Progress :=
  match app with
  | some app => .ok (fresh app)
  | none => .error (.invalid schema.title [⟨[.key "app_id"], .notText⟩])

end Progress

/-- The answer of a poll that has not failed. -/
inductive Readiness where
  | pending
  | ready
  deriving DecidableEq, Inhabited

/-- The word for an answer. -/
def Readiness.word : Readiness → String
  | pending => "pending"
  | ready => "ready"

end Steward
