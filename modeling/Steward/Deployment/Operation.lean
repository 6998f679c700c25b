/-!
# Operations of the deployment pipeline

Each operation of the pipeline issues one call to the platform. The operations are named here once: the name
is what failures, log events and counters carry.

## Contents

* `Operation` — the operations, `Operation.name` — their names;
* `Wait` — what a deployment waits for.
-/

namespace Steward

/-- An operation of the deployment pipeline. -/
inductive Operation where
  | createPackage
  | uploadBits
  | packageReady
  | findCurrentPackage
  | downloadBits
  | createBuild
  | buildReady
  | dropletFromBuild
  | setDroplet
  | start
  | stop
  | restage
  | deleteInstance
  | mapRoute
  | unmapRoute
  deriving DecidableEq, Inhabited

/-- The name of an operation. -/
def Operation.name : Operation → String
  | createPackage => "create_package"
  | uploadBits => "upload_bits"
  | packageReady => "package_ready"
  | findCurrentPackage => "find_current_package"
  | downloadBits => "download_bits"
  | createBuild => "create_build"
  | buildReady => "build_ready"
  | dropletFromBuild => "droplet_from_build"
  | setDroplet => "set_droplet"
  | start => "start"
  | stop => "stop"
  | restage => "restage"
  | deleteInstance => "delete_instance"
  | mapRoute => "map_route"
  | unmapRoute => "unmap_route"

/-- What a deployment waits for. -/
inductive Wait where
  | package
  | build
  deriving DecidableEq, Inhabited

/-- The name of what is waited for. -/
def Wait.name : Wait → String
  | package => "package"
  | build => "build"

end Steward
