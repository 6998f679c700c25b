import Steward.Keyed
import Steward.Platform.Payload
import Steward.Workload.Basic

/-!
# Calls to the platform

Everything the library asks of the platform is a call, and each call says what a successful answer to it
holds. A call for a resource that does not exist is answered with nothing.

## Contents

* `Call` — the calls, `Call.Answer` — what answers them;
* `Call.name` — the name of a call.
-/

namespace Steward

/-- A call to the platform. In the calls of a deployment an identifier may be missing. -/
inductive Call where
  | listing (page : Option Int) (size : Int) (names : Option (List String)) (spaces : Option String)
  | application (id : String)
  | environment (id : String)
  | packages (id : String)
  | droplet (id : Option String)
  | instances (id : String)
  | createApplication (name space : String) (env : Option (List (String × Value)))
      (lifecycle : Option Lifecycle)
  | deleteApplication (id : String)
  | createPackage (app : Option String)
  | uploadBits (package : Option String) (bits : ByteArray) (file : String)
  | downloadBits (package : Option String)
  | package (id : Option String)
  | createBuild (package : Option String)
  | build (id : Option String)
  | setDroplet (app droplet : Option String)
  | start (app : Option String)
  | stop (app : Option String)
  | restage (app : Option String)
  | deleteInstance (app : Option String) (index : String)
  | mapRoute (app route : Option String)
  | unmapRoute (app route : Option String)
  | space (id : String)
  | process (app : String)
  | processState (app : String)
  deriving Inhabited

namespace Call

/-- What a successful answer to a call holds. -/
abbrev Answer : Call → Type
  | listing .. => Option (Page AppRecord)
  | application _ => Option AppRecord
  | environment _ => Option Environment
  | packages _ => Option (Page Package)
  | droplet _ => Option DropletRecord
  | instances _ => Option (Keyed.Map String InstanceReport)
  | createApplication .. => Option AppRecord
  | createPackage _ | uploadBits .. | package _ => Option Package
  | downloadBits _ => Option ByteArray
  | createBuild _ | build _ => Option Build
  | deleteApplication _ | setDroplet .. | start _ | stop _ | restage _ | deleteInstance .. | mapRoute ..
  | unmapRoute .. => Unit
  | space _ => Option Space
  | process _ => Option ProcessInfo
  | processState _ => Option String

/-- The name of a call. -/
def name : Call → String
  | listing .. => "list_entities"
  | application _ => "get_entity"
  | environment _ => "get_environment"
  | packages _ => "get_packages"
  | droplet _ => "get_droplet"
  | instances _ => "get_instances"
  | createApplication .. => "create_entity"
  | deleteApplication _ => "delete_entity"
  | createPackage _ => "create_package"
  | uploadBits .. => "upload_bits"
  | downloadBits _ => "download_bits"
  | package _ => "get_package"
  | createBuild _ => "create_build"
  | build _ => "get_build"
  | setDroplet .. => "set_current_droplet"
  | start _ => "start"
  | stop _ => "stop"
  | restage _ => "restage"
  | deleteInstance .. => "delete_instance"
  | mapRoute .. => "map_route"
  | unmapRoute .. => "unmap_route"
  | space _ => "find_space"
  | process _ => "find_process"
  | processState _ => "get_process_state"

end Call

end Steward
