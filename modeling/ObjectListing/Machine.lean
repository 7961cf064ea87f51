import ObjectListing.Client
import ObjectListing.Environment.Basic
import ObjectListing.Store.Directory
import ObjectListing.Store.Remote

/-!
Machines: files, and a connection to a remote service. A client on a machine reaches both, each by the
scheme of the URI.
-/

namespace ObjectListing

/-- The files of a machine, and the service that it can reach. -/
structure Machine where
  files : FileSystem
  service : Endpoint := {}

namespace Machine

/-- The files as a part of a machine. -/
def filesPart : Part Machine FileSystem := ⟨(·.files), fun files m => { m with files }⟩

/-- The service as a part of a machine. -/
def servicePart : Part Machine Endpoint := ⟨(·.service), fun service m => { m with service }⟩

/-- The stores that can be reached on a machine. -/
def stores (settings : RemoteSettings) : Stores Machine :=
  .byScheme ((RemoteStore.backend settings 0).within servicePart)
    fun root => (DirectoryStore.backend root).within filesPart

/-- The client with the settings of an environment. -/
def clientOf (env : Environment) : Client Machine :=
  { config := env.engineConfig, stores := stores env.remoteSettings }

/-- The machine in an environment, which may hold the region and the keys of callers. -/
def within (env : Environment) (m : Machine) : Machine :=
  let ambientRegion := env.ambientRegion?.getD m.service.ambientRegion
  let ambientKeys := env.ambientKeys?.getD m.service.ambientKeys
  { m with service := { m.service with ambientRegion, ambientKeys } }

/-- The environment with the variables of the file `.env`, if it is there. -/
def withFileVariables (m : Machine) (env : Environment) : Environment :=
  match m.files.read (Text.of ".env") with
  | .ok data => env.withFile (some (VariableFile.legible (data.take data.size)))
  | .error _ => env

end Machine

end ObjectListing
