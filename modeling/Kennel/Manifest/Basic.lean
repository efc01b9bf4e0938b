import Kennel.Net.Address

/-!
# Manifests

A manifest is what a pup declares about itself: its name and version, the services that run in its
container and the ports they expose, the interfaces it offers to other pups, those it depends on,
the configuration it asks for and the metrics it reports.
-/

namespace Kennel

namespace Manifest

/-- The protocol of an exposed port. -/
inductive Protocol where
  | http
  | tcp
  deriving DecidableEq, Inhabited

/-- A port that a pup's container exposes. -/
structure Expose where
  name : String
  protocol : Protocol
  port : Port
  /-- The port is a web interface and is given a port of the host at adoption. -/
  webUi : Bool := false
  /-- The port is bound on the host itself, under the same number. -/
  listenOnHost : Bool := false
  deriving DecidableEq, Inhabited

/-- What a pup is called. -/
structure Identity where
  name : String
  version : String
  description : String := ""
  deriving DecidableEq, Inhabited

/-- A service that runs in a pup's container. -/
structure Service where
  name : String
  command : String
  deriving DecidableEq, Inhabited

/-- What runs in a pup's container and the ports it exposes. -/
structure Container where
  services : List Service := []
  exposes : List Expose := []
  deriving DecidableEq, Inhabited

/-- A capability that a pup offers to others. -/
structure Interface where
  name : String
  version : String
  permissionGroups : List String := []
  deriving DecidableEq, Inhabited

/-- Where the author of a manifest suggests to get a provider from. -/
structure DefaultSource where
  location : String
  name : String
  version : String
  deriving DecidableEq, Inhabited

/-- A capability that a pup needs from another one, in a range of versions. -/
structure Dependency where
  interface : String
  range : String
  isOptional : Bool := false
  defaultSource : Option DefaultSource := none
  deriving DecidableEq, Inhabited

/-- A value that the owner of a pup may or must configure. -/
structure ConfigField where
  name : String
  label : String := ""
  kind : String := "text"
  required : Bool := false
  deriving DecidableEq, Inhabited

/-- A metric that a pup reports beside the built-in ones. -/
structure Metric where
  name : String
  label : String := ""
  kind : String := "float"
  deriving DecidableEq, Inhabited

end Manifest

/-- What a pup declares about itself. -/
structure Manifest where
  identity : Manifest.Identity
  container : Manifest.Container := {}
  interfaces : List Manifest.Interface := []
  dependencies : List Manifest.Dependency := []
  config : List Manifest.ConfigField := []
  metrics : List Manifest.Metric := []
  deriving DecidableEq, Inhabited

namespace Manifest

def name (m : Manifest) : String := m.identity.name

def version (m : Manifest) : String := m.identity.version

/-- The ports that are bound on the host under their own number. -/
def hostPorts (m : Manifest) : List Port :=
  (m.container.exposes.filter (·.listenOnHost)).map (·.port)

/-- The exposed ports that are web interfaces. -/
def webUis (m : Manifest) : List Expose := m.container.exposes.filter (·.webUi)

end Manifest

end Kennel
