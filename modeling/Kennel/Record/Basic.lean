import Kennel.Data.Dict
import Kennel.Manifest.Basic

/-!
# Records of installed pups

A record is what is kept of an installed pup: its ID and address, what its owner configured, the
pups selected to provide its dependencies, and the manifest and source it came from. Two adoptions
are of the same package when name, version and source agree.
-/

namespace Kennel

/-- How far the installation of a pup has come. -/
inductive Phase where
  | installing
  | ready
  | unready
  | uninstalling
  | uninstalled
  | broken
  deriving DecidableEq, Inhabited

/-- Where a pup was adopted from. -/
structure Source where
  id : String
  location : String
  deriving DecidableEq, Inhabited

/-- A web interface of a pup and the host's port that leads to it. -/
structure WebUi where
  name : String
  internalPort : Port
  hostPort : Port
  deriving DecidableEq, Inhabited

/-- What is kept of an installed pup. -/
structure Record where
  id : String
  phase : Phase
  enabled : Bool
  config : Dict String
  address : Address
  webUis : List WebUi
  /-- The ID of the pup selected to provide each interface. -/
  providers : Dict String
  manifest : Manifest
  source : Source
  needsConf : Bool
  needsDeps : Bool
  deriving DecidableEq, Inhabited

namespace Record

def name (r : Record) : String := r.manifest.name

def version (r : Record) : String := r.manifest.version

/-- Whether a manifest and a source describe the package that this record was made from. -/
def isSamePackage (r : Record) (manifest : Manifest) (source : Source) : Bool :=
  r.name == manifest.name && r.version == manifest.version && r.source.id == source.id

/-- Every port of the host that the pup holds: those of its web interfaces, then those that its
manifest binds on the host. -/
def boundHostPorts (r : Record) : List Port := r.webUis.map (·.hostPort) ++ r.manifest.hostPorts

/-- Whether a required configuration field has no value. -/
def lacksConfig (r : Record) : Bool :=
  r.manifest.config.any fun f => f.required && !r.config.contains f.name

/-- Records in ascending order of their addresses; those with equal addresses stay in order. -/
def sortByAddress (records : List Record) : List Record :=
  records.mergeSort fun a b => decide (a.address ≤ b.address)

end Record

end Kennel
