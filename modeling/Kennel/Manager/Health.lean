import Kennel.Monitoring.Stats
import Kennel.Record.Update

/-!
# Health

A pup may start when every required configuration field has a value and every dependency that is
not optional has a selected provider that is installed. A selected provider that is installed and
does not run is reported for every dependency, and stops nothing.

Which pups are installed and run is a function from IDs to statuses, none for a pup that is not
installed.
-/

namespace Kennel

/-- The verdict on a pup. -/
structure Health where
  needsConf : Bool
  needsDeps : Bool
  /-- The interfaces whose selected provider is installed but does not run. -/
  depsNotRunning : List String
  deriving DecidableEq, Inhabited

namespace Health

open Json

/-- Whether the pup may start. -/
def canStart (h : Health) : Bool := !h.needsConf && !h.needsDeps

/-- The status of the provider selected for an interface, if it is selected and installed. -/
def providerStatus (r : Record) (statusOf : String → Option Status) (interface : String) :
    Option Status :=
  (r.providers.get? interface).bind statusOf

def evaluate (r : Record) (statusOf : String → Option Status) : Health where
  needsConf := r.lacksConfig
  needsDeps := r.manifest.dependencies.any fun d =>
    !d.isOptional && (providerStatus r statusOf d.interface).isNone
  depsNotRunning :=
    (r.manifest.dependencies.filter fun d =>
      (providerStatus r statusOf d.interface).any (· != .running)).map (·.interface)

/-- The JSON shape of a verdict. -/
def toJson (h : Health) : Value := .object
  [("needsConf", .bool h.needsConf), ("needsDeps", .bool h.needsDeps),
    ("depsNotRunning", .list .string h.depsNotRunning)]

/-- The updates that bring the flags of a record in line with the verdict. -/
def updates (h : Health) : List Update := [.setNeedsConf h.needsConf, .setNeedsDeps h.needsDeps]

/-- The record with the flags of the verdict. -/
def mark (h : Health) (r : Record) : Record :=
  { r with needsConf := h.needsConf, needsDeps := h.needsDeps }

end Health

end Kennel
