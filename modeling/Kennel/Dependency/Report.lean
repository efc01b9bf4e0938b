import Kennel.Manifest.Wire

/-!
# Reports on dependencies

For each dependency that a pup declares, a report names the installed pups that provide it, the
pups of the catalogs that would, and the provider selected now. A dependency that could not be
resolved carries the reason.
-/

namespace Kennel

open Json

/-- A pup of a catalog that would provide a dependency. -/
structure InstallableProvider where
  sourceId : String
  name : String
  version : String
  location : String
  deriving DecidableEq, Inhabited

/-- What is known of one dependency. -/
structure DependencyReport where
  interface : String
  range : String
  isOptional : Bool
  current : Option String := none
  installed : List String := []
  installable : List InstallableProvider := []
  defaultSource : Option Manifest.DefaultSource := none
  /-- Why the dependency could not be resolved. -/
  error : Option String := none
  deriving DecidableEq, Inhabited

namespace InstallableProvider

def toJson (p : InstallableProvider) : Value := .object
  [("sourceId", .string p.sourceId), ("pupName", .string p.name), ("pupVersion", .string p.version),
    ("location", .string p.location)]

def fields : Fields InstallableProvider :=
  InstallableProvider.mk <$> .required "sourceId" .text <*> .required "pupName" .text
    <*> .required "pupVersion" .text <*> .required "location" .text

end InstallableProvider

namespace DependencyReport

/-- The JSON shape of a report; the error is left out if there is none. -/
def toJson (r : DependencyReport) : Value := .object <|
  [("interface", .string r.interface), ("version", .string r.range),
    ("optional", .bool r.isOptional), ("currentProvider", .option .string r.current),
    ("installedProviders", .list .string r.installed),
    ("installableProviders", .list InstallableProvider.toJson r.installable),
    ("defaultSource", .option Manifest.DefaultSource.toJson r.defaultSource)]
  ++ (r.error.map fun e => ("error", Value.string e)).toList

def fields : Fields DependencyReport :=
  DependencyReport.mk <$> .required "interface" .text <*> .required "version" .text
    <*> .required "optional" .flag <*> .nullable "currentProvider" .text
    <*> .required "installedProviders" (.list .text)
    <*> .required "installableProviders" (.list InstallableProvider.fields.decoder)
    <*> .nullable "defaultSource" Manifest.DefaultSource.fields.decoder
    <*> .optional "error" (.option .text) none

def decoder : Decoder DependencyReport := fields.decoder

end DependencyReport

end Kennel
