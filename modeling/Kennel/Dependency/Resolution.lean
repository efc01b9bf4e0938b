import Kennel.Catalog.Basic
import Kennel.Dependency.Report
import Kennel.Record.Basic
import Kennel.Version.Range

/-!
# Resolution of dependencies

For each dependency of a pup, in the order of its manifest: the installed pups that offer the
interface at a version in range, and the pups of the catalogs that do and are not installed from
the same source under the same name. A range that cannot be read makes that one report an error
and leaves the others as they are; the same holds of catalogs that cannot be had, which leave the
installed providers in the report.
-/

namespace Kennel

def Manifest.Interface.provides (i : Manifest.Interface) (name : String) (range : Range) : Bool :=
  i.name == name &&
    match Version.read i.version with
    | .ok v => range.contains v
    | .error _ => false

def Manifest.offers (m : Manifest) (interface : String) (range : Range) : Bool :=
  m.interfaces.any (·.provides interface range)

namespace DependencyReport

/-- The report on a dependency whose range cannot be read. -/
def unreadable (d : Manifest.Dependency) (e : VersionError) : DependencyReport where
  interface := d.interface
  range := d.range
  isOptional := d.isOptional
  error := some ("invalid version range: " ++ e.message)

/-- The installed pups other than the record's own that provide a dependency. -/
def providersOf (r : Record) (installed : List Record) (interface : String) (range : Range) :
    List Record :=
  installed.filter fun p => p.id != r.id && p.manifest.offers interface range

def isInstalled (providers : List Record) (sourceId name : String) : Bool :=
  providers.any fun p => p.source.id == sourceId && p.name == name

/-- The pups of a catalog that would provide a dependency and are not among its providers. -/
def installableFrom (providers : List Record) (interface : String) (range : Range)
    (c : Catalog) : List InstallableProvider :=
  (c.pups.filter fun p =>
      !isInstalled providers c.sourceId p.name && p.manifest.offers interface range).map fun p =>
    ⟨c.sourceId, p.name, p.version, p.location⟩

def ofDependency (r : Record) (installed : List Record) (catalogs : Except String (List Catalog))
    (d : Manifest.Dependency) : DependencyReport :=
  match Range.read d.range with
  | .error e => unreadable d e
  | .ok range =>
    let providers := providersOf r installed d.interface range
    { interface := d.interface
      range := d.range
      isOptional := d.isOptional
      current := r.providers.get? d.interface
      installed := providers.map (·.id)
      installable := match catalogs with
        | .ok lists => lists.flatMap (installableFrom providers d.interface range)
        | .error _ => []
      defaultSource := d.defaultSource
      error := match catalogs with
        | .ok _ => none
        | .error message => some ("catalogs unavailable: " ++ message) }

end DependencyReport

/-- The reports on all dependencies of a record, in the order of its manifest. -/
def resolveDependencies (r : Record) (installed : List Record)
    (catalogs : Except String (List Catalog)) : List DependencyReport :=
  r.manifest.dependencies.map (DependencyReport.ofDependency r installed catalogs)

end Kennel
