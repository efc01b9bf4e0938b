import Kennel.Manifest.Basic

/-!
# Catalogs

A catalog lists pups that can be installed: under which name and version, from where, and with
which manifest.
-/

namespace Kennel

structure CatalogPup where
  name : String
  version : String
  location : String
  manifest : Manifest
  deriving DecidableEq, Inhabited

/-- A list of pups that can be installed from one source. -/
structure Catalog where
  sourceId : String
  location : String
  pups : List CatalogPup
  deriving DecidableEq, Inhabited

end Kennel
