import Kennel.Catalog.Disk

/-!
# Where catalogs come from

The manager asks one source for all catalogs. The source has an answer at hand, which may be that
the catalogs cannot be had, or it reads directories.
-/

namespace Kennel

inductive CatalogSource where
  /-- Always answers this: the catalogs, or why they cannot be had. -/
  | fixed (answer : Except String (List Catalog))
  /-- Reads the catalogs from directories and keeps them. -/
  | shelf (s : CatalogShelf)
  deriving Inhabited

namespace CatalogSource

/-- The catalogs, or why they cannot be had, and the source after it was asked. -/
def list (c : CatalogSource) (d : Disk) : Except String (List Catalog) × CatalogSource :=
  match c with
  | fixed answer => (answer, c)
  | shelf s =>
    let (catalogs, s) := s.list d false
    (.ok catalogs, .shelf s)

/-- The source as it is before it was asked for anything. -/
def fresh : CatalogSource → CatalogSource
  | fixed answer => .fixed answer
  | shelf s => .shelf { s with kept := none }

end CatalogSource

end Kennel
