import Kennel.Catalog.Basic
import Kennel.Disk.Basic
import Kennel.Manifest.Wire
import Kennel.Settings.Basic

/-!
# Catalogs on disk

A catalog directory holds a directory for each pup with its manifest in it. Directories without a
manifest that can be read and parsed are passed over, and a catalog directory that cannot be read
is a catalog without pups. The pups of a catalog are in the order of their names.

Catalogs are read once and kept; they are read again when that is asked for.
-/

namespace Kennel

namespace Catalog

def manifestFile : String := "manifest.json"

/-- The pup whose directory is at a path, if its manifest can be read. -/
def readPup (d : Disk) (path : String) : Option CatalogPup :=
  let file := Path.join path manifestFile
  if !Disk.isFile d file then none
  else
    match (Disk.run (Disk.readBytes file) d).1 with
    | .error _ => none
    | .ok bytes =>
      (Json.decodeBytes Manifest.decoder bytes).toOption.map fun m => ⟨m.name, m.version, path, m⟩

/-- The pups of the catalog directory at a path, in the order of their names. -/
def readPups (d : Disk) (path : String) : List CatalogPup :=
  match (Disk.run (Disk.readDir path) d).1 with
  | .error _ => []
  | .ok entries =>
    (entries.filterMap fun e => readPup d (Path.join path e.1)).mergeSort
      fun a b => decide (a.name ≤ b.name)

def ofDir (d : Disk) (c : Settings.CatalogDir) : Catalog := ⟨c.id, c.path, readPups d c.path⟩

end Catalog

/-- Catalog directories, and their catalogs once they are read. -/
structure CatalogShelf where
  dirs : List Settings.CatalogDir
  kept : Option (List Catalog) := none
  deriving Inhabited

namespace CatalogShelf

/-- The catalogs, and the shelf that keeps them. They are read if they are not kept yet, or if
`refresh` says so. -/
def list (s : CatalogShelf) (d : Disk) (refresh : Bool) : List Catalog × CatalogShelf :=
  match s.kept, refresh with
  | some kept, false => (kept, s)
  | _, _ =>
    let read := s.dirs.map (Catalog.ofDir d)
    (read, { s with kept := some read })

end CatalogShelf

end Kennel
