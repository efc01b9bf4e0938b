import Kennel.Catalog.Disk

/-!
# The JSON shape of catalogs
-/

namespace Kennel

open Json

/-- The JSON shape of a pup that is offered. -/
def CatalogPup.toJson (p : CatalogPup) : Value := .object
  [("name", .string p.name), ("version", .string p.version), ("location", .string p.location),
    ("manifest", p.manifest.toJson)]

def Catalog.toJson (c : Catalog) : Value := .object
  [("source_id", .string c.sourceId), ("location", .string c.location),
    ("pups", .list CatalogPup.toJson c.pups)]

end Kennel
