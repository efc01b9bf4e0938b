import Kennel.Disk.Basic
import Kennel.Record.Wire

/-!
# The store of records

Each record is kept in a file of its own, named after the pup's ID, and is replaced as a whole.
Loading takes every file of such a name that can be read and parsed, and passes over the others,
so that one broken file does not keep the rest from loading. Records are returned in ascending
order of their addresses.
-/

namespace Kennel

/-- A directory that holds the records. -/
structure Store where
  dir : String
  deriving DecidableEq, Inhabited

namespace Store

/-- Opens a store; its directory is made if it is missing. -/
def openAt (dir : String) : DiskM Store := do
  Disk.makeDirs dir
  return ⟨dir⟩

def fileName (id : String) : String := "pup_" ++ id ++ ".json"

def path (s : Store) (id : String) : String := Path.join s.dir (fileName id)

/-- Writes a record; the system can break off at any point of it. -/
def save (s : Store) (r : Record) (breakdown : Option Disk.Breakdown := none) : DiskM Unit :=
  Disk.replaceFile s.dir (s.path r.id) r.storedText.toUTF8 breakdown

/-- Removes a record; one that is not there is no error. -/
def delete (s : Store) (id : String) : DiskM Unit := Disk.removeIfExists (s.path id)

def isRecordName (name : String) : Bool :=
  name.startsWith "pup_" && Path.extension? name == some "json"

/-- The record in a file, if it can be read and parsed. -/
def loadFile (d : Disk) (path : String) : Option Record :=
  match (Disk.run (Disk.readBytes path) d).1 with
  | .ok bytes => (Json.decodeBytes Record.decoder bytes).toOption
  | .error _ => none

def loadAll (s : Store) : DiskM (List Record) := do
  let entries ← Disk.readDir s.dir
  let d ← get
  let names := (entries.map (·.1)).filter isRecordName
  return Record.sortByAddress (names.filterMap fun name => loadFile d (Path.join s.dir name))

end Store

end Kennel
