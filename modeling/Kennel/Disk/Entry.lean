import Kennel.Disk.Copy

/-!
# Putting files in place

An entry says what is to stand at a path; it is put there together with the directories above it.
Whatever stands at a path can be taken away again.
-/

namespace Kennel.Disk

/-- What is to stand at a path. -/
inductive Entry where
  | file (bytes : ByteArray) (mode : Mode)
  | dir (mode : Mode)
  | link (target : String)

def makeParents (path : String) : DiskM Unit := makeDirs ((Path.parent? path).getD ".")

def put (path : String) : Entry → DiskM Unit
  | .file bytes mode => do
    makeParents path
    writeBytes path bytes
    chmod mode path
  | .dir mode => do
    makeDirs path
    chmod mode path
  | .link target => do
    makeParents path
    makeLink target path

/-- Takes away what stands at a path, a directory with all that is in it. -/
def takeAway (path : String) : DiskM Unit := do
  match ← place false path with
  | (_, some (.dir _ _)) => removeDirs path
  | _ => removeFile path

end Kennel.Disk
