import Kennel.Disk.Error

/-!
# Faults of a device

A device that is full or broken refuses what the tree on it would allow. Which accesses it refuses is
said by `Faults`, and an operation asks it once the tree has nothing against the access. No fault says
that something is not there.
-/

namespace Kennel.Disk

/-- What a device is asked to do with what a path leads to. -/
inductive Access where
  | makeDir (path : String)
  | makeLink (path : String)
  /-- A file is made, or emptied. -/
  | create (path : String)
  | write (path : String)
  | rename (path : String)
  | chmod (path : String)
  /-- The names in a directory are read. -/
  | list (path : String)
  /-- The permissions are read. -/
  | look (path : String)
  /-- The bytes of a file are read, or the target of a link. -/
  | read (path : String)
  /-- A directory is opened to remove what is in it. -/
  | clear (path : String)
  | remove (path : String)
  deriving DecidableEq

/-- What a device refuses. -/
structure Faults where
  refuses : Access → Option DeviceError := fun _ => none
  /-- How many bytes are in the file at a path when writing to it is refused. -/
  room : String → Nat := fun _ => 0

end Kennel.Disk
