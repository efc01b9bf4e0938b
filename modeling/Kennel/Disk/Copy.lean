import Kennel.Disk.Basic

/-!
# Copying and removing trees

`copyDir` copies a directory with everything in it. It walks through the tree, makes each directory
before what is in it, and makes links and files as it meets them. Directories get their permissions
when everything is copied, the inner ones before those around them, so that directories that may not
be written can be filled. The copy stops at the first thing that is refused, and what was copied so
far stays.

`removeDirs` removes a directory with everything in it and stops at the first thing that may not
be removed. A link to a directory is removed as a link.
-/

namespace Kennel

namespace Node

mutual

/-- Removes everything in a node that was found at `path`: nothing if that succeeds, or the refusal and
what is left. -/
def clear (faults : Disk.Faults) (path : String) : Node → Option (SystemError × Node)
  | file _ _ => none
  | link _ => none
  | dir mode entries =>
    if !mode.canRead then some (.permissionDenied, dir mode entries)
    else
      match faults.refuses (.clear path) with
      | some e => some (.device e, dir mode entries)
      | none =>
        (clearAll faults path (mode.canWrite && mode.canSearch) mode.canSearch entries).map
          fun (e, left) => (e, dir mode left)
termination_by structural n => n

/-- Removes entries of the directory at `path`, of which entries may be changed or not, and which lets
its owner pass or does not: the refusal and the entries that are left. -/
def clearAll (faults : Disk.Faults) (path : String) (writable searchable : Bool) :
    List (String × Node) → Option (SystemError × List (String × Node))
  | [] => none
  | (name, n) :: rest =>
    let here := Path.join path name
    if !searchable then some (.permissionDenied, (name, n) :: rest)
    else
      match n.clear faults here with
      | some (e, left) => some (e, (name, left) :: rest)
      | none =>
        let refused := if writable then (faults.refuses (.remove here)).map .device
          else some .permissionDenied
        match refused with
        | none => clearAll faults path writable searchable rest
        | some e =>
          let left := match n with
            | dir mode _ => dir mode []
            | n => n
          some (e, (name, left) :: rest)
termination_by structural l => l

end

mutual

def fileBytes : Node → Nat
  | file bytes _ => bytes.size
  | link _ => 0
  | dir mode entries => if mode.canRead && mode.canSearch then fileBytesAll entries else 0
termination_by structural n => n

def fileBytesAll : List (String × Node) → Nat
  | [] => 0
  | (_, n) :: rest => n.fileBytes + fileBytesAll rest
termination_by structural l => l

end

end Node

namespace Disk

/-! ## Copying -/

/-- An operation of a walk that has come to a path: the system's refusals are reported with the path. -/
def onWalk {α : Type} (path : String) (known : Bool) (op : DiskM α) : DiskM α :=
  ExceptT.adapt (DiskError.onWalk path known) op

/-- The entries of a directory as a walk meets them. A name that no entry can have means that the
directory is broken. -/
def listDir (path : String) (faults : Faults) : DiskM (List (String × Node)) := do
  let entries ← readDir path
  pass faults (.list path)
  if entries.all fun e => Path.isName e.1 then return entries else refuse (.device .inputOutput)

/-- The permissions of what a path leads to, which may be a link. -/
def modeAt (path : String) (faults : Faults) : DiskM Mode := do
  match ← place false path with
  | (_, some n) =>
    pass faults (.look path)
    return n.mode
  | (_, none) => refuse .notFound

/-- Makes a file with these permissions and these bytes. It gets the permissions before it is written
to. -/
def writeCopy (bytes : ByteArray) (mode : Mode) (dst : String) (faults : Faults) : DiskM Unit := do
  let (l, _) ← createFile (mode.without Mode.masked) dst faults
  pass faults (.chmod dst)
  match faults.refuses (.write dst) with
  | none => modify fun d => d.set l (.file bytes (mode.afterWriting bytes))
  | some e =>
    let part := bytes.extract 0 (faults.room dst)
    modify fun d => d.set l (.file part (mode.afterWriting part))
    refuse (.device e)

/-- Copies a file. -/
def copyFile (src dst : String) (faults : Faults) : DiskM Unit := do
  match ← look src with
  | .file bytes mode =>
    if !mode.canRead then refuse .permissionDenied
    pass faults (.read src)
    writeCopy bytes mode dst faults
  | _ => refuse .invalidArgument

/-- Copies the node that a walk meets at `src`, and what is in it with `within`, to which the paths of a
directory and of its copy are given. The paths of the directories that were made, each with the
permissions it is to get. -/
def copyNode (faults : Faults) (within : String → String → DiskM (List (String × Mode)))
    (src dst : String) : Node → DiskM (List (String × Mode))
  | .dir _ _ => do
    makeDirs dst faults
    let mode ← onWalk src true (modeAt src faults)
    return (dst, mode) :: (← within src dst)
  | .link _ => do
    makeLink (← readLink src faults) dst faults
    return []
  | .file _ _ => do
    copyFile src dst faults
    return []

/-- Copies entries in order. -/
def copyEntries (faults : Faults) (within : String → String → DiskM (List (String × Mode)))
    (src dst : String) : List (String × Node) → DiskM (List (String × Mode))
  | [] => return []
  | (name, n) :: rest => do
    let own ← copyNode faults within (Path.join src name) (Path.join dst name) n
    let later ← copyEntries faults within src dst rest
    return own ++ later

/-- Copies what is in the directory at `src`. The fuel bounds how deep the walk goes: each level makes
the path longer, and a path that is too long leads nowhere. -/
def copyWithin (faults : Faults) : Nat → String → String → DiskM (List (String × Mode))
  | 0, src, _ => throw (.walk src .nameTooLong false)
  | fuel + 1, src, dst => do
    let entries ← onWalk src false (listDir src faults)
    copyEntries faults (copyWithin faults fuel) src dst entries

/-- Sets the permissions of directories in order. -/
def setModes (faults : Faults) : List (String × Mode) → DiskM Unit
  | [] => return ()
  | (path, mode) :: rest => do
    chmod mode path faults
    setModes faults rest

/-- Copies the directory at `src`, which may be a link to one, to `dst`. -/
def copyDir (src dst : String) (faults : Faults := {}) : DiskM Unit := do
  makeDirs dst faults
  let top ← look src
  let modes ← if top.isDir then copyWithin faults maxPath src dst else pure []
  setModes faults ((dst, top.mode) :: modes).reverse

/-! ## Removing -/

/-- Removes a directory with everything in it. -/
def removeDirs (path : String) (faults : Faults := {}) : DiskM Unit := do
  match ← place false path with
  | (_, none) => refuse .notFound
  | (l, some (.link _)) =>
    checkWritable l
    pass faults (.remove path)
    modify fun d => d.erase l
  | (_, some (.file _ _)) => refuse .notADirectory
  | (l, some (.dir mode entries)) =>
    match (Node.dir mode entries).clear faults path with
    | some (e, left) =>
      modify fun d => d.set l left
      refuse e
    | none =>
      modify fun d => d.set l (.dir mode [])
      checkWritable l
      pass faults (.remove path)
      modify fun d => d.erase l

/-- Puts the copy at `snapshot` in place of what is at `live`. -/
def restoreDir (snapshot live : String) (faults : Faults := {}) : DiskM Unit := do
  let d : Disk ← get
  match run (removeDirs live faults) d with
  | (.ok (), after) => set after
  | (.error (.system .notFound), after) => set after
  | (.error e, after) =>
    set after
    throw e
  copyDir snapshot live faults

/-- The bytes of all files below a path that can be seen. A link at the path itself is followed to
a directory. -/
def usage (d : Disk) (path : String) : Nat :=
  match (run (place false path) d).1 with
  | .ok (_, some (.link _)) =>
    match (run (look path) d).1 with
    | .ok (.dir mode entries) => (Node.dir mode entries).fileBytes
    | _ => 0
  | .ok (_, some n) => n.fileBytes
  | _ => 0

end Disk

end Kennel
