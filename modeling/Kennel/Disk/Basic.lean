import Kennel.Disk.Faults
import Kennel.Disk.Node
import Kennel.Disk.Path

/-!
# Operations on a disk

A disk is a tree, and paths lead through it component by component: a link on the way is followed,
two dots lead back, and each directory on the way must let its owner pass. `resolve` turns a path
into a location; the operations work on locations.

An operation that fails may have changed the disk before it failed, so operations keep the disk
beside their result in either case. Those that change the disk are told what the device refuses.
-/

namespace Kennel

/-- A disk is what its top directory holds; relative paths start there too. -/
abbrev Disk := Node

/-- An operation on a disk. What it did before it failed stays done. -/
abbrev DiskM := ExceptT DiskError (StateM Disk)

namespace Disk

/-- Runs an operation: its result, and the disk after it. -/
def run {α : Type} (op : DiskM α) (d : Disk) : Except DiskError α × Disk := ExceptT.run op d

/-- The longest name, in bytes. -/
def maxName : Nat := 255

/-- The length in bytes that a path must stay below. -/
def maxPath : Nat := 4096

/-- How many links are followed on the way of one path. -/
def maxLinks : Nat := 40

/-- The parts of a path as they are walked; a slash at the end asks for a directory. -/
def steps (path : String) : List String :=
  let parts := (Path.split path.toList).filter (· ≠ [])
  let last := if path.endsWith "/" then [['.']] else []
  (parts ++ last).map String.ofList

/-- Where a path leads: a location, and the node there unless it only could be made there. -/
abbrev Place := Location × Option Node

/-- Walks on from the directory at `here`. The last link is followed if `follow` says so; where a link
is followed, the walk goes on with `through`. -/
def walkUpTo (top : Disk) (follow : Bool) (through : Location → List String → Except SystemError Place)
    (here : Location) : List String → Except SystemError Place
  | [] => .ok (here, top.get? here)
  | name :: rest =>
    match top.get? here with
    | some (.dir mode entries) =>
      if !mode.canSearch then .error .permissionDenied
      else if name = "." then walkUpTo top follow through here rest
      else if name = ".." then walkUpTo top follow through here.dropLast rest
      else if maxName < name.utf8ByteSize then .error .nameTooLong
      else
        match entries.lookup name with
        | none => if rest = [] then .ok (here ++ [name], none) else .error .notFound
        | some (.link target) =>
          if rest = [] ∧ !follow then .ok (here ++ [name], some (.link target))
          else through (if target.startsWith "/" then [] else here) (steps target ++ rest)
        | some _ => walkUpTo top follow through (here ++ [name]) rest
    | some _ => .error .notADirectory
    | none => .error .notFound

/-- Walks on from the directory at `here` and follows so many links on the way. -/
def walk (top : Disk) (follow : Bool) : Nat → Location → List String → Except SystemError Place
  | 0 => walkUpTo top follow fun _ _ => .error .tooManyLinks
  | links + 1 => walkUpTo top follow (walk top follow links)

/-- The location that a path leads to. -/
def resolve (top : Disk) (follow : Bool) (path : String) : Except SystemError Place :=
  if path.isEmpty then .error .notFound
  else if maxPath ≤ path.utf8ByteSize then .error .nameTooLong
  else walk top follow maxLinks [] (steps path)

/-- Whether a path can be handed to the system. -/
def hasZero (path : String) : Bool := path.toList.contains '\x00'

/-- Fails with a refusal of the system. -/
def refuse {α : Type} (e : SystemError) : DiskM α := throw (.system e)

/-- Fails if the device refuses an access. -/
def pass (faults : Faults) (a : Access) : DiskM Unit :=
  match faults.refuses a with
  | some e => refuse (.device e)
  | none => return ()

def place (follow : Bool) (path : String) : DiskM Place := do
  if hasZero path then throw .zeroInPath
  match resolve (← get) follow path with
  | .ok p => return p
  | .error e => refuse e

/-- The node that a path leads to, links followed. -/
def look (path : String) : DiskM Node := do
  match ← place true path with
  | (_, some n) => return n
  | (_, none) => refuse .notFound

/-- Whether a path leads to a directory. -/
def isDir (d : Disk) (path : String) : Bool :=
  match (run (look path) d).1 with
  | .ok n => n.isDir
  | .error _ => false

def isFile (d : Disk) (path : String) : Bool :=
  match (run (look path) d).1 with
  | .ok n => n.isFile
  | .error _ => false

/-- Refuses unless entries of the directory around a location may be changed. -/
def checkWritable (l : Location) : DiskM Unit := do
  match (← get : Disk).get? l.dropLast with
  | some (.dir mode _) => if mode.canWrite && mode.canSearch then return () else refuse .permissionDenied
  | _ => refuse .notADirectory

def withoutEndSlashes (path : String) : String :=
  let trimmed := (path.toList.reverse.dropWhile (· = '/')).reverse
  if trimmed.isEmpty then path else String.ofList trimmed

/-- The empty directory that is made at a location. -/
def newDir (d : Disk) (l : Location) : Node :=
  .dir (Mode.newDirIn (((d.get? l.dropLast).map Node.mode).getD 0)) []

def makeDir (path : String) (faults : Faults := {}) : DiskM Unit := do
  match ← place false (withoutEndSlashes path) with
  | (_, some _) => refuse .alreadyExists
  | (l, none) =>
    checkWritable l
    pass faults (.makeDir path)
    modify fun d => d.set l (newDir d l)

/-- Makes a directory. One that is there is left as it is. -/
def ensureDir (path : String) (faults : Faults := {}) : DiskM Unit := do
  let d : Disk ← get
  match run (makeDir path faults) d with
  | (.ok (), after) => set after
  | (.error e, _) => if isDir d path then return () else throw e

/-- Whether a directory cannot be made because one around it is missing. -/
def lacksParent (d : Disk) (path : String) : Bool :=
  match (run (makeDir path) d).1 with
  | .error (.system .notFound) => true
  | _ => false

/-- Makes a directory, after those around it if one of them is missing. -/
def makeDirAfter (faults : Faults) (around : DiskM Unit) (path : String) : DiskM Unit := do
  if path.isEmpty then return ()
  let d : Disk ← get
  if lacksParent d path then around
  ensureDir path faults

/-- Makes a directory and those around it that are missing. The fuel bounds their number. -/
def makeDirsFrom (faults : Faults) : Nat → String → DiskM Unit
  | 0, path => makeDirAfter faults (refuse .notFound) path
  | fuel + 1, path =>
    makeDirAfter faults ((Path.parent? path).elim (refuse .notFound) (makeDirsFrom faults fuel)) path

/-- Makes a directory and those around it that are missing. One that is there is left as it is. -/
def makeDirs (path : String) (faults : Faults := {}) : DiskM Unit :=
  makeDirsFrom faults path.length path

def readBytes (path : String) : DiskM ByteArray := do
  match ← look path with
  | .file bytes mode => if mode.canRead then return bytes else refuse .permissionDenied
  | .dir _ _ => refuse .isADirectory
  | .link _ => refuse .notFound

def readText (path : String) : DiskM String := do
  match String.fromUTF8? (← readBytes path) with
  | some s => return s
  | none => throw .notText

/-- The entries of a directory. -/
def readDir (path : String) : DiskM (List (String × Node)) := do
  match ← look path with
  | .dir mode entries => if mode.canRead then return entries else refuse .permissionDenied
  | _ => refuse .notADirectory

def removeFile (path : String) (faults : Faults := {}) : DiskM Unit := do
  match ← place false path with
  | (_, none) => refuse .notFound
  | (l, some n) =>
    checkWritable l
    if n.isDir then refuse .isADirectory
    pass faults (.remove path)
    modify fun d => d.erase l

/-- Refuses unless a temporary file can be made in the directory at a path. -/
def checkTemporary (dir : String) : DiskM Unit := do
  let file := Path.join dir ".tmp"
  if hasZero dir then throw (.temporary file .invalidArgument)
  match resolve (← get) true dir with
  | .error e => throw (.temporary file e)
  | .ok (_, none) => throw (.temporary file .notFound)
  | .ok (_, some (.dir mode _)) =>
    if mode.canWrite && mode.canSearch then return () else throw (.temporary file .permissionDenied)
  | .ok _ => throw (.temporary file .notADirectory)

/-- A point at which the system can break off the replacement of a file. -/
inductive ReplacePoint where
  /-- Before there is a temporary file. -/
  | create
  /-- When so many bytes are in the temporary file. -/
  | write (count : Nat)
  /-- When the temporary file is complete and is to be made durable. -/
  | sync
  /-- When the temporary file is to take the place of the old one. -/
  | rename
  deriving DecidableEq, Inhabited

/-- A refusal that nothing on the disk calls for, such as that of a device which is full. -/
structure Breakdown where
  point : ReplacePoint
  error : SystemError
  deriving DecidableEq, Inhabited

/-- The point at which a device breaks off the replacement of the file at a path. -/
def Faults.breakdown (faults : Faults) (path : String) : Option Breakdown :=
  match faults.refuses (.create path), faults.refuses (.write path), faults.refuses (.rename path) with
  | some e, _, _ => some ⟨.create, .device e⟩
  | none, some e, _ => some ⟨.write (faults.room path), .device e⟩
  | none, none, some e => some ⟨.rename, .device e⟩
  | none, none, none => none

/-- A name for a temporary file that is longer than the names in use. -/
def temporaryName (used : List String) : String :=
  ".tmp" ++ String.ofList (List.replicate (used.flatMap String.toList).length '0')

/-- Makes an empty private file under a new name in the directory at a path: its location. -/
def makeTemporary (dir : String) : DiskM Location := do
  checkTemporary dir
  match ← place true dir with
  | (l, some (.dir _ entries)) =>
    let file := l ++ [temporaryName (entries.map (·.1))]
    modify fun d => d.set file (.file .empty Mode.privateFile)
    return file
  | _ => refuse .notADirectory

/-- Writes the contents of a temporary file, unless the system breaks off. -/
def fillTemporary (file : Location) (bytes : ByteArray) : Option Breakdown → DiskM Unit
  | some ⟨.write count, e⟩ => do
    modify fun d => d.set file (.file (bytes.extract 0 count) Mode.privateFile)
    refuse e
  | some ⟨.sync, e⟩ => do
    modify fun d => d.set file (.file bytes Mode.privateFile)
    refuse e
  | _ => modify fun d => d.set file (.file bytes Mode.privateFile)

/-- Lets a temporary file take the place of what is at a path, unless that is a directory or the
system breaks off. -/
def renameTemporary (file : Location) (path : String) (breakdown : Option Breakdown) :
    DiskM Unit := do
  if hasZero path then refuse .invalidArgument
  let (l, old) ← place false path
  checkWritable l
  if old.any Node.isDir then refuse .isADirectory
  match breakdown with
  | some ⟨.rename, e⟩ => refuse e
  | _ => modify fun d => (d.get? file).elim d ((d.erase file).set l)

/-- Runs an operation on a temporary file, and removes the file if it fails. -/
def orDiscard (file : Location) (op : DiskM Unit) : DiskM Unit := do
  let d : Disk ← get
  match run op d with
  | (.ok (), after) => set after
  | (.error e, after) =>
    set (after.erase file)
    throw e

/-- Puts a new private file with these contents at a path, by way of a temporary file in the
directory `dir` that is renamed. What was at the path is replaced, unless it is a directory. -/
def replaceFile (dir path : String) (bytes : ByteArray) (breakdown : Option Breakdown := none) :
    DiskM Unit := do
  if let some ⟨.create, e⟩ := breakdown then throw (.temporary (Path.join dir ".tmp") e)
  let file ← makeTemporary dir
  orDiscard file do
    fillTemporary file bytes breakdown
    renameTemporary file path breakdown

/-- Writes a file whole: the directories around it are made if they are missing, and the file is
either as it was or holds the new contents. -/
def writeAtomic (path contents : String) (faults : Faults := {}) : DiskM Unit := do
  let around := (Path.parent? path).getD "."
  makeDirs around faults
  replaceFile around path contents.toUTF8 (faults.breakdown path)

/-- Removes a file; one that is not there is no error. -/
def removeIfExists (path : String) (faults : Faults := {}) : DiskM Unit := do
  let d : Disk ← get
  match run (removeFile path faults) d with
  | (.ok (), after) => set after
  | (.error (.system .notFound), _) => return ()
  | (.error e, _) => throw e

/-- Changes permission bits. -/
def chmod (mode : Mode) (path : String) (faults : Faults := {}) : DiskM Unit := do
  match ← place true path with
  | (l, some n) =>
    pass faults (.chmod path)
    modify fun d => d.set l (n.withMode mode)
  | (_, none) => refuse .notFound

/-- Opens a file for writing: it is made with these permissions, or emptied and keeps its own. Its
location and its permissions. -/
def createFile (mode : Mode) (path : String) (faults : Faults := {}) : DiskM (Location × Mode) := do
  match ← place true path with
  | (_, some (.dir _ _)) => refuse .isADirectory
  | (l, some (.file _ old)) =>
    if !old.canWrite then refuse .permissionDenied
    pass faults (.create path)
    modify fun d => d.set l (.file .empty old.written)
    return (l, old.written)
  | (l, _) =>
    checkWritable l
    pass faults (.create path)
    modify fun d => d.set l (.file .empty mode)
    return (l, mode)

/-- Writes a file in place: one that is there is overwritten. -/
def writeBytes (path : String) (bytes : ByteArray) : DiskM Unit := do
  let (l, mode) ← createFile Mode.newFile path
  modify fun d => d.set l (.file bytes (mode.afterWriting bytes))

def makeLink (target path : String) (faults : Faults := {}) : DiskM Unit := do
  match ← place false path with
  | (_, some _) => refuse .alreadyExists
  | (l, none) =>
    checkWritable l
    pass faults (.makeLink path)
    modify fun d => d.set l (.link target)

/-- The target of a link. -/
def readLink (path : String) (faults : Faults := {}) : DiskM String := do
  match ← place false path with
  | (_, some (.link target)) =>
    pass faults (.read path)
    return target
  | (_, some _) => refuse .invalidArgument
  | (_, none) => refuse .notFound

end Disk

end Kennel
