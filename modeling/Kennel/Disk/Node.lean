/-!
# File trees

A node is a file with its bytes, a symbolic link with its target, or a directory with its entries
in ascending order of their names. Files and directories have permission bits; those of the owner
decide what may be done, since every node has one owner. The owner has no further rights: who writes
to a file that runs in the name of its owner or its group takes that from it (`Mode.written`).

A location is the list of names that leads from the top of a tree to a node, through directories
and never through links. `get?` is the view of a tree: `set` and `erase` change it at one location.
-/

namespace Kennel

/-- Permission bits, with those above them: files that run in the name of their owner or group. -/
abbrev Mode := Nat

namespace Mode

/-- The owner may read. -/
def canRead (m : Mode) : Bool := m.testBit 8

/-- The owner may write. -/
def canWrite (m : Mode) : Bool := m.testBit 7

/-- The owner may pass through the directory. -/
def canSearch (m : Mode) : Bool := m.testBit 6

/-- The bits of a new directory. -/
def newDir : Mode := 0o755

/-- The bits of a new file that others may read. -/
def newFile : Mode := 0o644

/-- The bits of a file that only its owner may read. -/
def privateFile : Mode := 0o600

/-- The file runs in the name of its owner. -/
def setUser : Mode := 0o4000

/-- The file runs in the name of its group; in a directory, what is made in it belongs to the group of
the directory. -/
def setGroup : Mode := 0o2000

/-- The bits that a new file does not get unless its permissions are set. -/
def masked : Mode := 0o022

/-- The bits without some of them. -/
def without (m bits : Mode) : Mode := m ^^^ (m &&& bits)

/-- The bits of a file that was written to: it does not run in another name any more. The bit of the
group stays where the group may not run the file. -/
def written (m : Mode) : Mode := m.without (if m.testBit 3 then setUser ||| setGroup else setUser)

/-- The bits of a file that these bytes were written to. -/
def afterWriting (m : Mode) (bytes : ByteArray) : Mode := if bytes.isEmpty then m else m.written

/-- The bits of a new directory in a directory with these bits. -/
def newDirIn (around : Mode) : Mode := newDir ||| (around &&& setGroup)

end Mode

/-- A file, a symbolic link, or a directory. -/
inductive Node where
  | file (bytes : ByteArray) (mode : Mode)
  | link (target : String)
  | dir (mode : Mode) (entries : List (String × Node))
  deriving Inhabited

/-- The names from the top of a tree to a node. -/
abbrev Location := List String

namespace Node

def emptyDir : Node := .dir Mode.newDir []

def isDir : Node → Bool
  | dir _ _ => true
  | _ => false

def isFile : Node → Bool
  | file _ _ => true
  | _ => false

def mode : Node → Mode
  | file _ mode => mode
  | link _ => 0o777
  | dir mode _ => mode

/-- The entries with `node` under `name`, in place of what stood there. -/
def putEntry (name : String) (node : Node) (entries : List (String × Node)) :
    List (String × Node) :=
  entries.filter (·.1 < name) ++ (name, node) :: entries.filter (name < ·.1)

/-- The entries without the one under `name`. -/
def dropEntry (name : String) (entries : List (String × Node)) : List (String × Node) :=
  entries.filter (·.1 != name)

def get? : Node → Location → Option Node
  | n, [] => some n
  | dir _ entries, name :: rest =>
    match entries.lookup name with
    | some child => child.get? rest
    | none => none
  | _, _ :: _ => none

/-- The tree with `new` at a location whose directory is in the tree. -/
def set : Node → Location → Node → Node
  | _, [], new => new
  | dir mode entries, [name], new => dir mode (putEntry name new entries)
  | dir mode entries, name :: rest, new =>
    match entries.lookup name with
    | some child => dir mode (putEntry name (child.set rest new) entries)
    | none => dir mode entries
  | n, _ :: _, _ => n

def erase : Node → Location → Node
  | n, [] => n
  | dir mode entries, [name] => dir mode (dropEntry name entries)
  | dir mode entries, name :: rest =>
    match entries.lookup name with
    | some child => dir mode (putEntry name (child.erase rest) entries)
    | none => dir mode entries
  | n, _ :: _ => n

/-- The node with other permission bits. -/
def withMode (mode : Mode) : Node → Node
  | file bytes _ => file bytes mode
  | link target => link target
  | dir _ entries => dir mode entries

mutual

/-- Everything below a node, each with its location below it, directories before what is in
them. -/
def descendants : Node → List (Location × Node)
  | file _ _ => []
  | link _ => []
  | dir _ entries => descendantsOf entries
termination_by structural n => n

/-- The entries and everything below them. -/
def descendantsOf : List (String × Node) → List (Location × Node)
  | [] => []
  | (name, n) :: rest =>
    ([name], n) :: n.descendants.map (fun d => (name :: d.1, d.2)) ++ descendantsOf rest
termination_by structural l => l

end

end Node

end Kennel
