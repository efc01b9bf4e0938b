/-!
# Paths

A path is a text whose components are separated by slashes. Repeated slashes and slashes at the
end make no difference, and a single dot is a component only where a relative path begins with it;
two dots are a component and are not resolved. One path is inside another, or the same, when the
components of the other one are the first ones of it.

None of this looks at the disk.
-/

namespace Kennel.Path

/-- The parts between the slashes, empty ones included. -/
def split : List Char → List (List Char)
  | [] => [[]]
  | '/' :: rest => [] :: split rest
  | c :: rest =>
    match split rest with
    | [] => [[c]]
    | part :: parts => (c :: part) :: parts

/-- The components of a path; the root of an absolute path is the component `/`. -/
def components (path : String) : List (List Char) :=
  let parts := split path.toList
  let absolute := path.toList.head? = some '/'
  let leading := if absolute then [['/']] else if parts.head? = some ['.'] then [['.']] else []
  leading ++ parts.filter fun p => p ≠ [] ∧ p ≠ ['.']

/-- Whether the path is `base` or inside it, by components. -/
def isWithin (path base : String) : Bool := (components base).isPrefixOf (components path)

/-- Whether an entry of a directory can have this name. -/
def isName (name : String) : Bool :=
  name ≠ "" && !name.toList.contains '/' && name ≠ "." && name ≠ ".."

/-- A path inside another one; an absolute path stands for itself. -/
def join (base path : String) : String :=
  if path.startsWith "/" then path
  else if base.isEmpty ∨ base.endsWith "/" then base ++ path
  else base ++ "/" ++ path

def ofComponents (components : List (List Char)) : String :=
  match components with
  | ['/'] :: rest => "/" ++ "/".intercalate (rest.map String.ofList)
  | components => "/".intercalate (components.map String.ofList)

/-- The path without its last component; nothing for the root and for the empty path. -/
def parent? (path : String) : Option String :=
  match (components path).reverse with
  | [] => none
  | [['/']] => none
  | _ :: before => some (ofComponents before.reverse)

/-- The last component, if it is a name. -/
def fileName? (path : String) : Option String :=
  match (components path).getLast? with
  | none => none
  | some name =>
    if name = ['/'] ∨ name = ['.'] ∨ name = ['.', '.'] then none else some (String.ofList name)

/-- The part of a name after its last dot, if a dot stands in it after the first character. -/
def extension? (name : String) : Option String :=
  let reversed := name.toList.reverse
  match reversed.dropWhile (· ≠ '.') with
  | [] => none
  | [_] => none
  | _ => some (String.ofList (reversed.takeWhile (· ≠ '.')).reverse)

end Kennel.Path
