import Kennel.Disk.Basic
import Kennel.Text.Hex

/-!
# Listings

The listing of a tree shows what each path below its top leads to: a file by its bytes, as text if
they are one and in hexadecimal digits otherwise, a link by its target, and permissions as octal
numbers.
-/

namespace Kennel

open Json

/-- Permission bits as an octal number. -/
def Mode.toOctal (m : Mode) : String := String.ofList (Nat.toDigits 8 m)

/-- The permission bits that an octal number denotes. -/
def Mode.ofOctal (s : String) : Mode := s.toList.foldl (fun n c => n * 8 + (c.toNat - 48)) 0

/-- The entry of a node in a listing. -/
def Node.toJson : Node → Value
  | .file bytes mode =>
    let shown := match String.fromUTF8? bytes with
      | some s => ("text", Value.string s)
      | none => ("hex", .string (Hex.ofBytes bytes))
    .object [shown, ("mode", .string mode.toOctal)]
  | .link target => .object [("link", .string target)]
  | .dir mode _ => .object [("dir", .string mode.toOctal)]

/-- The listing of the tree at a path, without entries if there is nothing. -/
def Disk.listing (d : Disk) (path : String) : Value :=
  match (Disk.run (Disk.look path) d).1 with
  | .ok n => .object (n.descendants.map fun (l, n) => ("/".intercalate l, n.toJson))
  | .error _ => .object []

end Kennel
