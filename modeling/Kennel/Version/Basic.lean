/-!
# Versions

A version has three numbers, a pre-release part and build metadata. A version without a
pre-release part is a release and comes after all pre-releases of the same numbers. Pre-releases
are compared identifier by identifier: numeric ones as numbers and before all others, the others as
texts, and of two of which one continues the other the longer comes later.
-/

namespace Kennel

/-- The identifiers between the dots of a pre-release part; a release has none. -/
abbrev PreRelease := List (List Char)

/-- A version. The build metadata has no part in its order. -/
structure Version where
  major : Nat
  minor : Nat
  patch : Nat
  pre : PreRelease := []
  deriving DecidableEq

/-- Compares two texts by the code points of their characters. -/
def compareChars : List Char → List Char → Ordering
  | [], [] => .eq
  | [], _ :: _ => .lt
  | _ :: _, [] => .gt
  | a :: as, b :: bs => if a < b then .lt else if b < a then .gt else compareChars as bs

/-- Compares two identifiers: numbers come first, in their order. -/
def compareIdentifiers (a b : List Char) : Ordering :=
  match a.all Char.isDigit, b.all Char.isDigit with
  | false, true => .gt
  | true, false => .lt
  | false, false => compareChars a b
  | true, true => (compare a.length b.length).then (compareChars a b)

namespace PreRelease

/-- Compares two lists of identifiers; a longer list comes after what it begins with. -/
def compareLists : PreRelease → PreRelease → Ordering
  | [], [] => .eq
  | [], _ :: _ => .lt
  | _ :: _, [] => .gt
  | a :: as, b :: bs => (compareIdentifiers a b).then (compareLists as bs)

/-- Compares two pre-release parts; a release comes last. -/
def order (a b : PreRelease) : Ordering :=
  match a, b with
  | [], [] => .eq
  | [], _ => .gt
  | _, [] => .lt
  | a, b => compareLists a b

end PreRelease

end Kennel
