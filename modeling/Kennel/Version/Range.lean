import Kennel.Version.Read

/-!
# Ranges of versions

A range is a list of comparators with commas between them, at most 32; a version is in the range
if it satisfies all of them. A lone wildcard stands for the range of all releases. A pre-release is
in a range only if, beside that, one of the comparators is a pre-release of the same three
numbers.

A comparator has an operator and a version of which the later numbers may be left out, or be
wildcards. Without an operator it admits what is compatible: versions that change nothing left of
and including its first number that is not zero.
-/

namespace Kennel

/-- How a version is compared. -/
inductive RangeOp where
  | exact
  | greater
  | greaterEq
  | less
  | lessEq
  | tilde
  | caret
  | wildcard
  deriving DecidableEq

/-- A condition on versions. -/
structure Comparator where
  op : RangeOp
  major : Nat
  minor : Option Nat
  patch : Option Nat
  pre : PreRelease
  deriving DecidableEq

/-- A conjunction of conditions on versions. -/
structure Range where
  comparators : List Comparator
  deriving DecidableEq

namespace Comparator

/-- The numbers that are given agree, and so does the pre-release part. -/
def matchesExact (c : Comparator) (v : Version) : Bool :=
  v.major == c.major && (c.minor.all (v.minor == ·)) && (c.patch.all (v.patch == ·))
    && v.pre == c.pre

/-- At the first number where they differ the version is the one on the side asked for; it is on
neither if a number is not given. -/
def matchesBeyond (side : Ordering) (c : Comparator) (v : Version) : Bool :=
  if v.major ≠ c.major then compare v.major c.major == side
  else match c.minor with
    | none => false
    | some minor =>
      if v.minor ≠ minor then compare v.minor minor == side
      else match c.patch with
        | none => false
        | some patch =>
          if v.patch ≠ patch then compare v.patch patch == side
          else v.pre.order c.pre == side

def preNotBefore (c : Comparator) (v : Version) : Bool := v.pre.order c.pre != .lt

/-- The numbers given before the patch agree, and the version is not before the comparator. -/
def matchesTilde (c : Comparator) (v : Version) : Bool :=
  if v.major ≠ c.major then false
  else if !c.minor.all (v.minor == ·) then false
  else match c.patch with
    | some patch => if v.patch ≠ patch then patch < v.patch else c.preNotBefore v
    | none => c.preNotBefore v

/-- The version is not before the comparator, and up to the comparator's first number that is not
zero the numbers agree. -/
def matchesCaret (c : Comparator) (v : Version) : Bool :=
  if v.major ≠ c.major then false
  else match c.minor, c.patch with
    | none, _ => true
    | some minor, none => if 0 < c.major then minor ≤ v.minor else v.minor == minor
    | some minor, some patch =>
      if 0 < c.major then
        if v.minor ≠ minor then minor < v.minor
        else if v.patch ≠ patch then patch < v.patch
        else c.preNotBefore v
      else if 0 < minor then
        if v.minor ≠ minor then false
        else if v.patch ≠ patch then patch < v.patch
        else c.preNotBefore v
      else if v.minor ≠ minor ∨ v.patch ≠ patch then false
      else c.preNotBefore v

/-- Whether the version satisfies the condition, pre-releases admitted. -/
def admits (c : Comparator) (v : Version) : Bool :=
  match c.op with
  | .exact | .wildcard => c.matchesExact v
  | .greater => c.matchesBeyond .gt v
  | .greaterEq => c.matchesExact v || c.matchesBeyond .gt v
  | .less => c.matchesBeyond .lt v
  | .lessEq => c.matchesExact v || c.matchesBeyond .lt v
  | .tilde => c.matchesTilde v
  | .caret => c.matchesCaret v

def namesPreReleaseOf (c : Comparator) (v : Version) : Bool :=
  c.major == v.major && c.minor == some v.minor && c.patch == some v.patch && c.pre != []

end Comparator

namespace Range

def contains (r : Range) (v : Version) : Bool :=
  r.comparators.all (·.admits v) &&
    (v.pre == [] || r.comparators.any (·.namesPreReleaseOf v))

/-- Drops plain blanks. -/
def skipSpaces : List Char → List Char
  | ' ' :: rest => skipSpaces rest
  | s => s

/-- The wildcard at the front, if there is one. -/
def wildcard? : List Char → Option (Char × List Char)
  | '*' :: rest => some ('*', rest)
  | 'x' :: rest => some ('x', rest)
  | 'X' :: rest => some ('X', rest)
  | _ => none

/-- The operator at the front, if there is one. -/
def readOp : List Char → Option RangeOp × List Char
  | '=' :: rest => (some .exact, rest)
  | '>' :: '=' :: rest => (some .greaterEq, rest)
  | '>' :: rest => (some .greater, rest)
  | '<' :: '=' :: rest => (some .lessEq, rest)
  | '<' :: rest => (some .less, rest)
  | '~' :: rest => (some .tilde, rest)
  | '^' :: rest => (some .caret, rest)
  | s => (none, s)

/-- A number of a comparator after the first one. -/
inductive Number where
  | missing
  | wildcard
  | given (n : Nat)
  deriving DecidableEq

/-- The number, if it is given. -/
def Number.value? : Number → Option Nat
  | given n => some n
  | _ => none

/-- Reads a dot and a number or a wildcard, if there is a dot. After a wildcard no number may
follow. -/
def readLaterNumber (part : VersionPart) (afterWildcard : Bool) :
    List Char → Except VersionError (Number × List Char)
  | '.' :: rest =>
    match wildcard? rest with
    | some (_, rest) => .ok (.wildcard, rest)
    | none =>
      if afterWildcard then .error .unexpectedAfterWildcard
      else (Version.readNumber part rest).map fun (n, rest) => (.given n, rest)
  | s => .ok (.missing, s)

/-- Reads a comparator: it, the part read last, and the rest. -/
def readComparator (s : List Char) : Except VersionError (Comparator × VersionPart × List Char) := do
  let (op, s) := readOp s
  let (major, s) ← Version.readNumber .major (skipSpaces s)
  let (minor, s) ← readLaterNumber .minor false s
  let (patch, s) ← readLaterNumber .patch (minor = .wildcard) s
  let op := op.getD (if minor = .wildcard ∨ patch = .wildcard then .wildcard else .caret)
  let (pre, part, s) ← match patch with
    | .given _ => Version.readSuffix s
    | .wildcard => pure ([], VersionPart.patch, s)
    | .missing => pure ([], if minor = .missing then VersionPart.major else .minor, s)
  .ok (⟨op, major, minor.value?, patch.value?, pre⟩, part, skipSpaces s)

/-- Reads comparators with commas between them, `count` at most. A wildcard in place of a
comparator is refused as such where nothing or a comma follows it. -/
def readComparators : Nat → List Char → Except VersionError (List Comparator)
  | 0, _ => .error .tooManyComparators
  | count + 1, s =>
    match readComparator s with
    | .error e =>
      match wildcard? s with
      | some (c, rest) =>
        match skipSpaces rest with
        | [] => .error (.wildcardNotAlone c)
        | ',' :: _ => .error (.wildcardNotAlone c)
        | _ => .error e
      | none => .error e
    | .ok (c, _, []) => .ok [c]
    | .ok (c, _, ',' :: rest) => (readComparators count (skipSpaces rest)).map (c :: ·)
    | .ok (_, part, found :: _) => .error (.expectedComma part found)

def read (text : String) : Except VersionError Range :=
  let s := skipSpaces text.toList
  match wildcard? s with
  | some (c, rest) =>
    match skipSpaces rest with
    | [] => .ok ⟨[]⟩
    | ',' :: _ => .error (.wildcardNotAlone c)
    | _ => .error .unexpectedAfterWildcard
  | none => (readComparators 32 s).map Range.mk

end Range

end Kennel
