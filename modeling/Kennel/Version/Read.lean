import Kennel.Version.Basic
import Kennel.Version.Error

/-!
# Reading versions

Three numbers with dots between them, each without a leading zero and below 2 to the power 64;
then, after a hyphen, pre-release identifiers, and after a plus sign build identifiers, with dots
between them. Identifiers are made of ASCII letters, digits and hyphens; a pre-release identifier
that is a number has no leading zero.
-/

namespace Kennel

namespace Version

/-- Reads one of the three numbers, given its value so far and how many digits were seen. -/
def readNumberFrom (part : VersionPart) (value seen : Nat) :
    List Char → Except VersionError (Nat × List Char)
  | [] => if seen = 0 then .error (.unexpectedEnd part) else .ok (value, [])
  | c :: rest =>
    if c.isDigit then
      if value = 0 ∧ 0 < seen then .error (.leadingZero part)
      else
        let next := value * 10 + (c.toNat - 48)
        if next < 2 ^ 64 then readNumberFrom part next (seen + 1) rest
        else .error (.overflow part)
    else if seen = 0 then .error (.unexpectedChar part c)
    else .ok (value, c :: rest)

def readNumber (part : VersionPart) (s : List Char) : Except VersionError (Nat × List Char) :=
  readNumberFrom part 0 0 s

def readDot (part : VersionPart) : List Char → Except VersionError (List Char)
  | [] => .error (.unexpectedEnd part)
  | '.' :: rest => .ok rest
  | c :: _ => .error (.unexpectedCharAfter part c)

/-- Whether the character may stand in an identifier. -/
def isIdentifierChar (c : Char) : Bool := c.isAlpha || c.isDigit || c = '-'

/-- Whether an identifier is a number of several digits that begins with zero. -/
def hasLeadingZero (segment : List Char) : Bool :=
  segment.all Char.isDigit && 1 < segment.length && segment.head? = some '0'

/-- Reads identifiers with dots between them. `done` holds those before, latest first, and
`segment` the characters of this one so far, latest first. Without a single character nothing is
read. -/
def readIdentifiersFrom (part : VersionPart) (done : List (List Char)) (segment : List Char) :
    List Char → Except VersionError (List (List Char) × List Char)
  | [] => finish []
  | c :: rest =>
    if isIdentifierChar c then readIdentifiersFrom part done (c :: segment) rest
    else if c = '.' then do
      check
      readIdentifiersFrom part (segment.reverse :: done) [] rest
    else finish (c :: rest)
where
  check : Except VersionError Unit :=
    if segment = [] then .error (.emptySegment part)
    else if part = .pre ∧ hasLeadingZero segment.reverse then .error (.leadingZero part)
    else .ok ()
  finish (rest : List Char) : Except VersionError (List (List Char) × List Char) := do
    if segment = [] ∧ done = [] then .ok ([], rest)
    else
      check
      .ok ((segment.reverse :: done).reverse, rest)

def readIdentifiers (part : VersionPart) (s : List Char) :
    Except VersionError (List (List Char) × List Char) := do
  match ← readIdentifiersFrom part [] [] s with
  | ([], _) => .error (.emptySegment part)
  | found => .ok found

/-- Reads the pre-release part and the build metadata after the number read last: the pre-release
identifiers, the part read last, and the rest. -/
def readSuffix (s : List Char) : Except VersionError (PreRelease × VersionPart × List Char) := do
  let (pre, part, s) ← match s with
    | '-' :: rest => do
      let (pre, rest) ← readIdentifiers .pre rest
      pure (pre, VersionPart.pre, rest)
    | s => pure ([], VersionPart.patch, s)
  match s with
  | '+' :: rest => do
    let (_, rest) ← readIdentifiers .build rest
    .ok (pre, .build, rest)
  | s => .ok (pre, part, s)

def readAll (s : List Char) : Except VersionError Version := do
  if s = [] then throw .empty
  let (major, s) ← readNumber .major s
  let s ← readDot .major s
  let (minor, s) ← readNumber .minor s
  let s ← readDot .minor s
  let (patch, s) ← readNumber .patch s
  let (pre, part, s) ← readSuffix s
  match s with
  | [] => .ok ⟨major, minor, patch, pre⟩
  | c :: _ => .error (.unexpectedCharAfter part c)

def read (text : String) : Except VersionError Version := readAll text.toList

end Version

end Kennel
