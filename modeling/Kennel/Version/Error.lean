import Kennel.Text.Quoted

/-!
# What can be wrong with a version or a range

Each error names the part of the version that was being read.
-/

namespace Kennel

inductive VersionPart where
  | major
  | minor
  | patch
  | pre
  | build
  deriving DecidableEq

/-- The part as it is shown. -/
def VersionPart.text : VersionPart → String
  | major => "major version number"
  | minor => "minor version number"
  | patch => "patch version number"
  | pre => "pre-release identifier"
  | build => "build metadata"

/-- Why a text is no version, or no range of versions. -/
inductive VersionError where
  | empty
  | unexpectedEnd (part : VersionPart)
  | unexpectedChar (part : VersionPart) (c : Char)
  | unexpectedCharAfter (part : VersionPart) (c : Char)
  | expectedComma (part : VersionPart) (found : Char)
  | leadingZero (part : VersionPart)
  | overflow (part : VersionPart)
  | emptySegment (part : VersionPart)
  | wildcardNotAlone (c : Char)
  | unexpectedAfterWildcard
  | tooManyComparators
  deriving DecidableEq

def VersionError.message : VersionError → String
  | empty => "empty string, expected a semver version"
  | unexpectedEnd p => "unexpected end of input while parsing " ++ p.text
  | unexpectedChar p c => "unexpected character " ++ quotedChar c ++ " while parsing " ++ p.text
  | unexpectedCharAfter p c => "unexpected character " ++ quotedChar c ++ " after " ++ p.text
  | expectedComma p c => "expected comma after " ++ p.text ++ ", found " ++ quotedChar c
  | leadingZero p => "invalid leading zero in " ++ p.text
  | overflow p => "value of " ++ p.text ++ " exceeds u64::MAX"
  | emptySegment p => "empty identifier segment in " ++ p.text
  | wildcardNotAlone c =>
    "wildcard req (" ++ c.toString ++ ") must be the only comparator in the version req"
  | unexpectedAfterWildcard => "unexpected character after wildcard in version req"
  | tooManyComparators => "excessive number of version comparators"

end Kennel
