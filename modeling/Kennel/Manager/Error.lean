import Kennel.Allocation.Basic
import Kennel.Patch.Basic

/-!
# Errors of the manager

What the manager cannot do it refuses with a cause. The text of a cause says of which kind it is.
-/

namespace Kennel

/-- Why the manager did not do what it was asked. -/
inductive ManagerError where
  /-- No pup of this ID is installed. -/
  | notFound (id : String)
  /-- The package is installed already, as this pup. -/
  | alreadyExists (existing : String)
  /-- There is no address, or no port, for the pup. -/
  | allocation (e : AllocationError)
  /-- A pup was selected as a provider that is not installed. -/
  | unknownProvider (id : String)
  /-- This daemon does not change the configuration of its host. -/
  | patchingDisabled
  /-- A record could not be written or read. -/
  | disk (e : DiskError)
  /-- A patch of the configuration failed. -/
  | patch (e : PatchError)
  deriving DecidableEq, Inhabited

namespace ManagerError

/-- The kinds of errors that a client may tell apart. -/
inductive Kind where
  | notFound
  | alreadyExists
  | resourceExhausted
  | validation
  | io
  | patch
  deriving DecidableEq, Inhabited

def kind : ManagerError → Kind
  | notFound _ => .notFound
  | alreadyExists _ => .alreadyExists
  | allocation e => if e.isExhaustion then .resourceExhausted else .validation
  | unknownProvider _ => .validation
  | patchingDisabled => .validation
  | disk _ => .io
  | patch _ => .patch

/-- The text that the messages of a kind begin with. -/
def Kind.heading : Kind → String
  | .notFound => "pup not found: "
  | .alreadyExists => "pup already exists: "
  | .resourceExhausted => "resource exhausted: "
  | .validation => "validation error: "
  | .io => "io error: "
  | .patch => ""

/-- What the error says below its heading. -/
def detail : ManagerError → String
  | notFound id => id
  | alreadyExists existing => existing
  | allocation e => e.message
  | unknownProvider id => "provider pup " ++ id ++ " is not installed"
  | patchingDisabled => "config patching is disabled"
  | disk e => e.message
  | patch e => e.message

def message (e : ManagerError) : String := e.kind.heading ++ e.detail

end ManagerError

end Kennel
