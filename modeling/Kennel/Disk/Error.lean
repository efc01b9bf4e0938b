import Kennel.Text.Quoted

/-!
# Errors of the file system

What the system refuses has a number and a text of its own. A walk through a tree says at which
path it failed.
-/

namespace Kennel

/-- Why a device that is full or broken refuses something. -/
inductive DeviceError where
  | noSpace
  | inputOutput
  | readOnly
  deriving DecidableEq, Inhabited

def DeviceError.message : DeviceError → String
  | noSpace => "No space left on device (os error 28)"
  | inputOutput => "Input/output error (os error 5)"
  | readOnly => "Read-only file system (os error 30)"

inductive SystemError where
  | notFound
  | permissionDenied
  | alreadyExists
  | notADirectory
  | isADirectory
  | invalidArgument
  | nameTooLong
  | tooManyLinks
  | device (e : DeviceError)
  deriving DecidableEq, Inhabited

/-- The text of the refusal, with its number. -/
def SystemError.message : SystemError → String
  | notFound => "No such file or directory (os error 2)"
  | permissionDenied => "Permission denied (os error 13)"
  | alreadyExists => "File exists (os error 17)"
  | notADirectory => "Not a directory (os error 20)"
  | isADirectory => "Is a directory (os error 21)"
  | invalidArgument => "Invalid argument (os error 22)"
  | nameTooLong => "File name too long (os error 36)"
  | tooManyLinks => "Too many levels of symbolic links (os error 40)"
  | device e => e.message

/-- Why an operation on the disk failed. -/
inductive DiskError where
  | system (e : SystemError)
  /-- A temporary file could not be made at a path. -/
  | temporary (path : String) (e : SystemError)
  | zeroInPath
  /-- A walk failed at a path: it could not go on there, or (`known`) could not look at what it
  had found there. -/
  | walk (path : String) (e : SystemError) (known : Bool)
  /-- A file that was to be a text is none. -/
  | notText
  deriving DecidableEq, Inhabited

/-- The error as a walk reports it that has come to a path. -/
def DiskError.onWalk (path : String) (known : Bool) : DiskError → DiskError
  | system e => .walk path e known
  | e => e

def DiskError.message : DiskError → String
  | system e => e.message
  | temporary path e => e.message ++ " at path " ++ quotedText path
  | zeroInPath => "file name contained an unexpected NUL byte"
  | walk path e _ => "IO error for operation on " ++ path ++ ": " ++ e.message
  | notText => "stream did not contain valid UTF-8"

end Kennel
