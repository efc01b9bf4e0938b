import Kennel.Disk.Error
import Kennel.Shell.Run
import Kennel.Text.Glyph

/-!
# Rebuild commands

After its configuration has changed the host is rebuilt by a command. A command that cannot be
started fails the rebuild with the refusal of the system, and one that does not end well with the
last five lines of what it wrote to its error output.

The host that is known here has few programs: a shell, and those that the shell knows itself.
-/

namespace Kennel

/-- A program and its arguments. -/
structure RebuildCommand where
  program : String
  args : List String
  deriving DecidableEq, Inhabited

/-- The lines of a text. A line end is a line feed, or a carriage return and a line feed; the last
line may lack it. -/
def textLines (s : List Char) : List (List Char) :=
  let rec go (line : List Char) : List Char → List (List Char)
    | [] => if line = [] then [] else [line.reverse]
    | '\n' :: rest =>
      let line := match line with
        | '\r' :: before => before
        | line => line
      line.reverse :: go [] rest
    | c :: rest => go (c :: line) rest
  go [] s

namespace RebuildCommand

/-- The command of a list of words; nothing if there is not even a program. -/
def ofList : List String → Option RebuildCommand
  | [] => none
  | program :: args => some ⟨program, args⟩

/-- What is wrong when a list of words names no program. -/
def emptyMessage : String := "rebuild command is empty"

/-- What is wrong with an end of the command, if it is not a good one. -/
def failure? (c : RebuildCommand) (exit : Exit) (errors : ByteArray) : Option String :=
  if exit = .code 0 then none
  else
    let lines := textLines (lossyText errors).toList
    let tail := lines.drop (lines.length - 5)
    some (c.program ++ " exited with " ++ exit.text ++ ": "
      ++ " | ".intercalate (tail.map String.ofList))

/-! ## Programs of the host -/

def programNames : List String := Shell.shellNames ++ Shell.Program.fileNames

def directories : List (List String) :=
  [[], ["bin"], ["usr"], ["usr", "bin"], ["usr", "local"], ["dev"], ["etc"], ["home"], ["opt"],
    ["proc"], ["root"], ["run"], ["sys"], ["tmp"], ["var"]]

/-- The files of the host that are no programs. -/
def plainFiles : List (List String) :=
  [["dev", "null"], ["dev", "zero"], ["etc", "passwd"], ["etc", "hosts"], ["etc", "hostname"]]

def isThroughFile (path : List String) : Bool :=
  plainFiles.any fun f => f.length < path.length && path.take f.length == f

def programAt (path : List String) : Except SystemError String :=
  match path.getLast? with
  | none => .error .permissionDenied
  | some name =>
    if (path.dropLast == ["bin"] || path.dropLast == ["usr", "bin"]) && programNames.contains name
    then .ok name
    else if directories.contains path || plainFiles.contains path then .error .permissionDenied
    else if isThroughFile path then .error .notADirectory
    else .error .notFound

/-- The program that a word asks for: by its path, if there is a slash in the word, and by its
name otherwise. -/
def findProgram (word : String) : Except SystemError String :=
  if word.contains '/' then programAt ((word.splitOn "/").filter (· != ""))
  else if programNames.contains word then .ok word
  else .error .notFound

/-- What a program does when it is started under a word with these arguments. -/
def runProgram (name word : String) (args : List String) : Exit × ByteArray :=
  match Shell.Program.run name args .empty with
  | some result => (.code result.status, result.errors)
  | none => Shell.start (word :: args)

/-- Runs the command: what is wrong with it, if anything is. -/
def run (c : RebuildCommand) : Option String :=
  if (c.program :: c.args).any (·.contains '\x00') then some "nul byte found in provided data"
  else
    match findProgram c.program with
    | .error e => some e.message
    | .ok name =>
      let (exit, errors) := runProgram name c.program c.args
      c.failure? exit errors

end RebuildCommand

end Kennel
