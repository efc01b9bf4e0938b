import Kennel.Data.Dict
import Kennel.Shell.Exit
import Kennel.Shell.Program
import Kennel.Shell.Read
import Kennel.Shell.Sum

/-!
# Running scripts

A script is run for how it ends and for what it writes to its error output. It ends by itself, by
an exit, or by a signal that it sends to itself, and nothing after its end is run. A loop is given
up after a fixed number of rounds.

Texts within a script are scripts too. They are run by a function that is handed down, for one
level of them less each time, so that a run always ends.
-/

namespace Kennel.Shell

/-- Where each output of a command is led to, if it is not lost. -/
structure Outputs where
  output : Option Stream := some .output
  errors : Option Stream := some .errors
  deriving Inhabited

namespace Outputs

/-- Where an output is led to. -/
def get (o : Outputs) : Stream → Option Stream
  | .output => o.output
  | .errors => o.errors

def redirect (o : Outputs) (r : Redirection) : Outputs :=
  let led := r.target.bind o.get
  match r.stream with
  | .output => { o with output := led }
  | .errors => { o with errors := led }

end Outputs

/-- A script on its run. -/
structure Session where
  bindings : Dict String := ∅
  /-- The name of the script and its arguments. -/
  arguments : List String
  /-- How the command before ended. -/
  status : Nat := 0
  input : ByteArray := .empty
  output : ByteArray := .empty
  errors : ByteArray := .empty
  ended : Option Exit := none
  deriving Inhabited

/-- Runs a text as a script in a session. -/
abbrev Inner := String → Session → Session

/-- The number under which a script knows itself. -/
def ownNumber : String := "1"

namespace Session

def write (s : Session) (o : Outputs) (stream : Stream) (bytes : ByteArray) : Session :=
  match o.get stream with
  | some .output => { s with output := s.output ++ bytes }
  | some .errors => { s with errors := s.errors ++ bytes }
  | none => s

/-- Ends a command with a status. -/
def finish (s : Session) (status : Nat) : Session := { s with status }

/-- Ends the script. -/
def leave (s : Session) (exit : Exit) : Session := { s with ended := some exit }

def complain (s : Session) (o : Outputs) (status : Nat) (what : String) : Session :=
  let name := s.arguments.headD "sh"
  (s.write o .errors (name ++ ": 1: " ++ what ++ "\n").toUTF8).finish status

/-- The session after a script within it: only what was written is left of that script, its
status, and the signal that ended it. -/
def afterInner (s inner : Session) : Session :=
  let s := { s with output := inner.output, errors := inner.errors }
  match inner.ended with
  | some (.code n) => s.finish n
  | some (.signal n) => s.leave (.signal n)
  | none => s.finish inner.status

/-- The value of a parameter; one that is not set has none. -/
def parameter (s : Session) (name : String) : String :=
  match name with
  | "?" => toString s.status
  | "$" => ownNumber
  | "#" => toString (s.arguments.length - 1)
  | "@" | "*" => " ".intercalate (s.arguments.drop 1)
  | name =>
    match name.toNat? with
    | some n => s.arguments.getD n ""
    | none => (s.bindings.get? name).getD ""

/-- The value of a variable as a number. -/
def numberOf (s : Session) (name : String) : Int := ((s.parameter name).toInt?).getD 0

/-- Sets a variable. -/
def bind (s : Session) (name value : String) : Session :=
  { s with bindings := s.bindings.insert name value }

end Session

/-! ## Words -/

/-- Whether a character separates words in a value. -/
def isSeparator (c : Char) : Bool := c == ' ' || c == '\t' || c == '\n'

/-- The words done so far and the word that is being made. -/
structure Making where
  done : List String := []
  current : Option String := none

namespace Making

def add (m : Making) (text : String) : Making :=
  { m with current := some (m.current.getD "" ++ text) }

/-- Ends the word, if there is one. -/
def cut (m : Making) : Making := ⟨m.done ++ m.current.toList, none⟩

/-- Adds a value: as it is if it is quoted, else its separators end words. -/
def addValue (m : Making) (isQuoted : Bool) (value : String) : Making :=
  if isQuoted then m.add value
  else value.toList.foldl (fun m c => if isSeparator c then m.cut else m.add c.toString) m

end Making

/-- What a script writes to its output, without the line ends at its end. -/
def outputOf (inner : Inner) (s : Session) (text : String) : String × Session :=
  let after := inner text { s with output := .empty }
  let chars := ((String.fromUTF8? after.output).getD "").toList
  (String.ofList (chars.reverse.dropWhile (· == '\n')).reverse,
    s.afterInner { after with output := s.output })

/-- Adds a piece to the word that is being made. -/
def expandPiece (inner : Inner) (state : Making × Session) (p : Piece) : Making × Session :=
  let (m, s) := state
  match p with
  | .char c => (m.add c.toString, s)
  | .quote => (m.add "", s)
  | .parameter name isQuoted => (m.addValue isQuoted (s.parameter name), s)
  | .output text isQuoted =>
    let (value, s) := outputOf inner s text
    (m.addValue isQuoted value, s)
  | .sum text => (m.add (toString ((Sum.ofText? s.numberOf text).getD 0)), s)

/-- The words that a word as it is written stands for. -/
def expand (inner : Inner) (s : Session) (w : Word) : List String × Session :=
  let (m, s) := w.foldl (expandPiece inner) ({}, s)
  (m.cut.done, s)

/-- The words that words as they are written stand for. -/
def expandAll (inner : Inner) (s : Session) : List Word → List String × Session
  | [] => ([], s)
  | w :: rest =>
    let (words, s) := expand inner s w
    let (more, s) := expandAll inner s rest
    (words ++ more, s)

/-- Sets variables; a value is not cut into words. -/
def assign (inner : Inner) (s : Session) (assignments : List (String × Word)) : Session :=
  assignments.foldl (fun s (name, w) =>
    let whole := w.map fun
      | .parameter name _ => Piece.parameter name true
      | .output text _ => .output text true
      | p => p
    let (words, s) := expand inner s whole
    s.bind name (" ".intercalate words)) s

/-! ## Commands -/

/-- Sends a signal; only the script itself is there to get it. -/
def kill (s : Session) (o : Outputs) (arguments : List String) : Session :=
  let (asked, targets) := match arguments with
    | "-s" :: name :: rest => (name, rest)
    | first :: rest =>
      if first.startsWith "-" then ((first.drop 1).toString, rest) else ("TERM", arguments)
    | [] => ("TERM", [])
  match signal? asked with
  | none => s.complain o 2 ("kill: invalid signal number or name: " ++ asked)
  | some n =>
    if !targets.contains ownNumber then s.complain o 1 "kill: No such process"
    else if n = 0 then s.finish 0
    else s.leave (.signal n)

def runShell (inner : Inner) (s : Session) (arguments : List String) : Session :=
  let name := arguments.headD "sh"
  match arguments.drop 1 with
  | [] => s.finish 0
  | ["-c"] =>
    (s.write {} .errors (name ++ ": 0: -c requires an argument\n").toUTF8).finish 2
  | "-c" :: text :: rest =>
    inner text { s with arguments := if rest.isEmpty then [name] else rest }
  | file :: _ =>
    (s.write {} .errors (name ++ ": 0: cannot open " ++ file ++ ": No such file\n").toUTF8).finish 2

def runProgram (inner : Inner) (s : Session) (o : Outputs) (name : String)
    (arguments : List String) : Session :=
  match Program.run name arguments s.input with
  | some result =>
    ((s.write o .output result.output).write o .errors result.errors).finish result.status
  | none =>
    if shellNames.contains name then
      let after := runShell inner { s with output := .empty, errors := .empty } (name :: arguments)
      let s := s.afterInner { after with output := s.output, errors := s.errors }
      (s.write o .output after.output).write o .errors after.errors
    else s.complain o 127 (name ++ ": not found")

/-- Runs a simple command. -/
def runWords (inner : Inner) (s : Session) (o : Outputs) (words : List String) : Session :=
  match words with
  | [] => s
  | "exit" :: [] => s.leave (.code s.status)
  | "exit" :: code :: _ =>
    match code.toNat? with
    | some n => s.leave (.code (n % 256))
    | none => (s.complain o 2 ("exit: Illegal number: " ++ code)).leave (.code 2)
  | "kill" :: arguments => kill s o arguments
  | "eval" :: arguments => inner (" ".intercalate arguments) s
  | "exec" :: name :: arguments =>
    let s := runProgram inner s o name arguments
    s.leave (s.ended.getD (.code s.status))
  | "command" :: name :: arguments => runProgram inner s o name arguments
  | name :: arguments => runProgram inner s o name arguments

def Junction.runs (j : Junction) (status : Nat) : Bool :=
  match j with
  | .always => true
  | .onSuccess => status == 0
  | .onFailure => status != 0

/-- Runs rounds of a loop while there is another one. -/
def runRounds (round : Session → Option Session) (last : Session → Session) :
    Nat → Session → Session
  | 0, s => s
  | n + 1, s =>
    match round s with
    | some s => if s.ended.isSome then s else runRounds round last n s
    | none => last s

/-- After this many rounds a loop is given up. -/
def maxRounds : Nat := 100000

mutual

def Command.run (inner : Inner) (c : Command) (o : Outputs) (s : Session) : Session :=
  match c with
  | .simple assignments words redirections =>
    let (words, s) := expandAll inner s words
    if words.isEmpty then
      let s := s.finish 0
      assign inner s assignments
    else runWords inner s (redirections.foldl Outputs.redirect o) words
  | .forEach name words body redirections =>
    let o := redirections.foldl Outputs.redirect o
    let (words, s) := expandAll inner s words
    words.foldl (fun s value => if s.ended.isSome then s else body.run inner o (s.bind name value))
      (s.finish 0)
  | .choice condition body otherwise redirections =>
    let o := redirections.foldl Outputs.redirect o
    let s := condition.run inner o s
    if s.ended.isSome then s
    else if s.status = 0 then body.run inner o s
    else otherwise.run inner o (s.finish 0)
  | .loop onSuccess condition body redirections =>
    let o := redirections.foldl Outputs.redirect o
    let round (s : Session) : Option Session :=
      let s := condition.run inner o s
      if s.ended.isSome then some s
      else if (s.status == 0) == onSuccess then some (body.run inner o s)
      else none
    runRounds round (·.finish 0) maxRounds s
  | .group isApart body redirections =>
    let after := body.run inner (redirections.foldl Outputs.redirect o) s
    if isApart then s.afterInner after else after
  | .negation c =>
    let s := c.run inner o s
    s.finish (if s.status = 0 then 1 else 0)
  | .pipe left right =>
    let first := left.run inner { o with output := some .output } { s with output := .empty }
    let s := s.afterInner { first with output := s.output }
    let second := right.run inner o { s with input := first.output }
    s.afterInner second
termination_by structural c

/-- Runs commands one after another, as far as they are to run. -/
def Script.run (inner : Inner) (script : Script) (o : Outputs) (s : Session) : Session :=
  match script with
  | .done => s
  | .next junction command rest =>
    if s.ended.isSome then s
    else rest.run inner o (if junction.runs s.status then command.run inner o s else s)
termination_by structural script

end

/-- Runs a text as a script, with this many levels of scripts within it. -/
def runText : Nat → Inner
  | 0, _, s => s
  | levels + 1, text, s =>
    match Script.ofText? text with
    | none => (s.complain {} 2 "Syntax error").leave (.code 2)
    | some script => script.run (runText levels) {} s

/-- After this many levels scripts within scripts are not run. -/
def maxLevels : Nat := 20

/-- Runs a shell with these arguments, its name before them: how it ended, and what it wrote to
its error output. -/
def start (arguments : List String) : Exit × ByteArray :=
  let s := runShell (runText maxLevels) { arguments } arguments
  (s.ended.getD (.code s.status), s.errors)

end Kennel.Shell
