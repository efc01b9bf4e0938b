/-!
# Command scripts

A script is a list of commands, each of which may depend on how the one before it ended. Commands
are programs with words as arguments, loops, choices, groups, and pairs of which one reads what
the other writes; the output of a command may be redirected. Words are built from characters,
parameters, the outputs of other scripts, and sums.
-/

namespace Kennel.Shell

inductive Piece where
  | char (c : Char)
  /-- A quoting mark: the word is a word even if nothing else is in it. -/
  | quote
  /-- The value of a parameter; unless it is quoted, blanks in it end the word. -/
  | parameter (name : String) (isQuoted : Bool)
  /-- The output of a script with this text; unless it is quoted, blanks in it end the word. -/
  | output (text : String) (isQuoted : Bool)
  /-- The value of an expression. -/
  | sum (text : String)
  deriving DecidableEq, Inhabited

/-- A word as it is written. -/
abbrev Word := List Piece

/-- The word of these characters, if it is written as them alone. -/
def Word.plain? (w : Word) : Option String :=
  (w.mapM fun (p : Piece) =>
    match p with
    | .char c => some c
    | _ => none).map String.ofList

/-- An output of a command. -/
inductive Stream where
  | output
  | errors
  deriving DecidableEq, Inhabited

/-- Where an output is led: to where another one leads, or away. -/
structure Redirection where
  stream : Stream
  target : Option Stream
  deriving DecidableEq, Inhabited

/-- When a command runs, by the end of the one before it. -/
inductive Junction where
  | always
  | onSuccess
  | onFailure
  deriving DecidableEq, Inhabited

mutual

inductive Command where
  /-- Sets variables, or runs a program. -/
  | simple (assignments : List (String × Word)) (words : List Word)
      (redirections : List Redirection)
  | forEach (name : String) (words : List Word) (body : Script)
      (redirections : List Redirection)
  | choice (condition body otherwise : Script) (redirections : List Redirection)
  /-- Runs the body as long as the condition ends in this way. -/
  | loop (onSuccess : Bool) (condition body : Script) (redirections : List Redirection)
  /-- Runs the body; if it is apart, leaving it is not leaving the script. -/
  | group (isApart : Bool) (body : Script) (redirections : List Redirection)
  /-- Fails if the command succeeds. -/
  | negation (c : Command)
  /-- Runs both, the second on the output of the first. -/
  | pipe (left right : Command)

/-- Commands one after another. -/
inductive Script where
  | done
  | next (junction : Junction) (command : Command) (rest : Script)

end

instance : Inhabited Script := ⟨.done⟩

instance : Inhabited Command := ⟨.simple [] [] []⟩

end Kennel.Shell
