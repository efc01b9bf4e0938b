import Kennel.Shell.Basic

/-!
# Reading scripts

A text is first cut into tokens: words, operators and redirections. Single quotes keep everything
as it is, double quotes everything but parameters, and a backslash the character after it. Then
the tokens are read as commands. Texts that use more than this small language are not read.
-/

namespace Kennel.Shell

inductive Token where
  | word (w : Word)
  | operator (s : String)
  | redirection (r : Redirection)
  deriving DecidableEq, Inhabited

/-- How characters stand in a word. -/
inductive Quoting where
  | bare
  | single
  | double
  deriving DecidableEq

def endsWord (c : Char) : Bool := " \t\n;&|<>()".contains c

/-- Whether a character begins the output of a command in a word, which is not read here. -/
def isBacktick (c : Char) : Bool := c.toNat == 96

/-- Whether a character may be in a name. -/
def isNameChar (c : Char) : Bool := c.isAlphanum || c == '_'

/-- Reads a parameter behind its dollar sign: its name and the rest. -/
def readParameter : List Char → Option (String × List Char)
  | '{' :: rest => some (String.ofList (rest.takeWhile (· != '}')), (rest.dropWhile (· != '}')).drop 1)
  | c :: rest =>
    if "@*#?$!".contains c || c.isDigit then some (c.toString, rest)
    else if isNameChar c then
      some (String.ofList (c :: rest.takeWhile isNameChar), rest.dropWhile isNameChar)
    else none
  | [] => none

/-- Splits behind the bracket that closes as many as are open. -/
def splitClosing (isOpen : Nat) (done : List Char) : List Char → Option (List Char × List Char)
  | [] => none
  | c :: rest =>
    if c = '(' then splitClosing (isOpen + 1) (c :: done) rest
    else if c = ')' then
      if isOpen ≤ 1 then some (done.reverse, rest) else splitClosing (isOpen - 1) (c :: done) rest
    else splitClosing isOpen (c :: done) rest

/-- The piece of a text in brackets behind a dollar sign: a sum if it is in brackets once more. -/
def bracketed (q : Quoting) (inner : List Char) : Piece :=
  match inner, inner.getLast? with
  | '(' :: rest, some ')' => .sum (String.ofList rest.dropLast)
  | _, _ => .output (String.ofList inner) (q = .double)

/-- Reads a word: the word and the rest. A word takes no more steps than there are characters. -/
def readWord (steps : Nat) (q : Quoting) (s : List Char) : Option (Word × List Char) :=
  match steps with
  | 0 => none
  | steps + 1 =>
    let push (p : Word) (q : Quoting) (rest : List Char) : Option (Word × List Char) :=
      (readWord steps q rest).map fun (w, rest) => (p ++ w, rest)
    match q, s with
    | .bare, [] => some ([], [])
    | _, [] => none
    | .single, c :: rest => if c = '\'' then push [] .bare rest else push [.char c] .single rest
    | q, '$' :: '(' :: rest =>
      match splitClosing 1 [] rest with
      | some (inner, rest) => push [bracketed q inner] q rest
      | none => none
    | q, '$' :: rest =>
      match readParameter rest with
      | some (name, rest) => push [.parameter name (q = .double)] q rest
      | none => push [.char '$'] q rest
    | q, '\\' :: '\n' :: rest => push [] q rest
    | .double, '\\' :: c :: rest =>
      if "$`\"\\".contains c then push [.char c] .double rest
      else push [.char '\\', .char c] .double rest
    | .bare, '\\' :: c :: rest => push [.quote, .char c] .bare rest
    | .double, c :: rest =>
      if c = '"' then push [] .bare rest
      else if isBacktick c then none
      else push [.char c] .double rest
    | .bare, c :: rest =>
      if endsWord c then some ([], c :: rest)
      else if c = '\'' then push [.quote] .single rest
      else if c = '"' then push [.quote] .double rest
      else if isBacktick c then none
      else push [.char c] .bare rest

def streamOfNumber? : Char → Option Stream
  | '1' => some .output
  | '2' => some .errors
  | _ => none

/-- What a file leads an output to. -/
def targetOfFile (w : Word) : Option Stream :=
  match w.plain? with
  | some "/dev/stderr" => some .errors
  | some "/dev/stdout" => some .output
  | _ => none

/-- Reads a redirection of an output behind its sign. -/
def readRedirection (stream : Stream) (s : List Char) : Option (Redirection × List Char) :=
  match s with
  | '&' :: c :: rest => (streamOfNumber? c).map fun target => (⟨stream, some target⟩, rest)
  | s =>
    let s := (s.dropWhile (· == '>')).dropWhile (· == ' ')
    (readWord (s.length + 1) .bare s).map fun (w, rest) => (⟨stream, targetOfFile w⟩, rest)

/-- Cuts a text into tokens. -/
def tokens (steps : Nat) (s : List Char) : Option (List Token) :=
  match steps with
  | 0 => none
  | steps + 1 =>
    let push (t : Token) (rest : List Char) : Option (List Token) := (tokens steps rest).map (t :: ·)
    let redirect (stream : Stream) (rest : List Char) : Option (List Token) := do
      let (r, rest) ← readRedirection stream rest
      push (.redirection r) rest
    match s with
    | [] => some []
    | ' ' :: rest | '\t' :: rest | '\\' :: '\n' :: rest => tokens steps rest
    | '#' :: rest => tokens steps (rest.dropWhile (· != '\n'))
    | '\n' :: rest => push (.operator "\n") rest
    | ';' :: rest => push (.operator ";") rest
    | '&' :: '&' :: rest => push (.operator "&&") rest
    | '|' :: '|' :: rest => push (.operator "||") rest
    | '|' :: rest => push (.operator "|") rest
    | '(' :: rest => push (.operator "(") rest
    | ')' :: rest => push (.operator ")") rest
    | '>' :: rest | '1' :: '>' :: rest => redirect .output rest
    | '2' :: '>' :: rest => redirect .errors rest
    | c :: _ =>
      if endsWord c then none
      else do
        let (w, rest) ← readWord (s.length + 1) .bare s
        push (.word w) rest

/-- Drops line breaks. -/
def skipBreaks : List Token → List Token
  | .operator "\n" :: rest => skipBreaks rest
  | s => s

/-- Drops the end of a command. -/
def skipEnd : List Token → List Token
  | .operator ";" :: rest => skipBreaks rest
  | s => skipBreaks s

/-- The rest after a word, if it comes next. -/
def expect (reserved : String) : List Token → Option (List Token)
  | .word w :: rest => if w.plain? = some reserved then some rest else none
  | _ => none

/-- The words at the front and the rest. -/
def readWords : List Token → List Word × List Token
  | .word w :: rest =>
    let (ws, rest) := readWords rest
    (w :: ws, rest)
  | s => ([], s)

/-- The redirections at the front and the rest. -/
def readRedirections : List Token → List Redirection × List Token
  | .redirection r :: rest =>
    let (rs, rest) := readRedirections rest
    (r :: rs, rest)
  | s => ([], s)

def readSimple : List Token → List Word × List Redirection × List Token
  | .word w :: rest =>
    let (ws, rs, rest) := readSimple rest
    (w :: ws, rs, rest)
  | .redirection r :: rest =>
    let (ws, rs, rest) := readSimple rest
    (ws, r :: rs, rest)
  | s => ([], [], s)

/-- A word as an assignment, if it is one. -/
def assignment? (w : Word) : Option (String × Word) :=
  let name := w.takeWhile fun
    | .char c => isNameChar c
    | _ => false
  match (Word.plain? name), w.drop name.length with
  | some n, .char '=' :: value =>
    if n.isEmpty || (n.toList.head?.any Char.isDigit) then none else some (n, value)
  | _, _ => none

/-- The words that end a list of commands within another command. -/
def closingWords : List String := ["then", "elif", "else", "fi", "do", "done", "\x7d"]

/-- Whether a list of commands ends here. -/
def isClosing : List Token → Bool
  | [] => true
  | .operator s :: _ => s == ")"
  | .word w :: _ => w.plain?.any closingWords.contains
  | _ => false

mutual

/-- Reads a command and those that it is piped into, and the rest. -/
def readPipe (steps : Nat) (s : List Token) : Option (Command × List Token) :=
  match steps with
  | 0 => none
  | steps + 1 => do
    let (c, rest) ← readCommand steps s
    match rest with
    | .operator "|" :: rest =>
      let (more, rest) ← readPipe steps (skipBreaks rest)
      some (.pipe c more, rest)
    | rest => some (c, rest)

def readCommand (steps : Nat) (s : List Token) : Option (Command × List Token) :=
  match steps with
  | 0 => none
  | steps + 1 =>
    match s with
    | .operator "(" :: rest => do
      let (body, rest) ← readScript steps .always rest
      match rest with
      | .operator ")" :: rest =>
        let (rs, rest) := readRedirections rest
        some (.group true body rs, rest)
      | _ => none
    | .word w :: rest =>
      match w.plain? with
      | some "!" => do
        let (c, rest) ← readPipe steps rest
        some (.negation c, rest)
      | some "\x7b" => do
        let (body, rest) ← readScript steps .always rest
        let (rs, rest) := readRedirections (← expect "\x7d" rest)
        some (.group false body rs, rest)
      | some "if" => readChoice steps rest
      | some "while" => readLoop steps true rest
      | some "until" => readLoop steps false rest
      | some "for" =>
        match rest with
        | .word name :: rest => do
          let (words, rest) := readWords (← expect "in" rest)
          let (body, rest) ← readScript steps .always (← expect "do" (skipEnd rest))
          let (rs, rest) := readRedirections (← expect "done" rest)
          some (.forEach (← name.plain?) words body rs, rest)
        | _ => none
      | _ => simple s
    | .redirection _ :: _ => simple s
    | _ => none
where
  simple (s : List Token) : Option (Command × List Token) :=
    let (ws, rs, rest) := readSimple s
    let assignments := (ws.takeWhile (assignment? · |>.isSome)).filterMap assignment?
    some (.simple assignments (ws.drop assignments.length) rs, rest)

/-- Reads a loop behind its first word. -/
def readLoop (steps : Nat) (onSuccess : Bool) (s : List Token) : Option (Command × List Token) :=
  match steps with
  | 0 => none
  | steps + 1 => do
    let (condition, rest) ← readScript steps .always s
    let (body, rest) ← readScript steps .always (← expect "do" rest)
    let (rs, rest) := readRedirections (← expect "done" rest)
    some (.loop onSuccess condition body rs, rest)

/-- Reads a choice behind its first word. -/
def readChoice (steps : Nat) (s : List Token) : Option (Command × List Token) :=
  match steps with
  | 0 => none
  | steps + 1 => do
    let (condition, rest) ← readScript steps .always s
    let (body, rest) ← readScript steps .always (← expect "then" rest)
    match expect "elif" rest with
    | some rest => do
      let (inner, rest) ← readChoice steps rest
      some (.choice condition body (.next .always inner .done) [], rest)
    | none => do
      let (otherwise, rest) ← match expect "else" rest with
        | some rest => readScript steps .always rest
        | none => some (.done, rest)
      let (rs, rest) := readRedirections (← expect "fi" rest)
      some (.choice condition body otherwise rs, rest)

/-- Reads commands up to where their list ends, the first of which has this junction. -/
def readScript (steps : Nat) (junction : Junction) (s : List Token) :
    Option (Script × List Token) :=
  match steps with
  | 0 => none
  | steps + 1 =>
    let s := skipBreaks s
    if isClosing s then if junction = .always then some (.done, s) else none
    else do
      let (c, rest) ← readPipe steps s
      let (more, rest) ← match rest with
        | .operator "&&" :: rest => readScript steps .onSuccess rest
        | .operator "||" :: rest => readScript steps .onFailure rest
        | .operator ";" :: rest => readScript steps .always rest
        | .operator "\n" :: rest => readScript steps .always rest
        | rest => some (.done, rest)
      some (.next junction c more, rest)

end

/-- The script of a text, if it can be read. -/
def Script.ofText? (text : String) : Option Script := do
  let all ← tokens (text.length + 1) text.toList
  let (script, rest) ← readScript (6 * all.length + 6) .always all
  if rest = [] then some script else none

end Kennel.Shell
