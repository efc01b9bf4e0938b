import Kennel.Shell.Exit

/-!
# Small programs

The programs that scripts use most: they write texts, count, compare, and pass on parts of what
they read. A program gets its arguments and its input, and gives what it writes and how it ends.
-/

namespace Kennel.Shell

def shellNames : List String := ["sh", "dash", "bash"]

namespace Program

/-- What a program wrote, and the status with which it ended. -/
structure Result where
  status : Nat := 0
  output : ByteArray := .empty
  errors : ByteArray := .empty
  deriving Inhabited

/-! ## Formats -/

/-- The value of up to three octal digits at the front, and the rest. -/
def readOctal (s : List Char) : UInt8 × List Char :=
  let digits := (s.take 3).takeWhile fun c => '0' ≤ c && c ≤ '7'
  ((digits.foldl (fun n (c : Char) => n * 8 + (c.toNat - 48)) 0).toUInt8, s.drop digits.length)

/-- The character of an escape. -/
def escaped? : Char → Option Char
  | 'n' => some '\n'
  | 't' => some '\t'
  | 'r' => some '\r'
  | '\\' => some '\\'
  | 'a' => some '\x07'
  | 'b' => some '\x08'
  | 'f' => some '\x0c'
  | 'v' => some '\x0b'
  | '"' => some '"'
  | _ => none

/-- The bytes of a text with its escapes resolved; an octal number stands behind a zero. -/
def unescape (steps : Nat) (done : ByteArray) (s : List Char) : ByteArray :=
  match steps, s with
  | 0, _ => done
  | _, [] => done
  | steps + 1, '\\' :: '0' :: rest =>
    let (byte, rest) := readOctal rest
    unescape steps (done.push byte) rest
  | steps + 1, '\\' :: c :: rest =>
    match escaped? c with
    | some e => unescape steps (done ++ e.toString.toUTF8) rest
    | none => unescape steps (done ++ (String.ofList ['\\', c]).toUTF8) rest
  | steps + 1, c :: rest => unescape steps (done ++ c.toString.toUTF8) rest

/-- A text filled up with blanks to a width, to the left of it unless it stands on the left. -/
def pad (onLeft : Bool) (width : Nat) (s : String) : String :=
  let blanks := String.ofList (List.replicate (width - s.length) ' ')
  if onLeft then s ++ blanks else blanks ++ s

/-- How an argument stands in a place with this letter. -/
def fill (letter : Char) (argument : Option String) : ByteArray :=
  let text := argument.getD ""
  let number := (text.toInt?).getD 0
  match letter with
  | 'd' | 'i' | 'u' => (toString number).toUTF8
  | 'x' => (String.ofList (Nat.toDigits 16 number.toNat)).toUTF8
  | 'o' => (String.ofList (Nat.toDigits 8 number.toNat)).toUTF8
  | 'c' => (String.ofList (text.toList.take 1)).toUTF8
  | 'b' => unescape (text.length + 1) .empty text.toList
  | _ => text.toUTF8

/-- Bytes as written with escapes and places for arguments. What comes out is also the arguments
left. Each step takes a character or more. -/
def format (steps : Nat) (done : ByteArray) (arguments : List String) (s : List Char) :
    ByteArray × List String :=
  match steps, s with
  | 0, _ => (done, arguments)
  | _, [] => (done, arguments)
  | steps + 1, '\\' :: c :: rest =>
    match escaped? c with
    | some e => format steps (done ++ e.toString.toUTF8) arguments rest
    | none =>
      if '0' ≤ c && c ≤ '7' then
        let (byte, rest) := readOctal (c :: rest)
        format steps (done.push byte) arguments rest
      else format steps (done ++ (String.ofList ['\\', c]).toUTF8) arguments rest
  | steps + 1, '%' :: '%' :: rest => format steps (done.push 37) arguments rest
  | steps + 1, '%' :: rest =>
    let onLeft := rest.head? == some '-'
    let rest := if onLeft then rest.drop 1 else rest
    let width := ((String.ofList (rest.takeWhile Char.isDigit)).toNat?).getD 0
    match rest.dropWhile Char.isDigit with
    | [] => (done.push 37, arguments)
    | letter :: rest =>
      let bytes := fill letter arguments.head?
      let bytes := match String.fromUTF8? bytes with
        | some s => (pad onLeft width s).toUTF8
        | none => bytes
      format steps (done ++ bytes) (arguments.drop 1) rest
  | steps + 1, c :: rest => format steps (done ++ c.toString.toUTF8) arguments rest

/-- A format applied again and again until it has taken all arguments. -/
def formatAll (rounds : Nat) (f : List Char) (done : ByteArray) (arguments : List String) :
    ByteArray :=
  let (done, left) := format (f.length + 1) done arguments f
  match rounds with
  | 0 => done
  | rounds + 1 =>
    if left.isEmpty || left.length = arguments.length then done else formatAll rounds f done left

/-! ## Counting and comparing -/

/-- The numbers that a count goes through, a line each. -/
def countLines (first last : Nat) : String :=
  String.join ((List.range' first (last + 1 - first)).map fun n => toString n ++ "\n")

/-- Whether two numbers compare as is asked. -/
def compareNumbers (how : String) (a b : Int) : Option Bool :=
  match how with
  | "-eq" => some (a == b)
  | "-ne" => some (a != b)
  | "-lt" => some (a < b)
  | "-le" => some (a ≤ b)
  | "-gt" => some (a > b)
  | "-ge" => some (a ≥ b)
  | _ => none

/-- Whether a condition holds. Files are not looked at, so there are none. -/
def holds : List String → Bool
  | [] => false
  | "!" :: rest => !holds rest
  | [a] => a != ""
  | ["-n", a] => a != ""
  | ["-z", a] => a == ""
  | [a, "=", b] => a == b
  | [a, "!=", b] => a != b
  | [a, how, b] => (compareNumbers how (a.toInt?.getD 0) (b.toInt?.getD 0)).getD false
  | _ => false

/-! ## Parts of the input -/

/-- The lines of bytes, each with its end. -/
def linesOf (bytes : ByteArray) : List ByteArray :=
  let (done, last) := bytes.toList.foldl (fun (done, line) (b : UInt8) =>
    let line := ByteArray.push line b
    if b = 10 then (line :: done, .empty) else (done, line)) (([], .empty) : List ByteArray × ByteArray)
  (if last.isEmpty then done else last :: done).reverse

/-- Bytes one after another. -/
def joined (l : List ByteArray) : ByteArray := l.foldl (· ++ ·) .empty

/-- The number of lines that is asked for. -/
def lineCount : List String → Nat
  | "-n" :: n :: _ => n.toNat?.getD 10
  | first :: _ =>
    let number := if first.startsWith "-n" then first.drop 2 else first.drop 1
    number.toString.toNat?.getD 10
  | [] => 10

def said (text : String) : Result := { output := text.toUTF8 }

/-- What is written for words of which the first may say that the line is not to end. -/
def echo (words : List String) : ByteArray :=
  let (ends, words) := match words with
    | "-n" :: rest => (false, rest)
    | words => (true, words)
  let text := " ".intercalate words
  let bytes := unescape (text.length + 1) .empty text.toList
  if ends then bytes.push 10 else bytes

/-- Runs a program, if there is one of this name. -/
def run (name : String) (arguments : List String) (input : ByteArray) : Option Result :=
  match name, arguments with
  | "true", _ | ":", _ | "sleep", _ | "set", _ | "export", _ | "unset", _ | "cd", _ => some {}
  | "false", _ => some { status := 1 }
  | "echo", words => some { output := echo words }
  | "printf", f :: rest => some { output := formatAll rest.length f.toList .empty rest }
  | "seq", [last] => some (said (countLines 1 (last.toNat?.getD 0)))
  | "seq", [first, last] => some (said (countLines (first.toNat?.getD 0) (last.toNat?.getD 0)))
  | "test", words => some { status := if holds words then 0 else 1 }
  | "[", words => some { status := if holds words.dropLast then 0 else 1 }
  | "cat", [] => some { output := input }
  | "cat", file :: _ =>
    some { status := 1, errors := ("cat: " ++ file ++ ": No such file or directory\n").toUTF8 }
  | "head", arguments => some { output := joined ((linesOf input).take (lineCount arguments)) }
  | "tail", arguments =>
    let lines := linesOf input
    some { output := joined (lines.drop (lines.length - lineCount arguments)) }
  | _, _ => none

/-- The programs that are files of the host, and not only known to the shell. -/
def fileNames : List String :=
  ["true", "false", "echo", "printf", "seq", "sleep", "test", "[", "cat", "head", "tail"]

end Program

/-- The number of a signal as it is asked for. -/
def signal? (s : String) : Option Nat :=
  let name := if s.startsWith "SIG" then (s.drop 3).toString else s
  (signalNumbers.lookup name).or s.toNat?

end Kennel.Shell
