import Kennel.Toml.Value

/-!
# Scalars and keys of TOML

Strings in their four forms, integers in four bases, floats, truth values, dates and times, and
keys. What is read is returned with the rest of the text; nothing means that the text is no TOML.
-/

namespace Kennel.Toml

/-- Something read at the front of a text, and the rest. -/
abbrev Reader (α : Type) := List Char → Option (α × List Char)

/-- Whether the character may stand in a string or comment as it is. -/
def isPlain (c : Char) : Bool := c = '\t' || (32 ≤ c.toNat && c.toNat ≠ 127)

/-- Drops blanks and tabs. -/
def skipSpace : List Char → List Char
  | ' ' :: rest => skipSpace rest
  | '\t' :: rest => skipSpace rest
  | s => s

/-- Drops the rest of a comment. -/
def skipComment : List Char → List Char
  | [] => []
  | c :: rest => if isPlain c then skipComment rest else c :: rest

/-- Drops a line end, if one is there. -/
def lineEnd? : List Char → Option (List Char)
  | '\n' :: rest => some rest
  | '\r' :: '\n' :: rest => some rest
  | _ => none

/-- Drops what may stand at the end of a line, and the line end; the text may end there too. -/
def endLine (s : List Char) : Option (List Char) :=
  let s := match skipSpace s with
    | '#' :: rest => skipComment rest
    | s => s
  match s with
  | [] => some []
  | s => lineEnd? s

/-- Drops blanks, comments and line ends. The fuel bounds the number of line ends. -/
def skipLines (fuel : Nat) (s : List Char) : Option (List Char) :=
  match fuel with
  | 0 => none
  | fuel + 1 =>
    let s := match skipSpace s with
      | '#' :: rest => skipComment rest
      | s => s
    match lineEnd? s with
    | some rest => skipLines fuel rest
    | none => some s

/-- The value of a digit in a base up to sixteen. -/
def digit? (base : Nat) (c : Char) : Option Nat :=
  let v := if '0' ≤ c ∧ c ≤ '9' then c.toNat - 48
    else if 'a' ≤ c ∧ c ≤ 'f' then c.toNat - 87
    else if 'A' ≤ c ∧ c ≤ 'F' then c.toNat - 55
    else 16
  if v < base then some v else none

/-- Reads exactly `count` hexadecimal digits as the code point of a character. -/
def readCodePoint (count value : Nat) : Reader Char
  | s =>
    match count, s with
    | 0, s => if value.isValidChar then some (Char.ofNat value, s) else none
    | _ + 1, [] => none
    | count + 1, c :: rest => (digit? 16 c).bind fun d => readCodePoint count (value * 16 + d) rest

def readEscape : Reader Char
  | 'b' :: rest => some ('\x08', rest)
  | 't' :: rest => some ('\t', rest)
  | 'n' :: rest => some ('\n', rest)
  | 'f' :: rest => some ('\x0c', rest)
  | 'r' :: rest => some ('\r', rest)
  | 'e' :: rest => some ('\x1b', rest)
  | '"' :: rest => some ('"', rest)
  | '\\' :: rest => some ('\\', rest)
  | 'x' :: rest => readCodePoint 2 0 rest
  | 'u' :: rest => readCodePoint 4 0 rest
  | 'U' :: rest => readCodePoint 8 0 rest
  | _ => none

/-- Reads a string on one line after its opening quote; `done` holds its characters so far, latest
first. Escapes are known inside double quotes only. -/
def readLine (fuel : Nat) (quote : Char) (done : List Char) (s : List Char) :
    Option (String × List Char) :=
  match fuel, s with
  | 0, _ => none
  | _ + 1, [] => none
  | fuel + 1, c :: rest =>
    if c = quote then some (String.ofList done.reverse, rest)
    else if c = '\\' ∧ quote = '"' then
      (readEscape rest).bind fun (c, rest) => readLine fuel quote (c :: done) rest
    else if isPlain c then readLine fuel quote (c :: done) rest
    else none

/-- Drops blanks, tabs and line ends. -/
def skipBlankLines : List Char → List Char
  | ' ' :: rest => skipBlankLines rest
  | '\t' :: rest => skipBlankLines rest
  | '\n' :: rest => skipBlankLines rest
  | '\r' :: '\n' :: rest => skipBlankLines rest
  | s => s

/-- The rest after a backslash at the end of a line: the next text that is not blank. -/
def continueLine? (s : List Char) : Option (List Char) := (lineEnd? (skipSpace s)).map skipBlankLines

/-- Reads a string of several lines after its opening quotes. Up to two quotes may stand just
before the closing ones. -/
def readLines (fuel : Nat) (quote : Char) (done : List Char) (s : List Char) :
    Option (String × List Char) :=
  match fuel, s with
  | 0, _ => none
  | _ + 1, [] => none
  | fuel + 1, c :: rest =>
    if c = quote then
      match rest with
      | a :: b :: more =>
        if a = quote ∧ b = quote then
          let extra := (more.takeWhile (· = quote)).length
          if extra ≤ 2 then
            some (String.ofList (List.replicate extra quote ++ done).reverse, more.drop extra)
          else none
        else readLines fuel quote (c :: done) rest
      | _ => none
    else if c = '\\' ∧ quote = '"' then
      match continueLine? rest with
      | some rest => readLines fuel quote done rest
      | none => (readEscape rest).bind fun (c, rest) => readLines fuel quote (c :: done) rest
    else match lineEnd? (c :: rest) with
      | some rest => readLines fuel quote ('\n' :: done) rest
      | none => if isPlain c then readLines fuel quote (c :: done) rest else none

/-- Drops one line end, if it is there. -/
def dropLineEnd (s : List Char) : List Char := (lineEnd? s).getD s

def readText (s : List Char) : Option (String × List Char) :=
  match s with
  | '"' :: '"' :: '"' :: rest => readLines s.length '"' [] (dropLineEnd rest)
  | '\'' :: '\'' :: '\'' :: rest => readLines s.length '\'' [] (dropLineEnd rest)
  | '"' :: rest => readLine s.length '"' [] rest
  | '\'' :: rest => readLine s.length '\'' [] rest
  | _ => none

/-- Whether the character may stand in a key without quotes. -/
def isBare (c : Char) : Bool := c.isAlphanum || c = '_' || c = '-'

def readKeyPart (s : List Char) : Option (String × List Char) :=
  match s with
  | '"' :: rest => readLine s.length '"' [] rest
  | '\'' :: rest => readLine s.length '\'' [] rest
  | s =>
    match s.takeWhile isBare with
    | [] => none
    | part => some (String.ofList part, s.dropWhile isBare)

/-- Reads a key: its parts, with dots and blanks between them. -/
def readKey (fuel : Nat) (s : List Char) : Option (List String × List Char) :=
  match fuel with
  | 0 => none
  | fuel + 1 => do
    let (part, rest) ← readKeyPart (skipSpace s)
    match skipSpace rest with
    | '.' :: rest =>
      let (parts, rest) ← readKey fuel rest
      some (part :: parts, rest)
    | rest => some ([part], rest)

/-- Reads digits in a base with single underscores between them; `seen` says whether a digit
stands right before. -/
def digits? (base : Nat) (seen : Bool) (done : List Nat) : List Char → Option (List Nat)
  | [] => if seen then some done.reverse else none
  | c :: rest =>
    if c = '_' then if seen then digits? base false done rest else none
    else (digit? base c).bind fun d => digits? base true (d :: done) rest

def ofDigits (base : Nat) (ds : List Nat) : Nat := ds.foldl (fun n d => n * base + d) 0

/-- Splits off a sign: whether it is a minus. -/
def splitSign : List Char → Bool × List Char
  | '-' :: rest => (true, rest)
  | '+' :: rest => (false, rest)
  | s => (false, s)

/-- Decimal digits without a zero before others. -/
def decimal? (s : List Char) : Option (List Nat) :=
  match digits? 10 false [] s with
  | some (0 :: _ :: _) => none
  | ds => ds

/-- The integers that can be held: 128 bits, with a sign or without. -/
def boundInteger (i : Int) : Option Value :=
  if -(Nat.pow 2 127 : Int) ≤ i ∧ i < (Nat.pow 2 128 : Int) then some (.integer i) else none

/-- An integer in any of its forms. -/
def integer? (s : List Char) : Option Value :=
  match s with
  | '0' :: 'x' :: rest => (digits? 16 false [] rest).bind fun ds => boundInteger (ofDigits 16 ds)
  | '0' :: 'o' :: rest => (digits? 8 false [] rest).bind fun ds => boundInteger (ofDigits 8 ds)
  | '0' :: 'b' :: rest => (digits? 2 false [] rest).bind fun ds => boundInteger (ofDigits 2 ds)
  | s =>
    let (negative, s) := splitSign s
    (decimal? s).bind fun ds =>
      let n : Int := ofDigits 10 ds
      boundInteger (if negative then -n else n)

/-- Whether `digits * 10 ^ exponent` rounds to a finite binary64 number. -/
def isInFloatRange (ds : List Nat) (exponent : Int) : Bool :=
  let n := ofDigits 10 ds
  let size : Int := (Nat.toDigits 10 n).length + exponent
  if n = 0 ∨ size < 308 then true
  else if 310 < size then false
  else n * Nat.pow 10 exponent.toNat <
    (Nat.pow 2 1024 - Nat.pow 2 970) * Nat.pow 10 (-exponent).toNat

/-- A float that is neither infinite nor undefined. -/
def finiteFloat? (s : List Char) : Option Value := do
  let (_, unsigned) := splitSign s
  let isExponent (c : Char) : Bool := c = 'e' || c = 'E'
  let mantissa := unsigned.takeWhile (!isExponent ·)
  let exponent ← match unsigned.dropWhile (!isExponent ·) with
    | [] => some 0
    | _ :: rest =>
      let (negative, rest) := splitSign rest
      (digits? 10 false [] rest).map fun ds =>
        let n : Int := ofDigits 10 ds
        if negative then -n else n
  let whole ← decimal? (mantissa.takeWhile (· ≠ '.'))
  let fraction ← match mantissa.dropWhile (· ≠ '.') with
    | [] => some []
    | _ :: rest => digits? 10 false [] rest
  if isInFloatRange (whole ++ fraction) (exponent - fraction.length) then
    some (.float (String.ofList s))
  else none

/-- A float in any of its forms. -/
def float? (s : List Char) : Option Value :=
  let (_, unsigned) := splitSign s
  if unsigned = ['i', 'n', 'f'] ∨ unsigned = ['n', 'a', 'n'] then some (.float (String.ofList s))
  else finiteFloat? s

/-- Reads exactly `count` decimal digits. -/
def readFixed (count value : Nat) (s : List Char) : Option (Nat × List Char) :=
  match count, s with
  | 0, s => some (value, s)
  | _ + 1, [] => none
  | count + 1, c :: rest => (digit? 10 c).bind fun d => readFixed count (value * 10 + d) rest

/-- Drops this character. -/
def expect (c : Char) : List Char → Option (List Char)
  | d :: rest => if c = d then some rest else none
  | [] => none

def daysInMonth (year month : Nat) : Nat :=
  if month = 2 then
    if year % 4 = 0 ∧ (year % 100 ≠ 0 ∨ year % 400 = 0) then 29 else 28
  else if month = 4 ∨ month = 6 ∨ month = 9 ∨ month = 11 then 30
  else 31

def skipDate (s : List Char) : Option (List Char) := do
  let (year, s) ← readFixed 4 0 s
  let (month, s) ← readFixed 2 0 (← expect '-' s)
  let (day, s) ← readFixed 2 0 (← expect '-' s)
  if 1 ≤ month ∧ month ≤ 12 ∧ 1 ≤ day ∧ day ≤ daysInMonth year month then some s else none

/-- Drops a time of day; the seconds may be left out. -/
def skipTime (s : List Char) : Option (List Char) := do
  let (hour, s) ← readFixed 2 0 s
  let (minute, s) ← readFixed 2 0 (← expect ':' s)
  if 23 < hour ∨ 59 < minute then none
  else match s with
    | ':' :: rest => do
      let (second, s) ← readFixed 2 0 rest
      if 60 < second then none
      else match s with
        | '.' :: rest =>
          if (rest.takeWhile Char.isDigit).isEmpty then none else some (rest.dropWhile Char.isDigit)
        | s => some s
    | s => some s

/-- Drops an offset from universal time, if there is one. -/
def skipOffset : List Char → Option (List Char)
  | 'Z' :: rest => some rest
  | 'z' :: rest => some rest
  | s =>
    match s with
    | sign :: rest =>
      if sign = '+' ∨ sign = '-' then do
        let (hour, s) ← readFixed 2 0 rest
        let (minute, s) ← readFixed 2 0 (← expect ':' s)
        if 23 < hour ∨ 59 < minute then none else some s
      else some s
    | [] => some []

/-- Whether the text is a date, a time, or both with or without an offset. -/
def isDate (s : List Char) : Bool :=
  match skipTime s with
  | some [] => true
  | _ =>
    match skipDate s with
    | none => false
    | some [] => true
    | some (c :: rest) =>
      (c = 'T' || c = 't' || c = ' ') &&
        match skipTime rest with
        | none => false
        | some rest => skipOffset rest = some []

/-- Whether the character may stand in a scalar without quotes. -/
def isScalarChar (c : Char) : Bool := isBare c || c = '+' || c = '.' || c = ':'

/-- Splits off a scalar without quotes; a date may be followed by a blank and a time. -/
def splitScalar (s : List Char) : List Char × List Char :=
  let first := s.takeWhile isScalarChar
  let rest := s.dropWhile isScalarChar
  match skipDate first, rest with
  | some [], ' ' :: c :: more =>
    if c.isDigit then
      let time := (c :: more).takeWhile isScalarChar
      (first ++ ' ' :: time, (c :: more).dropWhile isScalarChar)
    else (first, rest)
  | _, _ => (first, rest)

def scalar? (s : List Char) : Option Value :=
  if s = ['t', 'r', 'u', 'e'] then some (.boolean true)
  else if s = ['f', 'a', 'l', 's', 'e'] then some (.boolean false)
  else if isDate s then some (.date (String.ofList s))
  else (integer? s).or (float? s)

end Kennel.Toml
