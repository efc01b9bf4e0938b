import Kennel.Json.Number
import Kennel.Text.Glyph

/-!
# What can be read of a JSON text

`Document.read` reads a text as far as it goes and never refuses. The result keeps the place where
the text breaks off, so that whoever looks for a shape in it meets the first problem in the order
of the text: a mismatch with the shape that stands before the break is found first.

What a break is depends on how the place is looked at. A string with a lone surrogate cannot be
taken as a text but may be passed over; a number beyond the floats likewise. So strings and
numbers carry the outcome of taking them, and a `Break` says what it means to take the value, to
pass over it, or to expect a variant's name there.
-/

namespace Kennel.Json

/-- Why a text does not give the value that was expected. -/
inductive Fault where
  /-- The text is no JSON. -/
  | malformed
  /-- The text ends too early. -/
  | truncated
  /-- The text is JSON of another shape. -/
  | mismatch
  deriving DecidableEq, Inhabited

/-- What a broken place means to those who look at it. -/
structure Break where
  /-- To one who takes a value. -/
  taken : Fault
  /-- To one who passes over it. -/
  skipped : Fault
  /-- To one who expects a variant. -/
  variant : Fault
  deriving DecidableEq

/-- A break that means the same to everyone. -/
def Break.all (f : Fault) : Break := ⟨f, f, f⟩

/-- How a list of items or members ends. -/
inductive Ending where
  | closed
  | cut (fault : Fault)
  deriving DecidableEq

def Ending.fault? : Ending → Option Fault
  | closed => none
  | cut f => some f

/-- What stands where a member's key is expected. -/
inductive Key where
  /-- A string, and what it is as a text. -/
  | text (taken : Except Fault String)
  /-- No string. -/
  | broken (b : Break)

/-- A value as far as it could be read. -/
inductive Reading where
  | null
  | bool (b : Bool)
  | number (taken : Except Fault Number)
  | string (taken : Except Fault String)
  | array (items : List Reading) (ending : Ending)
  | object (members : List (Key × Reading)) (ending : Ending)
  | broken (b : Break)
  deriving Inhabited

mutual

/-- The reading with every text and key in it replaced by a function of itself. -/
def Reading.mapText (f : String → String) : Reading → Reading
  | .string (.ok s) => .string (.ok (f s))
  | .array items ending => .array (mapTextItems f items) ending
  | .object members ending => .object (mapTextMembers f members) ending
  | r => r
termination_by structural r => r

def Reading.mapTextItems (f : String → String) : List Reading → List Reading
  | [] => []
  | r :: rest => r.mapText f :: mapTextItems f rest
termination_by structural l => l

def Reading.mapTextMembers (f : String → String) : List (Key × Reading) → List (Key × Reading)
  | [] => []
  | (.text (.ok k), r) :: rest => (.text (.ok (f k)), r.mapText f) :: mapTextMembers f rest
  | (k, r) :: rest => (k, r.mapText f) :: mapTextMembers f rest
termination_by structural l => l

end

def skipBlanks : List Glyph → List Glyph
  | .char c :: rest =>
    if c = ' ' ∨ c = '\n' ∨ c = '\t' ∨ c = '\r' then skipBlanks rest else .char c :: rest
  | s => s

/-- Reads on in a word of which the first letter was seen. -/
def expectWord : List Char → List Glyph → Except Fault (List Glyph)
  | [], s => .ok s
  | _ :: _, [] => .error .truncated
  | w :: word, g :: rest => if g = .char w then expectWord word rest else .error .malformed

/-- The value of a hexadecimal digit. -/
def hexValue? (c : Char) : Option Nat :=
  if '0' ≤ c ∧ c ≤ '9' then some (c.toNat - 48)
  else if 'a' ≤ c ∧ c ≤ 'f' then some (c.toNat - 87)
  else if 'A' ≤ c ∧ c ≤ 'F' then some (c.toNat - 55)
  else none

/-- Reads the four digits after `\u`; the text ends too early if fewer than four bytes are left. -/
def readHex (s : List Glyph) : Except Fault (Nat × List Glyph) :=
  if (s.take 4).foldl (fun n g => n + g.width) 0 < 4 then .error .truncated
  else match s with
    | .char a :: .char b :: .char c :: .char d :: rest =>
      match hexValue? a, hexValue? b, hexValue? c, hexValue? d with
      | some a, some b, some c, some d => .ok (((a * 16 + b) * 16 + c) * 16 + d, rest)
      | _, _, _, _ => .error .malformed
    | _ => .error .malformed

def shortEscape? (c : Char) : Option Char :=
  if c = '"' then some '"'
  else if c = '\\' then some '\\'
  else if c = '/' then some '/'
  else if c = 'b' then some '\x08'
  else if c = 'f' then some '\x0c'
  else if c = 'n' then some '\n'
  else if c = 'r' then some '\r'
  else if c = 't' then some '\t'
  else none

/-- What was read of a string: its characters, latest first, whether a surrogate stood alone in
it, and whether it held bytes that are no text. -/
structure StringSoFar where
  chars : List Char := []
  lone : Bool := false
  stray : Bool := false

def StringSoFar.taken (s : StringSoFar) : Except Fault String :=
  if s.lone || s.stray then .error .malformed else .ok (String.ofList s.chars.reverse)

/-- The break of a string that has the fault `f` next; a surrogate that stood alone comes first. -/
def StringSoFar.break (s : StringSoFar) (f : Fault) : Break :=
  let taken := if s.lone then .malformed else f
  ⟨taken, f, taken⟩

/-- Reads one more character of a string that is not finished yet: what was read and the rest. -/
def readUnicodeEscape (sofar : StringSoFar) (s : List Glyph) :
    Except Fault (StringSoFar × List Glyph) := do
  let (n, rest) ← readHex s
  if 0xdc00 ≤ n ∧ n ≤ 0xdfff then return ({ sofar with lone := true }, rest)
  else if 0xd800 ≤ n ∧ n ≤ 0xdbff then
    match rest with
    | [] => throw .truncated
    | [.char '\\'] => throw .truncated
    | .char '\\' :: .char 'u' :: low =>
      let (m, low) ← readHex low
      if 0xdc00 ≤ m ∧ m ≤ 0xdfff then
        let c := Char.ofNat (0x10000 + (n - 0xd800) * 0x400 + (m - 0xdc00))
        return ({ sofar with chars := c :: sofar.chars }, low)
      else return ({ sofar with lone := true }, low)
    | rest => return ({ sofar with lone := true }, rest)
  else return ({ sofar with chars := Char.ofNat n :: sofar.chars }, rest)

/-- Reads a string after its opening quote: the string and the rest, or where it breaks off.
The fuel is above the number of glyphs left. -/
def readString (fuel : Nat) (sofar : StringSoFar) (s : List Glyph) :
    Except Break (Except Fault String × List Glyph) :=
  match fuel, s with
  | 0, _ => .error (sofar.break .truncated)
  | _ + 1, [] => .error (sofar.break .truncated)
  | fuel + 1, .stray _ :: rest => readString fuel { sofar with stray := true } rest
  | fuel + 1, .char c :: rest =>
    if c = '"' then .ok (sofar.taken, rest)
    else if c = '\\' then
      match rest with
      | [] => .error (sofar.break .truncated)
      | .char 'u' :: rest =>
        match readUnicodeEscape sofar rest with
        | .error f => .error (sofar.break f)
        | .ok (sofar, rest) => readString fuel sofar rest
      | .char e :: rest =>
        match shortEscape? e with
        | some c => readString fuel { sofar with chars := c :: sofar.chars } rest
        | none => .error (sofar.break .malformed)
      | .stray _ :: _ => .error (sofar.break .malformed)
    else if c.toNat < 32 then .error (sofar.break .malformed)
    else readString fuel { sofar with chars := c :: sofar.chars } rest

def digitValue? : Glyph → Option Nat
  | .char c => if '0' ≤ c ∧ c ≤ '9' then some (c.toNat - 48) else none
  | .stray _ => none

/-- Splits off the digits at the front; `done` holds those seen before, latest first. -/
def readDigits (done : List Nat) : List Glyph → List Nat × List Glyph
  | [] => (done.reverse, [])
  | g :: rest =>
    match digitValue? g with
    | some d => readDigits (d :: done) rest
    | none => (done.reverse, g :: rest)

/-- The break of a number that needs a digit and has this rest instead. -/
def missingDigit (rest : List Glyph) : Break :=
  ⟨if rest = [] then .truncated else .malformed, .malformed, .malformed⟩

def readExponent (s : List Glyph) : Except Break ((Bool × List Nat) × List Glyph) :=
  let (down, s) := match s with
    | .char '+' :: rest => (false, rest)
    | .char '-' :: rest => (true, rest)
    | s => (false, s)
  match readDigits [] s with
  | ([], rest) => .error (missingDigit rest)
  | (ds, rest) => .ok ((down, ds), rest)

/-- Reads a number: its parts and the rest, or where it breaks off. -/
def readNumber (s : List Glyph) : Except Break (Number.Literal × List Glyph) := do
  let (negative, s) := match s with
    | .char '-' :: rest => (true, rest)
    | s => (false, s)
  let (whole, s) := readDigits [] s
  match whole with
  | [] => throw (missingDigit s)
  | 0 :: _ :: _ => throw (.all .malformed)
  | whole =>
    let (fraction, s) ← match s with
      | .char '.' :: rest =>
        match readDigits [] rest with
        | ([], rest) => throw (missingDigit rest)
        | (ds, rest) => pure (some ds, rest)
      | s => pure (none, s)
    let (exponent, s) ← match s with
      | .char 'e' :: rest | .char 'E' :: rest => do
        let (e, rest) ← readExponent rest
        pure (some e, rest)
      | s => pure (none, s)
    return (⟨negative, whole, fraction, exponent⟩, s)

def takenNumber (l : Number.Literal) : Except Fault Number :=
  match l.value with
  | some n => .ok n
  | none => .error .malformed

/-- The break of a word that is none of the three. -/
def wordBreak (f : Fault) : Break := ⟨f, f, .malformed⟩

/-- What a place without a string means to one who takes a text there. -/
def textFault (s : List Glyph) : Fault :=
  let word (rest : List Glyph) (w : List Char) : Fault :=
    match expectWord w rest with
    | .ok _ => .mismatch
    | .error f => f
  match s with
  | [] => .truncated
  | .stray _ :: _ => .malformed
  | .char c :: rest =>
    if c = '[' ∨ c = '{' then .mismatch
    else if c = 'n' then word rest ['u', 'l', 'l']
    else if c = 't' then word rest ['r', 'u', 'e']
    else if c = 'f' then word rest ['a', 'l', 's', 'e']
    else if c = '-' ∨ ('0' ≤ c ∧ c ≤ '9') then
      match readNumber s with
      | .error b => b.taken
      | .ok (l, _) => match takenNumber l with
        | .ok _ => .mismatch
        | .error f => f
    else .malformed

/-- The fault of a place where something else was expected. -/
def expected : List Glyph → Fault
  | [] => .truncated
  | _ => .malformed

mutual

/-- Reads a value: as much of it as there is, and the rest. -/
def readValue (fuel : Nat) (s : List Glyph) : Reading × List Glyph :=
  match fuel with
  | 0 => (.broken (.all .truncated), [])
  | fuel + 1 =>
    match skipBlanks s with
    | [] => (.broken (.all .truncated), [])
    | .stray _ :: _ => (.broken (.all .malformed), [])
    | .char c :: rest =>
      if c = '"' then
        match readString fuel {} rest with
        | .ok (taken, rest) => (.string taken, rest)
        | .error b => (.broken b, [])
      else if c = '[' then
        match skipBlanks rest with
        | [] => (.array [] (.cut .truncated), [])
        | .char ']' :: rest => (.array [] .closed, rest)
        | rest =>
          let (v, rest) := readValue fuel rest
          readItems fuel [v] rest
      else if c = '{' then
        match skipBlanks rest with
        | [] => (.object [(.broken (.all .truncated), .null)] (.cut .truncated), [])
        | .char '}' :: rest => (.object [] .closed, rest)
        | rest => readMember fuel [] rest
      else if c = 'n' then
        match expectWord ['u', 'l', 'l'] rest with
        | .ok rest => (.null, rest)
        | .error f => (.broken (wordBreak f), [])
      else if c = 't' then
        match expectWord ['r', 'u', 'e'] rest with
        | .ok rest => (.bool true, rest)
        | .error f => (.broken (wordBreak f), [])
      else if c = 'f' then
        match expectWord ['a', 'l', 's', 'e'] rest with
        | .ok rest => (.bool false, rest)
        | .error f => (.broken (wordBreak f), [])
      else if c = '-' ∨ ('0' ≤ c ∧ c ≤ '9') then
        match readNumber (.char c :: rest) with
        | .ok (l, rest) => (.number (takenNumber l), rest)
        | .error b => (.broken b, [])
      else (.broken (.all .malformed), [])

/-- Reads on in an array of which the items in `done` were read, latest first. -/
def readItems (fuel : Nat) (done : List Reading) (s : List Glyph) : Reading × List Glyph :=
  match fuel with
  | 0 => (.array done.reverse (.cut .truncated), [])
  | fuel + 1 =>
    match skipBlanks s with
    | [] => (.array done.reverse (.cut .truncated), [])
    | .char ']' :: rest => (.array done.reverse .closed, rest)
    | .char ',' :: rest =>
      let (v, rest) := readValue fuel rest
      readItems fuel (v :: done) rest
    | _ => (.array done.reverse (.cut .malformed), [])

/-- Reads a member and what follows it, after the members in `done`, latest first. -/
def readMember (fuel : Nat) (done : List (Key × Reading)) (s : List Glyph) :
    Reading × List Glyph :=
  match fuel with
  | 0 => (.object done.reverse (.cut .truncated), [])
  | fuel + 1 =>
    match skipBlanks s with
    | .char '"' :: rest =>
      match readString fuel {} rest with
      | .error b =>
        (.object ((.broken b, .null) :: done).reverse (.cut b.skipped), [])
      | .ok (key, rest) =>
        match skipBlanks rest with
        | .char ':' :: rest =>
          let (v, rest) := readValue fuel rest
          readMembers fuel ((.text key, v) :: done) rest
        | rest =>
          (.object ((.text key, .broken (.all (expected rest))) :: done).reverse
            (.cut (expected rest)), [])
    | rest =>
      let f := expected rest
      (.object ((.broken ⟨f, f, textFault rest⟩, .null) :: done).reverse (.cut f), [])

/-- Reads on in an object of which the members in `done` were read, latest first. -/
def readMembers (fuel : Nat) (done : List (Key × Reading)) (s : List Glyph) :
    Reading × List Glyph :=
  match fuel with
  | 0 => (.object done.reverse (.cut .truncated), [])
  | fuel + 1 =>
    match skipBlanks s with
    | [] => (.object done.reverse (.cut .truncated), [])
    | .char '}' :: rest => (.object done.reverse .closed, rest)
    | .char ',' :: rest => readMember fuel done rest
    | _ => (.object done.reverse (.cut .malformed), [])

end

mutual

/-- The first fault that one meets who passes over the value, if there is one. -/
def Reading.skipFault : Reading → Option Fault
  | .null | .bool _ | .number _ | .string _ => none
  | .array items ending => (Reading.itemsFault items).or ending.fault?
  | .object members ending => (Reading.membersFault members).or ending.fault?
  | .broken b => some b.skipped
termination_by structural r => r

/-- The first fault met in passing over the items. -/
def Reading.itemsFault : List Reading → Option Fault
  | [] => none
  | r :: rest => r.skipFault.or (Reading.itemsFault rest)
termination_by structural l => l

/-- The first fault met in passing over the members. -/
def Reading.membersFault : List (Key × Reading) → Option Fault
  | [] => none
  | (.text _, r) :: rest => r.skipFault.or (Reading.membersFault rest)
  | (.broken b, _) :: _ => some b.skipped
termination_by structural l => l

end

/-- A text as far as it could be read, and whether anything but blanks follows the value. -/
structure Document where
  root : Reading
  trailing : Bool

def Document.ofGlyphs (s : List Glyph) : Document :=
  let (root, rest) := readValue (2 * s.length + 2) s
  ⟨root, skipBlanks rest ≠ []⟩

end Kennel.Json
