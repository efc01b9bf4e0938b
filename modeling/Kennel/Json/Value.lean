import Kennel.Json.Number

/-!
# JSON values and their text

A value's members keep the order in which they are given. Texts come in two layouts: compact,
without blanks, and pretty, with a line for each item and member, indented by two blanks for each
level. Strings are written with the short escapes where there are any, with `\u` and four
lowercase digits for the other control characters, and with every other character as it is.
-/

namespace Kennel.Json

inductive Value where
  | null
  | bool (b : Bool)
  | number (n : Number)
  | string (s : String)
  | array (items : List Value)
  | object (members : List (String × Value))
  deriving Inhabited

namespace Value

def nat (n : Nat) : Value := .number (.int n)

/-- The value of a float: `null` if it is not finite. -/
def real (x : Float) : Value := if Number.isFinite x then .number (.real x) else .null

/-- The value of an option, `null` for none. -/
def option {α : Type} (encode : α → Value) : Option α → Value
  | none => .null
  | some a => encode a

def list {α : Type} (encode : α → Value) (l : List α) : Value := .array (l.map encode)

/-- The value under a key of an object, the last one if the key repeats. -/
def get? (v : Value) (key : String) : Option Value :=
  match v with
  | .object members => members.reverse.lookup key
  | _ => none

mutual

/-- The value with every string and key in it replaced by a function of itself. -/
def mapText (f : String → String) : Value → Value
  | .string s => .string (f s)
  | .array items => .array (mapTextItems f items)
  | .object members => .object (mapTextMembers f members)
  | v => v
termination_by structural v => v

def mapTextItems (f : String → String) : List Value → List Value
  | [] => []
  | v :: rest => mapText f v :: mapTextItems f rest
termination_by structural l => l

def mapTextMembers (f : String → String) : List (String × Value) → List (String × Value)
  | [] => []
  | (k, v) :: rest => (f k, mapText f v) :: mapTextMembers f rest
termination_by structural l => l

end

/-- An array in ascending order of a text of each item; another value stays as it is. -/
def sortedBy (text : Value → String) : Value → Value
  | .array items => .array (items.mergeSort fun a b => decide (text a ≤ text b))
  | v => v

/-- A string's text, and no text for another value. -/
def text : Value → String
  | .string s => s
  | _ => ""

end Value

/-- A hexadecimal digit, in lower case. -/
def hexDigit (n : Nat) : Char := if n < 10 then Char.ofNat (48 + n) else Char.ofNat (87 + n)

/-- How a character stands in a string. -/
def escape (c : Char) : List Char :=
  if c = '"' then ['\\', '"']
  else if c = '\\' then ['\\', '\\']
  else if c = '\x08' then ['\\', 'b']
  else if c = '\x0c' then ['\\', 'f']
  else if c = '\n' then ['\\', 'n']
  else if c = '\r' then ['\\', 'r']
  else if c = '\t' then ['\\', 't']
  else if c.toNat < 32 then ['\\', 'u', '0', '0', hexDigit (c.toNat / 16), hexDigit (c.toNat % 16)]
  else [c]

/-- A string in quotes. -/
def quoted (s : List Char) : List Char := '"' :: s.flatMap escape ++ ['"']

/-- Whether items stand on lines of their own. -/
inductive Layout where
  | compact
  | pretty
  deriving DecidableEq

/-- The break before an item at this depth. -/
def Layout.lineBreak : Layout → Nat → List Char
  | compact, _ => []
  | pretty, depth => '\n' :: List.replicate (2 * depth) ' '

/-- What stands between a key and its value. -/
def Layout.colon : Layout → List Char
  | compact => [':']
  | pretty => [':', ' ']

mutual

/-- The text of a value whose items stand one deeper than `depth`. -/
def Value.print (layout : Layout) (depth : Nat) : Value → List Char
  | .null => ['n', 'u', 'l', 'l']
  | .bool true => ['t', 'r', 'u', 'e']
  | .bool false => ['f', 'a', 'l', 's', 'e']
  | .number n => n.text
  | .string s => quoted s.toList
  | .array [] => ['[', ']']
  | .array (v :: rest) =>
    '[' :: layout.lineBreak (depth + 1) ++ v.print layout (depth + 1)
      ++ (Value.printItems layout (depth + 1) rest ++ (layout.lineBreak depth ++ [']']))
  | .object [] => ['{', '}']
  | .object ((k, v) :: rest) =>
    '{' :: layout.lineBreak (depth + 1) ++ quoted k.toList ++ layout.colon
      ++ v.print layout (depth + 1)
      ++ (Value.printMembers layout (depth + 1) rest ++ (layout.lineBreak depth ++ ['}']))
termination_by structural v => v

/-- The texts of further items, each after a comma. -/
def Value.printItems (layout : Layout) (depth : Nat) : List Value → List Char
  | [] => []
  | v :: rest =>
    ',' :: layout.lineBreak depth ++ v.print layout depth ++ Value.printItems layout depth rest
termination_by structural l => l

/-- The texts of further members, each after a comma. -/
def Value.printMembers (layout : Layout) (depth : Nat) : List (String × Value) → List Char
  | [] => []
  | (k, v) :: rest =>
    ',' :: layout.lineBreak depth ++ quoted k.toList ++ layout.colon ++ v.print layout depth
      ++ Value.printMembers layout depth rest
termination_by structural l => l

end

/-- The text without blanks. -/
def Value.compact (v : Value) : String := String.ofList (v.print .compact 0)

/-- The text with a line for each item and member. -/
def Value.pretty (v : Value) : String := String.ofList (v.print .pretty 0)

end Kennel.Json
