/-!
# Sums

The expressions of scripts: numbers, names of variables, the four operations and the remainder,
and comparisons, which are one where they hold and zero where not. Division rounds towards zero,
and a division by zero has no value.
-/

namespace Kennel.Shell.Sum

/-- An operation on two numbers, if it has a value. -/
def operate (op : String) (a b : Int) : Option Int :=
  let truth (p : Bool) : Option Int := some (if p then 1 else 0)
  match op with
  | "+" => some (a + b)
  | "-" => some (a - b)
  | "*" => some (a * b)
  | "/" => if b = 0 then none else some (a.tdiv b)
  | "%" => if b = 0 then none else some (a.tmod b)
  | "<" => truth (a < b)
  | "<=" => truth (a ≤ b)
  | ">" => truth (a > b)
  | ">=" => truth (a ≥ b)
  | "==" => truth (a == b)
  | "!=" => truth (a != b)
  | _ => none

/-- The operations by how tightly they bind, the loosest first. -/
def levels : List (List String) :=
  [["==", "!="], ["<=", ">=", "<", ">"], ["+", "-"], ["*", "/", "%"]]

def skipBlanks (s : List Char) : List Char := s.dropWhile Char.isWhitespace

def operation? (level : List String) (s : List Char) : Option (String × List Char) :=
  (level.find? fun op => op.toList.isPrefixOf s).map fun op => (op, s.drop op.length)

mutual

/-- The value of an expression of these levels and the rest. -/
def value (steps : Nat) (valueOf : String → Int) (above : List (List String)) (s : List Char) :
    Option (Int × List Char) :=
  match steps with
  | 0 => none
  | steps + 1 =>
    match above with
    | [] => atom steps valueOf (skipBlanks s)
    | level :: tighter => do
      let (a, rest) ← value steps valueOf tighter s
      goOn steps valueOf level tighter a rest

/-- The value where operations of a level follow a number. -/
def goOn (steps : Nat) (valueOf : String → Int) (level : List String)
    (tighter : List (List String)) (a : Int) (s : List Char) : Option (Int × List Char) :=
  match steps with
  | 0 => none
  | steps + 1 =>
    match operation? level (skipBlanks s) with
    | none => some (a, s)
    | some (op, rest) => do
      let (b, rest) ← value steps valueOf tighter rest
      goOn steps valueOf level tighter (← operate op a b) rest

/-- The value of a number, a variable, or an expression in brackets, and the rest. -/
def atom (steps : Nat) (valueOf : String → Int) (s : List Char) : Option (Int × List Char) :=
  match steps with
  | 0 => none
  | steps + 1 =>
    match s with
    | '(' :: rest => do
      let (a, rest) ← value steps valueOf levels rest
      match skipBlanks rest with
      | ')' :: rest => some (a, rest)
      | _ => none
    | '-' :: rest => (atom steps valueOf (skipBlanks rest)).map fun (a, rest) => (-a, rest)
    | '$' :: rest => atom steps valueOf rest
    | s =>
      let isName (c : Char) := c.isAlphanum || c == '_'
      let name := String.ofList (s.takeWhile isName)
      if name.isEmpty then none
      else some ((name.toNat?.map Int.ofNat).getD (valueOf name), s.dropWhile isName)

end

def ofText? (valueOf : String → Int) (text : String) : Option Int :=
  match value (10 * text.length + 20) valueOf levels text.toList with
  | some (a, rest) => if skipBlanks rest = [] then some a else none
  | none => none

end Kennel.Shell.Sum
