/-!
# String literals in Nix

A text is written between double quotes. The quote, the backslash and the dollar sign have a
backslash before them, and line feeds, carriage returns and tabs are written as `\n`, `\r` and
`\t`. The reader of such literals knows one more thing: an unescaped dollar sign before a brace
opens an interpolation. `scan` reads a literal by these rules and says how it ends.
-/

namespace Kennel.Nix

/-- How a character stands in a literal. -/
def escape (c : Char) : List Char :=
  if c = '"' then ['\\', '"']
  else if c = '\\' then ['\\', '\\']
  else if c = '\n' then ['\\', 'n']
  else if c = '\r' then ['\\', 'r']
  else if c = '\t' then ['\\', 't']
  else if c = '$' then ['\\', '$']
  else [c]

def literal (s : List Char) : List Char := '"' :: s.flatMap escape ++ ['"']

/-- How the reading of a literal ends. -/
inductive Scan where
  /-- At its closing quote: what it says, and the text after it. -/
  | closed (content rest : List Char)
  | interpolation
  /-- Nowhere: the text is no literal, or its quote is not closed. -/
  | unclosed
  deriving DecidableEq

/-- The character that an escape stands for. -/
def unescape (c : Char) : Char :=
  if c = 'n' then '\n' else if c = 'r' then '\r' else if c = 't' then '\t' else c

/-- Reads on inside a literal of which the characters in `content` were read, latest first. -/
def scanInside (content : List Char) : List Char → Scan
  | [] => .unclosed
  | '\\' :: c :: rest => scanInside (unescape c :: content) rest
  | '$' :: '\x7b' :: _ => .interpolation
  | c :: rest => if c = '"' then .closed content.reverse rest else scanInside (c :: content) rest

/-- Reads a literal at the front of a text. -/
def scan : List Char → Scan
  | '"' :: rest => scanInside [] rest
  | _ => .unclosed

def quote (s : String) : String := String.ofList (literal s.toList)

end Kennel.Nix
