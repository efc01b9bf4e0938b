import Kennel.Text.Invisible

/-!
# Quoted text for diagnostics

Texts and single characters as they stand in diagnostics: in quotes, with short escapes for the
common controls, and with the code point in braces for every other character that shows nothing
by itself. Each kind of quote is escaped inside its own kind only.
-/

namespace Kennel

/-- The lowercase hexadecimal digits of a number. -/
def hexDigits (n : Nat) : List Char := Nat.toDigits 16 n

/-- How a character stands inside the given kind of quotes. -/
def quoteEscape (quote c : Char) : List Char :=
  if c = '\x00' then ['\\', '0']
  else if c = '\t' then ['\\', 't']
  else if c = '\r' then ['\\', 'r']
  else if c = '\n' then ['\\', 'n']
  else if c = '\\' then ['\\', '\\']
  else if c = quote then ['\\', quote]
  else if isInvisible c then ['\\', 'u', '\x7b'] ++ hexDigits c.toNat ++ ['\x7d']
  else [c]

/-- A text in double quotes. -/
def quotedText (s : String) : String :=
  String.ofList ('"' :: s.toList.flatMap (quoteEscape '"') ++ ['"'])

/-- A character in single quotes. -/
def quotedChar (c : Char) : String := String.ofList ('\'' :: quoteEscape '\'' c ++ ['\''])

end Kennel
