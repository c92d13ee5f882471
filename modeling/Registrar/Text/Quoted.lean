import Registrar.Text.Printable

/-!
# Quoted text in messages

Messages show foreign text between double quotes so that every character can be told apart: the
usual controls, the quote and the backslash have short escapes, and a character that does not print
on its own is given by its code point in hexadecimal digits between braces.
-/

namespace Registrar.Text.Quoted

/-- Lower case hexadecimal digits, without leading zeros. -/
def hexDigits (n : Nat) : List Char :=
  Nat.toDigits 16 n

/-- How one character is shown between the quotes. -/
def escape (c : Char) : List Char :=
  if c = '\x00' then ['\\', '0']
  else if c = '\t' then ['\\', 't']
  else if c = '\n' then ['\\', 'n']
  else if c = '\r' then ['\\', 'r']
  else if c = '"' then ['\\', '"']
  else if c = '\\' then ['\\', '\\']
  else if isPrintable c then [c]
  else ['\\', 'u', '\x7b'] ++ hexDigits c.toNat ++ ['\x7d']

/-- The text between quotes. -/
def write (text : String) : String :=
  String.ofList ('"' :: text.toList.flatMap escape ++ ['"'])

/-- A path between quotes. There an apostrophe has a backslash in front of it as well. -/
def writePath (text : String) : String :=
  let escape (c : Char) : List Char := if c = '\'' then ['\\', '\''] else escape c
  String.ofList ('"' :: text.toList.flatMap escape ++ ['"'])

/-- Texts in brackets, each between quotes. -/
def writeList (texts : List String) : String :=
  "[" ++ ", ".intercalate (texts.map write) ++ "]"

end Registrar.Text.Quoted
