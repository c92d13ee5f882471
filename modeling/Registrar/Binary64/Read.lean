import Registrar.Binary64

/-!
# Decimal numbers in text

A decimal number has a sign or none, digits before and after a point, and an exponent or none. The
number nearest to it is its value.
-/

namespace Registrar.Binary64

/-- The number that decimal digits spell. -/
def ofDigits (digits : List Char) : Nat :=
  digits.foldl (fun n c => n * 10 + (c.toNat - '0'.toNat)) 0

/-- Digits at the front of a text, and the text behind them. -/
def takeDigits (cs : List Char) : List Char × List Char :=
  (cs.takeWhile Char.isDigit, cs.dropWhile Char.isDigit)

/-- A sign at the front of a text, which is a plus where there is none. -/
def takeSign : List Char → Bool × List Char
  | '-' :: rest => (true, rest)
  | '+' :: rest => (false, rest)
  | cs => (false, cs)

/-- An exponent that is the whole text; no text is the exponent zero. -/
def exponent? : List Char → Option Int
  | [] => some 0
  | c :: rest => do
    guard (c = 'e' || c = 'E')
    let (negative, rest) := takeSign rest
    guard (!rest.isEmpty && rest.all Char.isDigit)
    return if negative then -(ofDigits rest : Int) else ofDigits rest

/-- The number that a text spells: a sign, digits with a point among them or beside them, and an
exponent, of which only some digits are needed. -/
def ofChars? (cs : List Char) : Option Binary64 := do
  let (negative, cs) := takeSign cs
  let (whole, cs) := takeDigits cs
  let (fraction, cs) := match cs with
    | '.' :: rest => takeDigits rest
    | _ => ([], cs)
  guard (!(whole.isEmpty && fraction.isEmpty))
  let exponent ← exponent? cs
  return ofDecimal negative (ofDigits (whole ++ fraction)) (exponent - fraction.length)

end Registrar.Binary64
