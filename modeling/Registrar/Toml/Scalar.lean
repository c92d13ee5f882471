import Registrar.Binary64.Read
import Registrar.Settings.Tree
import Registrar.Text.Escape
import Registrar.Text.Split

/-!
# TOML words

Truth values and numbers are words without blanks. Underscores may stand between the digits of a
number; integers have 64 bits with a sign, and a number may not be rounded up to infinity.
-/

namespace Registrar.Toml

open Settings (Scalar)

/-- Whether the character may stand in a word. -/
def isWordChar (c : Char) : Bool :=
  c.isAlphanum || c = '_' || c = '-' || c = '+' || c = '.' || c = ':'

/-- The digits of a number, without the underscores between them. -/
def digits? (isDigit : Char → Bool) (cs : List Char) : Option (List Char) := do
  let pieces := Text.split '_' cs
  guard (pieces.all fun piece => !piece.isEmpty && piece.all isDigit)
  return pieces.flatten

/-- The digits before the point of a number, or of an integer: no zero leads others. -/
def wholeDigits? (cs : List Char) : Option (List Char) := do
  let digits ← digits? Char.isDigit cs
  guard (digits.head? != some '0' || digits.length = 1)
  return digits

/-- The number that digits of a base spell. -/
def ofBase (base : Nat) (digits : List Char) : Nat :=
  digits.foldl (fun n c => n * base + (Text.hexDigit? c).getD 0) 0

/-- A number of a base other than ten. -/
def based? (base : Nat) (cs : List Char) : Option Int := do
  let isDigit (c : Char) : Bool :=
    match Text.hexDigit? c with
    | some d => d < base
    | none => false
  return ofBase base (← digits? isDigit cs)

/-- An integer. -/
def integer? (cs : List Char) : Option Int := do
  let n ← match cs with
    | '0' :: 'x' :: rest => based? 16 rest
    | '0' :: 'o' :: rest => based? 8 rest
    | '0' :: 'b' :: rest => based? 2 rest
    | _ => do
      let (negative, rest) := Binary64.takeSign cs
      let n := Binary64.ofDigits (← wholeDigits? rest)
      pure (if negative then -(n : Int) else n)
  guard (Int64.minValue.toInt ≤ n && n ≤ Int64.maxValue.toInt)
  return n

/-- A number with a fraction, an exponent, or both. -/
def decimal? (negative : Bool) (cs : List Char) : Option Binary64 := do
  let isMark (c : Char) : Bool := c = 'e' || c = 'E'
  let mantissa := cs.takeWhile (!isMark ·)
  let whole ← wholeDigits? (mantissa.takeWhile (· != '.'))
  let fraction ← match mantissa.dropWhile (· != '.') with
    | [] => some []
    | _ :: rest => digits? Char.isDigit rest
  let exponent ← match cs.dropWhile (!isMark ·) with
    | [] => if fraction.isEmpty then none else some 0
    | _ :: rest => do
      let (down, rest) := Binary64.takeSign rest
      let n := Binary64.ofDigits (← digits? Char.isDigit rest)
      pure (if down then -(n : Int) else n)
  let x := Binary64.ofDecimal negative (Binary64.ofDigits (whole ++ fraction))
    (exponent - fraction.length)
  guard (x != .infinite false)
  return x

/-- A number that is no integer. -/
def float? (cs : List Char) : Option Binary64 :=
  let (negative, rest) := Binary64.takeSign cs
  if rest = "inf".toList then some (.infinite negative)
  else if rest = "nan".toList then some .nan
  else decimal? negative rest

/-- What a word means. -/
def word? (cs : List Char) : Option Scalar :=
  if cs = "true".toList then some (.bool true)
  else if cs = "false".toList then some (.bool false)
  else
    match integer? cs with
    | some n => some (.signed n)
    | none => (float? cs).map .float

end Registrar.Toml
