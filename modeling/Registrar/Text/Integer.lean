import Registrar.Binary64.Read

/-!
# Integers in text

Integers of 64 bits in decimal digits: natural numbers, which may have a plus in front of them, and
numbers behind a minus. Leading zeros do not count. What 64 bits do not hold is no integer.
-/

namespace Registrar.Text

/-- The number that digits spell, when 64 bits hold it. -/
def natural? (cs : List Char) : Option Nat := do
  let digits := match cs with
    | '+' :: rest => rest
    | _ => cs
  guard (!digits.isEmpty && digits.all Char.isDigit)
  let n := Binary64.ofDigits digits
  guard (n < UInt64.size)
  return n

/-- The number that a minus and digits spell, when 64 bits hold it. -/
def negative? (cs : List Char) : Option Int := do
  let '-' :: digits := cs | none
  guard (!digits.isEmpty && digits.all Char.isDigit)
  let n := Binary64.ofDigits digits
  guard (Int64.minValue.toInt ≤ -(n : Int))
  return -(n : Int)

end Registrar.Text
