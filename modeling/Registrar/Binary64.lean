/-!
# Binary floating point numbers

The numbers of the 64-bit binary format as exact data: a sign, a significand and a power of two.
`ofRatio` is the one rule of rounding, to the nearest number and to the even significand between
two; products and quotients are exact ratios that it rounds. Nothing here depends on hardware.
-/

namespace Registrar

/-- A number of the format: `significand * 2 ^ exponent` below its sign, or one of the specials. -/
inductive Binary64 where
  | nan
  | infinite (negative : Bool)
  | finite (negative : Bool) (significand : Nat) (exponent : Int)
  deriving DecidableEq, Repr

namespace Binary64

/-- The least exponent; below it the significand loses digits instead. -/
def minExponent : Int := -1074

/-- The largest exponent of a finite number. -/
def maxExponent : Int := 971

/-- The number of binary digits of a significand. -/
def precision : Nat := 53

/-- Zero with a sign. -/
def zero (negative : Bool) : Binary64 :=
  .finite negative 0 minExponent

/-- Whether the number is zero. -/
def isZero : Binary64 → Bool
  | .finite _ m _ => m = 0
  | _ => false

/-- Whether the number lies beyond the largest finite one. -/
def isInfinite : Binary64 → Bool
  | .infinite _ => true
  | _ => false

/-- A power of two. -/
def twoTo (n : Nat) : Nat :=
  Nat.pow 2 n

/-- A power of ten. -/
def tenTo (n : Nat) : Nat :=
  Nat.pow 10 n

/-- The quotient rounded to the nearest integer, to the even one between two. -/
def roundDiv (num den : Nat) : Nat :=
  let quotient := num / den
  let twice := 2 * (num % den)
  if twice < den then quotient
  else if twice = den then quotient + quotient % 2
  else quotient + 1

/-- `num / den` as a ratio over `2 ^ exponent`. -/
def scaled (num den : Nat) (exponent : Int) : Nat × Nat :=
  if exponent < 0 then (num * twoTo (-exponent).toNat, den)
  else (num, den * twoTo exponent.toNat)

/-- The greatest power of two that is not above the positive ratio. -/
def floorLog (num den : Nat) : Int :=
  let guess := (num.log2 : Int) - den.log2
  let (n, d) := scaled num den guess
  if d ≤ n then guess else guess - 1

/-- The number nearest to `num / den`. -/
def ofRatio (negative : Bool) (num den : Nat) : Binary64 :=
  if num = 0 then zero negative
  else
    let exponent := max minExponent (floorLog num den - (precision - 1))
    let (n, d) := scaled num den exponent
    let significand := roundDiv n d
    let (significand, exponent) :=
      if significand = twoTo precision then (twoTo (precision - 1), exponent + 1)
      else (significand, exponent)
    if maxExponent < exponent then .infinite negative
    else if significand = 0 then zero negative
    else .finite negative significand exponent

/-- The number nearest to a natural number. -/
def ofNat (negative : Bool) (n : Nat) : Binary64 :=
  ofRatio negative n 1

/-- The number nearest to `significand * 10 ^ exponent`. A number of more than 310 digits before the
point lies beyond every finite one, and one below `10 ^ -330` is nearest to zero. -/
def ofDecimal (negative : Bool) (significand : Nat) (exponent : Int) : Binary64 :=
  let magnitude := exponent + (Nat.toDigits 10 significand).length
  if significand = 0 || magnitude < -330 then zero negative
  else if 310 < magnitude then .infinite negative
  else if exponent < 0 then ofRatio negative significand (tenTo (-exponent).toNat)
  else ofRatio negative (significand * tenTo exponent.toNat) 1

/-- The product of a number and a power of ten that is itself rounded first. -/
def timesPowerOfTen (x : Binary64) (power : Nat) : Binary64 :=
  match x, ofNat false (tenTo power) with
  | .finite negative m e, .finite _ m' e' =>
    let (n, d) := scaled (m * m') 1 (-(e + e'))
    ofRatio negative n d
  | x, _ => x

/-- The quotient of a number by a power of ten that is itself rounded first. -/
def overPowerOfTen (x : Binary64) (power : Nat) : Binary64 :=
  match x, ofNat false (tenTo power) with
  | .finite negative m e, .finite _ m' e' =>
    let (n, d) := scaled m m' (e' - e)
    ofRatio negative n d
  | x, _ => x

end Binary64

end Registrar
