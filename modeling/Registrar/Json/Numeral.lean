import Registrar.Json.Value

/-!
# Numerals

A JSON numeral is read one byte at a time. Its value is an integer when it has neither a fraction
nor an exponent and fits into 64 bits, and otherwise a floating point number by a quick rule: as
many leading digits as fit into 64 unsigned bits make up an integer, the digits after them only
count as places, and that integer is multiplied or divided by one rounded power of ten. A result
beyond the largest finite number is refused.
-/

namespace Registrar.Json

/-- The value of a decimal digit. -/
def digit? (b : UInt8) : Option Nat :=
  if 0x30 ≤ b && b ≤ 0x39 then some (b.toNat - 0x30) else none

/-- The part of a numeral that was read last. -/
inductive NumeralPart where
  /-- the minus sign -/
  | sign
  /-- a leading zero, which no digit may follow -/
  | zero
  /-- a digit before the point -/
  | whole
  /-- the point -/
  | point
  /-- a digit after the point -/
  | fraction
  /-- the letter before the exponent -/
  | mark
  /-- the sign of the exponent -/
  | markSign
  /-- a digit of the exponent -/
  | exponent
  deriving DecidableEq, Repr

/-- A numeral as far as it was read; digits stand last first. -/
structure Numeral where
  part : NumeralPart
  negative : Bool
  whole : List Nat
  fraction : List Nat
  /-- whether the exponent is negative -/
  down : Bool
  exponent : List Nat
  deriving DecidableEq, Repr

namespace Numeral

/-- What a further byte does to a numeral. -/
inductive Extension where
  /-- the byte belongs to the numeral -/
  | more (numeral : Numeral)
  /-- the numeral ends before the byte -/
  | finished
  /-- no numeral goes on like this -/
  | refused

/-- The numeral that a first byte opens. -/
def start? (b : UInt8) : Option Numeral :=
  if b = 0x2d then some ⟨.sign, true, [], [], false, []⟩
  else
    match digit? b with
    | some 0 => some ⟨.zero, false, [0], [], false, []⟩
    | some d => some ⟨.whole, false, [d], [], false, []⟩
    | none => none

/-- Whether the byte opens an exponent. -/
def isMark (b : UInt8) : Bool :=
  b = 0x65 || b = 0x45

/-- Takes one more byte. -/
def extend (n : Numeral) (b : UInt8) : Extension :=
  match n.part, digit? b with
  | .sign, some 0 => .more { n with part := .zero, whole := [0] }
  | .sign, some d => .more { n with part := .whole, whole := [d] }
  | .sign, none => .refused
  | .zero, some _ => .refused
  | .zero, none =>
    if b = 0x2e then .more { n with part := .point }
    else if isMark b then .more { n with part := .mark }
    else .finished
  | .whole, some d => .more { n with whole := d :: n.whole }
  | .whole, none =>
    if b = 0x2e then .more { n with part := .point }
    else if isMark b then .more { n with part := .mark }
    else .finished
  | .point, some d => .more { n with part := .fraction, fraction := [d] }
  | .point, none => .refused
  | .fraction, some d => .more { n with fraction := d :: n.fraction }
  | .fraction, none => if isMark b then .more { n with part := .mark } else .finished
  | .mark, some d => .more { n with part := .exponent, exponent := [d] }
  | .mark, none =>
    if b = 0x2b then .more { n with part := .markSign }
    else if b = 0x2d then .more { n with part := .markSign, down := true }
    else .refused
  | .markSign, some d => .more { n with part := .exponent, exponent := [d] }
  | .markSign, none => .refused
  | .exponent, some d => .more { n with exponent := d :: n.exponent }
  | .exponent, none => .finished

/-- Whether the numeral may end here. -/
def isComplete (n : Numeral) : Bool :=
  match n.part with
  | .sign | .point | .mark | .markSign => false
  | .zero | .whole | .fraction | .exponent => true

/-! ## Values -/

/-- The number beyond the largest that 64 unsigned bits hold. -/
def unsignedEnd : Nat := UInt64.size

/-- Appends digits to a number while it fits into 64 bits, and says how many are left over. -/
def absorb (n : Nat) : List Nat → Nat × Nat
  | [] => (n, 0)
  | d :: rest =>
    if n * 10 + d < unsignedEnd then absorb (n * 10 + d) rest else (n, rest.length + 1)

/-- The number that digits spell. -/
def ofDigits (digits : List Nat) : Nat :=
  digits.foldl (fun n d => n * 10 + d) 0

/-- Divides by `10 ^ 308` at most the given number of times, and no further than to zero. -/
def divideDown (x : Binary64) : Nat → Binary64
  | 0 => x
  | times + 1 => if x.isZero then x else divideDown (x.overPowerOfTen 308) times

/-- `significand * 10 ^ exponent` by one rounded power of ten, or by several where the exponent lies
below the range of the format. -/
def scale (negative : Bool) (significand : Nat) (exponent : Int) : Option Binary64 :=
  let x := Binary64.ofNat negative significand
  if 308 < exponent then if x.isZero then some x else none
  else if 0 ≤ exponent then
    let product := x.timesPowerOfTen exponent.toNat
    if product.isInfinite then none else some product
  else
    let times := ((-exponent).toNat - 1) / 308
    some ((divideDown x times).overPowerOfTen ((-exponent).toNat - 308 * times))

/-- The floating point number of a numeral, when it lies within the range of the format. An exponent
of 2^31 or more is beyond every range. -/
def floating? (n : Numeral) : Option Binary64 :=
  let (head, dropped) := absorb 0 n.whole.reverse
  let (significand, ignored) := absorb head n.fraction.reverse
  let places : Int := dropped - (n.fraction.length - ignored : Nat)
  let power := ofDigits n.exponent.reverse
  if Int32.maxValue.toInt < power then
    if significand = 0 || n.down then some (Binary64.zero n.negative) else none
  else scale n.negative significand (if n.down then places - power else places + power)

/-- The value of a complete numeral. Minus zero is floating point, and so is every integer that 64
bits do not hold. -/
def value? (n : Numeral) : Option Number :=
  let (magnitude, dropped) := absorb 0 n.whole.reverse
  if n.part != .zero && n.part != .whole || dropped != 0 then n.floating?.map .floating
  else if !n.negative then some (.integer magnitude)
  else if magnitude = 0 || -(magnitude : Int) < Int64.minValue.toInt then
    some (.floating (Binary64.ofNat true magnitude))
  else some (.integer (-magnitude))

end Numeral

end Registrar.Json
