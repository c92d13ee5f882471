import Registrar.Binary64

/-!
# The shortest decimal of a number

A finite number is written with the fewest decimal digits that no other number of the format is
nearer to, and with the nearest such digits where several would do. For one digit, two digits and so
on up to seventeen, the two neighbours of the number on that decimal grid are tested against the
interval of ratios that round to the number; its ends belong to it when the significand is even.

Where a number lies halfway between two such decimals, `Tie` says which of them is written: messages
about feeds show the even one, and messages about settings the one further from zero.
-/

namespace Registrar.Binary64

/-- A decimal number: `significand * 10 ^ exponent`. -/
structure Decimal where
  significand : Nat
  exponent : Int
  deriving DecidableEq, Repr

/-- Compares `a * 10 ^ p` with `b * 2 ^ q`. -/
def compareDecimal (a : Nat) (p : Int) (b : Nat) (q : Int) : Ordering :=
  let (n, d) := scaled a 1 q
  let left := n * tenTo p.toNat
  let right := b * d * tenTo (-p).toNat
  compare left right

/-- The greatest power of ten that is not above the positive number `m * 2 ^ q`. -/
def floorLogTen (m : Nat) (q : Int) : Int :=
  let guess := ((m.log2 : Int) + q) * 30103 / 100000
  let fits (power : Int) : Bool := compareDecimal 1 power m q != .gt
  ([guess + 1, guess, guess - 1].find? fits).getD guess

/-- The greatest multiple of `10 ^ p` that is not above `m * 2 ^ q`, in units of `10 ^ p`. -/
def floorOnGrid (m : Nat) (q p : Int) : Nat :=
  let (n, d) := scaled m 1 (-q)
  n * tenTo (-p).toNat / (d * tenTo p.toNat)

/-- Whether `a * 10 ^ p` rounds to `m * 2 ^ q`. Everything is measured in quarters of the last
place, because the number below a power of two is half as far away. -/
def roundsTo (a : Nat) (p : Int) (m : Nat) (q : Int) : Bool :=
  let below := if m = twoTo (precision - 1) && minExponent < q then 1 else 2
  let low := compareDecimal a p (4 * m - below) (q - 2)
  let high := compareDecimal a p (4 * m + 2) (q - 2)
  if m % 2 = 0 then low != .lt && high != .gt else low == .gt && high == .lt

/-- Which of two equally near decimals is written. -/
inductive Tie where
  | even
  /-- the one further from zero -/
  | up
  deriving DecidableEq, Repr

/-- The choice between a point of a grid and the next one. -/
def Tie.choose : Tie → Nat → Nat
  | .even, low => low + low % 2
  | .up, low => low + 1

/-- The nearest of the grid points around `m * 2 ^ q` that round to it. -/
def nearestOnGrid (tie : Tie) (m : Nat) (q p : Int) : Option Nat :=
  let low := floorOnGrid m q p
  match roundsTo low p m q, roundsTo (low + 1) p m q with
  | true, true =>
    match compareDecimal (2 * low + 1) p (2 * m) q with
    | .lt => some (low + 1)
    | .gt => some low
    | .eq => some (tie.choose low)
  | true, false => some low
  | false, true => some (low + 1)
  | false, false => none

/-- Takes factors of ten out of the significand, as many as the fuel allows. -/
def Decimal.trim (d : Decimal) : Nat → Decimal
  | 0 => d
  | fuel + 1 =>
    if d.significand % 10 = 0 && d.significand != 0 then
      trim ⟨d.significand / 10, d.exponent + 1⟩ fuel
    else d

/-- The shortest decimal of the positive number `m * 2 ^ q`. -/
def shortest (tie : Tie) (m : Nat) (q : Int) : Decimal :=
  let top := floorLogTen m q
  let found : Option Decimal := (List.range 17).findSome? fun (digits : Nat) => do
    return ⟨← nearestOnGrid tie m q (top - digits), top - digits⟩
  (found.getD ⟨m, 0⟩).trim 20

/-! ## Layouts -/

/-- The digits of a natural number. -/
def digitsOf (n : Nat) : String :=
  String.ofList (Nat.toDigits 10 n)

/-- The decimal without an exponent; `whole` is what follows a number without a fraction. -/
def Decimal.positional (d : Decimal) (whole : String) : String :=
  let digits := digitsOf d.significand
  let zeros (n : Nat) := String.ofList (List.replicate n '0')
  if 0 ≤ d.exponent then digits ++ zeros d.exponent.toNat ++ whole
  else
    let places := (-d.exponent).toNat
    if places < digits.length then
      let cut := digits.length - places
      String.ofList (digits.toList.take cut) ++ "." ++ String.ofList (digits.toList.drop cut)
    else "0." ++ zeros (places - digits.length) ++ digits

/-- The decimal with one digit before the point and an exponent that always shows its sign. -/
def Decimal.scientific (d : Decimal) : String :=
  let digits := digitsOf d.significand
  let power := d.exponent + digits.length - 1
  let rest := String.ofList digits.toList.tail
  String.ofList (digits.toList.take 1) ++ (if rest = "" then "" else "." ++ rest) ++ "e" ++
    (if power < 0 then "-" else "+") ++ digitsOf power.natAbs

/-- The sign, when there is one. -/
def sign (negative : Bool) : String :=
  if negative then "-" else ""

/-- The number as messages about feeds show it: without an exponent from `10 ^ -5` up to `10 ^ 16`,
always with a fraction there, and with an exponent elsewhere. -/
def toText : Binary64 → String
  | .nan => "NaN"
  | .infinite negative => sign negative ++ "inf"
  | .finite negative m q =>
    if m = 0 then sign negative ++ "0.0"
    else
      let d := shortest .even m q
      let power := d.exponent + (digitsOf d.significand).length - 1
      sign negative ++
        (if -5 ≤ power && power ≤ 15 then d.positional ".0" else d.scientific)

/-- The number as messages about settings show it: never with an exponent. -/
def toPlainText : Binary64 → String
  | .nan => "NaN"
  | .infinite negative => sign negative ++ "inf"
  | .finite negative m q =>
    if m = 0 then sign negative ++ "0" else sign negative ++ (shortest .up m q).positional ""

end Registrar.Binary64
