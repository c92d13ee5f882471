import Registrar.Json.Fault
import Registrar.Text.Encoding

/-!
# Strings between quotes

A JSON string is read one byte at a time, from behind its opening quote to its closing one. Bytes
stand for themselves except for the escapes; four hexadecimal digits give a UTF-16 unit, and two
units that pair up give one character. A control below the space is refused, and so is a unit of a
pair that stands alone. At the closing quote the bytes must spell text.
-/

namespace Registrar.Json

open Registrar.Text (Bytes)

/-- Where the reader of a string stands. -/
inductive Posture where
  /-- between characters -/
  | plain
  /-- behind a backslash -/
  | escaped
  /-- among the digits of a unit, last first; `lead` is the unit it must pair up with -/
  | unit (lead : Option Nat) (digits : List UInt8)
  /-- behind the first unit of a pair -/
  | paired (lead : Nat)
  /-- behind the backslash that follows the first unit of a pair -/
  | pairedEscape (lead : Nat)
  deriving DecidableEq, Repr

/-- A string as far as it was read; bytes stand last first. -/
structure Spelling where
  bytes : Bytes
  posture : Posture
  deriving DecidableEq, Repr

namespace Spelling

/-- The string behind its opening quote. -/
def start : Spelling :=
  ⟨[], .plain⟩

/-- What a further byte does to a string. -/
inductive Extension where
  | more (spelling : Spelling)
  /-- the byte is the closing quote -/
  | finished (text : String)
  | refused

/-- The value of a hexadecimal digit. -/
def hexValue? (b : UInt8) : Option Nat :=
  if 0x30 ≤ b && b ≤ 0x39 then some (b.toNat - 0x30)
  else if 0x61 ≤ b && b ≤ 0x66 then some (b.toNat - 0x61 + 10)
  else if 0x41 ≤ b && b ≤ 0x46 then some (b.toNat - 0x41 + 10)
  else none

/-- The number that hexadecimal digits spell, the last digit standing first. -/
def hexNumber? : List UInt8 → Option Nat
  | [] => some 0
  | b :: before => do return (← hexNumber? before) * 16 + (← hexValue? b)

/-- The byte that a one-letter escape stands for. -/
def escapeByte? (b : UInt8) : Option UInt8 :=
  if b = 0x22 || b = 0x5c || b = 0x2f then some b
  else if b = 0x62 then some 0x08
  else if b = 0x66 then some 0x0c
  else if b = 0x6e then some 0x0a
  else if b = 0x72 then some 0x0d
  else if b = 0x74 then some 0x09
  else none

/-- Whether the unit opens a pair. -/
def isLead (unit : Nat) : Bool :=
  0xd800 ≤ unit && unit ≤ 0xdbff

/-- Whether the unit closes a pair. -/
def isTrail (unit : Nat) : Bool :=
  0xdc00 ≤ unit && unit ≤ 0xdfff

/-- Puts a character behind the bytes. -/
def push (s : Spelling) (point : Nat) : Spelling :=
  ⟨(String.utf8EncodeChar (Char.ofNat point)).reverse ++ s.bytes, .plain⟩

/-- Takes a complete unit. -/
def takeUnit (s : Spelling) (lead : Option Nat) (unit : Nat) : Extension :=
  match lead with
  | none =>
    if isTrail unit then .refused
    else if isLead unit then .more { s with posture := .paired unit }
    else .more (s.push unit)
  | some first =>
    if isTrail unit then .more (s.push (0x10000 + (first - 0xd800) * 0x400 + (unit - 0xdc00)))
    else .refused

/-- Takes one more byte. -/
def extend (s : Spelling) (b : UInt8) : Extension :=
  match s.posture with
  | .plain =>
    if b = 0x22 then
      match Text.decode? s.bytes.reverse with
      | some text => .finished text
      | none => .refused
    else if b = 0x5c then .more { s with posture := .escaped }
    else if b < 0x20 then .refused
    else .more { s with bytes := b :: s.bytes }
  | .escaped =>
    if b = 0x75 then .more { s with posture := .unit none [] }
    else
      match escapeByte? b with
      | some byte => .more ⟨byte :: s.bytes, .plain⟩
      | none => .refused
  | .unit lead digits =>
    if digits.length < 3 then .more { s with posture := .unit lead (b :: digits) }
    else
      match hexNumber? (b :: digits) with
      | some unit => s.takeUnit lead unit
      | none => .refused
  | .paired lead => if b = 0x5c then .more { s with posture := .pairedEscape lead } else .refused
  | .pairedEscape lead =>
    if b = 0x75 then .more { s with posture := .unit (some lead) [] } else .refused

/-- What is wrong with a byte that the string is refused with. -/
def flaw (s : Spelling) (b : UInt8) : Flaw :=
  match s.posture with
  | .plain => if b = 0x22 then .noText else .rawControl
  | .escaped => .badEscape
  | .unit _ digits =>
    match hexNumber? (b :: digits) with
    | some _ => .loneUnit
    | none => .badEscape
  | .paired _ | .pairedEscape _ => .noSecondUnit

end Spelling

end Registrar.Json
