import Registrar.Binary64.Shortest
import Registrar.Json.Value
import Registrar.Text.Quoted

/-!
# Values of the wrong shape

Why a JSON value is not what a feed holds in its place, and the message that says so.
-/

namespace Registrar.Feed

open Registrar.Json (Value Number)

/-- Why a JSON value does not mean what its place asks for. -/
inductive Mismatch where
  /-- the value is of another type -/
  | wrongType (found : String) (expected : String)
  /-- the value is of the right type and out of range -/
  | wrongValue (found : String) (expected : String)
  /-- an array has too few or too many items -/
  | wrongLength (length : Nat) (expected : String)
  /-- a name stands for none of the alternatives -/
  | unknownVariant (name : String) (known : List String)
  /-- a member is absent -/
  | missingField (name : String)
  /-- a member is given twice -/
  | duplicateField (name : String)
  deriving DecidableEq, Repr

/-- A name as messages show it. -/
def ticked (name : String) : String :=
  "`" ++ name ++ "`"

/-- How messages call the type of a value, and the value itself where it is short. -/
def describe : Value → String
  | .null => "null"
  | .boolean b => "boolean " ++ ticked (if b then "true" else "false")
  | .number (.integer n) => "integer " ++ ticked (toString n)
  | .number (.floating x) => "floating point " ++ ticked x.toText
  | .string s => "string " ++ Text.Quoted.write s
  | .array _ => "sequence"
  | .object _ => "map"

/-- The mismatch of a value of another type. -/
def Mismatch.ofValue (found : Value) (expected : String) : Mismatch :=
  .wrongType (describe found) expected

/-- The text of the message. -/
def Mismatch.message : Mismatch → String
  | .wrongType found expected => "invalid type: " ++ found ++ ", expected " ++ expected
  | .wrongValue found expected => "invalid value: " ++ found ++ ", expected " ++ expected
  | .wrongLength length expected =>
    "invalid length " ++ toString length ++ ", expected " ++ expected
  | .unknownVariant name known =>
    "unknown variant " ++ ticked name ++ ", expected one of " ++
      ", ".intercalate (known.map ticked)
  | .missingField name => "missing field " ++ ticked name
  | .duplicateField name => "duplicate field " ++ ticked name

/-- A count of elements, in words. -/
def elements (n : Nat) : String :=
  toString n ++ (if n = 1 then " element" else " elements")

end Registrar.Feed
