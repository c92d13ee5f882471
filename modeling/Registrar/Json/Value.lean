import Registrar.Binary64

/-!
# JSON values

The data of a JSON text. Members of an object keep their order and may repeat; whether a repeated
member is an error is for the reader of the object to say. Numbers written as integers that fit into
64 bits, signed or unsigned, stay integers, and all others are floating point.
-/

namespace Registrar.Json

/-- A number of a JSON text. -/
inductive Number where
  | integer (value : Int)
  | floating (value : Binary64)
  deriving DecidableEq, Repr

/-- A JSON value. -/
inductive Value where
  | null
  | boolean (value : Bool)
  | number (value : Number)
  | string (value : String)
  | array (items : List Value)
  | object (members : List (String × Value))
  deriving Repr, Inhabited

/-- The value of the first member with a name. -/
def Value.member? (v : Value) (name : String) : Option Value :=
  match v with
  | .object members => members.lookup name
  | _ => none

/-- An integer as a value. -/
def Value.ofInt (n : Int) : Value :=
  .number (.integer n)

end Registrar.Json
