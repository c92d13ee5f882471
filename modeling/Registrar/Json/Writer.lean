import Registrar.Binary64.Shortest
import Registrar.Json.Value
import Registrar.Text.Literal

/-!
# Writing JSON

The shortest spelling of a value: no blanks, members in their order, strings as literals, integers
in decimal digits and floating point numbers with as few digits as tell them apart.
-/

namespace Registrar.Json

/-- The text of a number. -/
def Number.write : Number → String
  | .integer n => toString n
  | .floating x => x.toText

mutual

/-- The text of a value. -/
def Value.write : Value → String
  | .null => "null"
  | .boolean true => "true"
  | .boolean false => "false"
  | .number n => n.write
  | .string s => Text.Literal.write s
  | .array items => "[" ++ ",".intercalate (writeItems items) ++ "]"
  | .object members => "\x7b" ++ ",".intercalate (writeMembers members) ++ "\x7d"

/-- The texts of the items of an array. -/
def writeItems : List Value → List String
  | [] => []
  | item :: items => item.write :: writeItems items

/-- The texts of the members of an object. -/
def writeMembers : List (String × Value) → List String
  | [] => []
  | (name, value) :: members =>
    (Text.Literal.write name ++ ":" ++ value.write) :: writeMembers members

end

end Registrar.Json
