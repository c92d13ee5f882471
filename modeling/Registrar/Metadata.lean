/-!
# The metadata types of the plugin registry

What generated code hands to the registry builder: the value type of a state or an action, the kind
of a configuration field, and the usage of a plugin. The sets are closed.
-/

namespace Registrar

/-- The type of the values of a state or an action. -/
inductive ValueType where
  /-- an integer between two bounds, both included -/
  | range (min max : Int64)
  /-- free text -/
  | text
  /-- a floating point number -/
  | float
  /-- a truth value -/
  | bool
  /-- one of the given texts -/
  | enum (values : List String)
  /-- a structure the registry does not look into -/
  | complex
  deriving DecidableEq, Repr

/-- The name of the form of the type. -/
def ValueType.kindName : ValueType → String
  | .range _ _ => "range"
  | .text => "text"
  | .float => "float"
  | .bool => "bool"
  | .enum _ => "enum"
  | .complex => "complex"

/-- The kind of a configuration field. -/
inductive SettingType where
  | string
  | bool
  | integer
  | float
  deriving DecidableEq, Repr

/-- The name of the kind in a feed. -/
def SettingType.name : SettingType → String
  | .string => "string"
  | .bool => "bool"
  | .integer => "integer"
  | .float => "float"

/-- Every kind of configuration field. -/
def SettingType.all : List SettingType :=
  [.string, .bool, .integer, .float]

/-- What a plugin does. -/
inductive Usage where
  /-- reads the outside world -/
  | sensor
  /-- acts on the outside world -/
  | actuator
  /-- computes between components -/
  | logic
  /-- drives what a user sees -/
  | ui
  deriving DecidableEq, Repr

/-- The name of the usage in a feed. -/
def Usage.name : Usage → String
  | .sensor => "sensor"
  | .actuator => "actuator"
  | .logic => "logic"
  | .ui => "ui"

/-- Every usage. -/
def Usage.all : List Usage :=
  [.sensor, .actuator, .logic, .ui]

end Registrar
