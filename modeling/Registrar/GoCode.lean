import Registrar.Metadata
import Registrar.Text.Literal

/-!
# Registration code

The text of one generated Go file: a package clause with its imports, a function that builds one
plugin statement by statement, and the expressions inside those statements. All foreign text stands
in literals, so every statement is one line whatever the text holds.
-/

namespace Registrar

open Text (Literal.write)

/-! ## Expressions -/

/-- The constant for a usage. -/
def Usage.code : Usage → String
  | .sensor => "metadata.Sensor"
  | .actuator => "metadata.Actuator"
  | .logic => "metadata.Logic"
  | .ui => "metadata.Ui"

/-- The constant for a kind of configuration field. -/
def SettingType.code : SettingType → String
  | .string => "metadata.String"
  | .bool => "metadata.Bool"
  | .integer => "metadata.Integer"
  | .float => "metadata.Float"

namespace GoCode

/-- A call of a function. -/
def call (function : String) (args : List String) : String :=
  function ++ "(" ++ ", ".intercalate args ++ ")"

end GoCode

/-- The expression that makes a value type; an enumeration without values has none. -/
def ValueType.code? : ValueType → Option String
  | .range min max =>
    some (GoCode.call "metadata.MakeTypeRange" [toString min.toInt, toString max.toInt])
  | .text => some (GoCode.call "metadata.MakeTypeText" [])
  | .float => some (GoCode.call "metadata.MakeTypeFloat" [])
  | .bool => some (GoCode.call "metadata.MakeTypeBool" [])
  | .enum [] => none
  | .enum values => some (GoCode.call "metadata.MakeTypeEnum" (values.map Literal.write))
  | .complex => some (GoCode.call "metadata.MakeTypeComplex" [])

namespace GoCode

/-! ## Lines -/

/-- A line of its own. -/
def line (text : String) : String :=
  text ++ "\n"

/-- The import path of the package of metadata types. -/
def metadataImport : String :=
  "mylife-home-common/components/metadata"

/-- The import path of the plugin registry. -/
def registryImport : String :=
  "mylife-home-core-library/registry"

/-- The package clause and the imports. -/
def preamble (package : String) : String :=
  line ("package " ++ package) ++ line "" ++
    line "import (" ++
    line ("\t\"" ++ metadataImport ++ "\"") ++
    line ("\t\"" ++ registryImport ++ "\"") ++
    line ")" ++ line ""

/-- What identifies a plugin in the registry. -/
structure Header where
  /-- the Go type of the plugin -/
  pluginType : String
  /-- the module that the plugin comes in -/
  moduleName : String
  name : String
  description : String
  usage : Usage
  version : String
  deriving DecidableEq, Repr

/-- Opens the function and makes the builder of the plugin. -/
def opening (h : Header) : String :=
  line "func init() \x7b" ++
    line ("\tbuilder := " ++
      call ("registry.MakePluginTypeBuilder[" ++ h.pluginType ++ "]")
        [Literal.write h.moduleName, Literal.write h.name, Literal.write h.description,
          h.usage.code, Literal.write h.version])

/-- Adds a member to the plugin: the Go name it belongs to, its own name and description, and the
expression for its type. -/
def member (function target name description type : String) : String :=
  line ("\tbuilder." ++
    call function [Literal.write target, Literal.write name, Literal.write description, type])

/-- Registers the plugin and closes the function. -/
def closing : String :=
  line "\tregistry.RegisterPlugin(builder.Build())" ++ line "\x7d" ++ line ""

end GoCode

end Registrar
