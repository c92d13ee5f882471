import Registrar.Event
import Registrar.Json.Writer
import Registrar.Text.Encoding

/-!
# The canonical form of events

Every event has one canonical value: objects throughout, the tag first, every field present and in
its order.
-/

namespace Registrar

open Json (Value)

/-- A value type as an object. -/
def ValueType.toValue (type : ValueType) : Value :=
  .object (("type", .string type.kindName) ::
    match type with
    | .range min max => [("min", .ofInt min.toInt), ("max", .ofInt max.toInt)]
    | .enum values => [("values", .array (values.map .string))]
    | _ => [])

/-- A location as an object. -/
def Location.toValue (l : Location) : Value :=
  .object [("dir", .string l.dir.text), ("root", .string l.root.text),
    ("package", .string l.package)]

/-- The declaration of a module as an object. -/
def ModuleDecl.toValue (m : ModuleDecl) : Value :=
  .object [("version", (m.version.map .string).getD .null)]

/-- The declaration of a plugin as an object. -/
def PluginDecl.toValue (p : PluginDecl) : Value :=
  .object [("plugin_type", .string p.pluginType), ("name", .string p.name),
    ("description", .string p.description), ("usage", .string p.usage.name),
    ("version", .string p.version)]

/-- The declaration of a state as an object. -/
def StateDecl.toValue (s : StateDecl) : Value :=
  .object [("field", .string s.field), ("name", .string s.name),
    ("description", .string s.description), ("value_type", s.valueType.toValue)]

/-- The declaration of an action as an object. -/
def ActionDecl.toValue (a : ActionDecl) : Value :=
  .object [("method", .string a.method), ("name", .string a.name),
    ("description", .string a.description), ("value_type", a.valueType.toValue)]

/-- The declaration of a configuration field as an object. -/
def ConfigDecl.toValue (c : ConfigDecl) : Value :=
  .object [("field", .string c.field), ("name", .string c.name),
    ("description", .string c.description), ("value_type", .string c.valueType.name)]

/-- The members of the object for an occurrence. -/
def Occurrence.members {α : Type} (declaration : α → Value) (o : Occurrence α) :
    List (String × Value) :=
  [("location", o.location.toValue), ("annotations", .array (o.annotations.map declaration))]

/-- An event as an object. -/
def Event.toValue (event : Event) : Value :=
  .object (("kind", .string event.kind.name) ::
    match event with
    | .module o => o.members ModuleDecl.toValue
    | .plugin o => o.members PluginDecl.toValue
    | .state o => o.members StateDecl.toValue
    | .action o => o.members ActionDecl.toValue
    | .config o => o.members ConfigDecl.toValue)

/-- The canonical text of an event, as bytes. -/
def Event.encode (event : Event) : Text.Bytes :=
  Text.encode event.toValue.write

end Registrar
