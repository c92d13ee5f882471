import Registrar.Event
import Registrar.Feed.Tag

/-!
# What the values of a feed mean

The records of a feed as schemas, the tagged kinds built from them, and the forms by which events,
value types and kinds are read from text. An event is tagged with `kind` and a value type with
`type`. Inside an event the tag of a value type may also be the position of the type.
-/

namespace Registrar

open Feed
open Json (Value Form)

/-! ## Simple parts -/

/-- Reads a path. -/
def Path.ofValue : Value → Result Path
  | .string s => .ok ⟨s⟩
  | value => .error (.ofValue value "path string")

/-- Reads the usage of a plugin. -/
def Usage.ofValue : Value → Result Usage :=
  readVariant Usage.name Usage.all

/-- Reads the kind of a configuration field. -/
def SettingType.ofValue : Value → Result SettingType :=
  readVariant SettingType.name SettingType.all

/-- Reads a version, which may be absent. -/
def readVersion : Value → Result (Option String)
  | .null => .ok none
  | value => some <$> readString value

/-! ## Value types -/

/-- The forms of a value type. -/
inductive ValueForm where
  | range
  | text
  | float
  | bool
  | enum
  | complex
  deriving DecidableEq, Repr

/-- The name of the form in a feed. -/
def ValueForm.name : ValueForm → String
  | .range => "range"
  | .text => "text"
  | .float => "float"
  | .bool => "bool"
  | .enum => "enum"
  | .complex => "complex"

/-- The tag of a value type. -/
def ValueType.tag : Tag ValueForm :=
  ⟨"internally tagged enum Type", "type", ValueForm.name,
    [.range, .text, .float, .bool, .enum, .complex]⟩

/-- The bounds of a range. -/
def rangeSchema : Schema ValueType where
  title := "struct variant Type::Range"
  types := [Int64, Int64]
  fields := .cons ⟨"min", readInt64, none⟩ (.cons ⟨"max", readInt64, none⟩ .nil)
  make := fun (min, max, _) => .range min max

/-- The values of an enumeration. -/
def enumSchema : Schema ValueType where
  title := "struct variant Type::Enum"
  types := [List String]
  fields := .cons ⟨"values", readList readString, none⟩ .nil
  make := fun (values, _) => .enum values

/-- Reads what stands beside the tag of a type without parts: anything in an object, and nothing in
an array. -/
def readNothing (type : ValueType) : Value → Result ValueType
  | .array (item :: items) =>
    .error (.wrongLength (item :: items).length (elements 0 ++ " in sequence"))
  | _ => .ok type

/-- Reads what stands beside the tag of a value type. -/
def ValueForm.readRest : ValueForm → Value → Result ValueType
  | .range => rangeSchema.read
  | .text => readNothing .text
  | .float => readNothing .float
  | .bool => readNothing .bool
  | .enum => enumSchema.read
  | .complex => readNothing .complex

/-- Reads a value type. -/
def ValueType.ofValue (value : Value) : Result ValueType := do
  let (form, rest) ← ValueType.tag.split ValueType.tag.readLabelOrPosition value
  form.readRest rest

/-- Value types as texts of their own. -/
def ValueType.form : Form Mismatch ValueType :=
  ⟨ValueType.tag.watch, ValueType.ofValue⟩

/-! ## Records -/

/-- The location of an occurrence. -/
def Location.schema : Schema Location where
  title := "struct SourceLocation"
  types := [Path, Path, String]
  fields := .cons ⟨"dir", Path.ofValue, none⟩ (.cons ⟨"root", Path.ofValue, none⟩
    (.cons ⟨"package", readString, none⟩ .nil))
  make := fun (dir, root, package, _) => ⟨dir, root, package⟩

/-- The declaration of a module. -/
def ModuleDecl.schema : Schema ModuleDecl where
  title := "struct ModuleAnnotation"
  types := [Option String]
  fields := .cons ⟨"version", readVersion, some none⟩ .nil
  make := fun (version, _) => ⟨version⟩

/-- The declaration of a plugin. -/
def PluginDecl.schema : Schema PluginDecl where
  title := "struct PluginAnnotation"
  types := [String, String, String, Usage, String]
  fields := .cons ⟨"plugin_type", readString, none⟩ (.cons ⟨"name", readString, none⟩
    (.cons ⟨"description", readString, some ""⟩ (.cons ⟨"usage", Usage.ofValue, none⟩
      (.cons ⟨"version", readString, some ""⟩ .nil))))
  make := fun (pluginType, name, description, usage, version, _) =>
    ⟨pluginType, name, description, usage, version⟩

/-- The declaration of a state. -/
def StateDecl.schema : Schema StateDecl where
  title := "struct StateAnnotation"
  types := [String, String, String, ValueType]
  fields := .cons ⟨"field", readString, none⟩ (.cons ⟨"name", readString, none⟩
    (.cons ⟨"description", readString, some ""⟩
      (.cons ⟨"value_type", ValueType.ofValue, none⟩ .nil)))
  make := fun (field, name, description, valueType, _) => ⟨field, name, description, valueType⟩

/-- The declaration of an action. -/
def ActionDecl.schema : Schema ActionDecl where
  title := "struct ActionAnnotation"
  types := [String, String, String, ValueType]
  fields := .cons ⟨"method", readString, none⟩ (.cons ⟨"name", readString, none⟩
    (.cons ⟨"description", readString, some ""⟩
      (.cons ⟨"value_type", ValueType.ofValue, none⟩ .nil)))
  make := fun (method, name, description, valueType, _) => ⟨method, name, description, valueType⟩

/-- The declaration of a configuration field. -/
def ConfigDecl.schema : Schema ConfigDecl where
  title := "struct ConfigAnnotation"
  types := [String, String, String, SettingType]
  fields := .cons ⟨"field", readString, none⟩ (.cons ⟨"name", readString, none⟩
    (.cons ⟨"description", readString, some ""⟩
      (.cons ⟨"value_type", SettingType.ofValue, none⟩ .nil)))
  make := fun (field, name, description, valueType, _) => ⟨field, name, description, valueType⟩

/-- An occurrence of annotations of one kind. -/
def Occurrence.schema {α : Type} (declaration : Schema α) : Schema (Occurrence α) where
  title := "struct Occurrence"
  types := [Location, List α]
  fields := .cons ⟨"location", Location.schema.read, none⟩
    (.cons ⟨"annotations", readList declaration.read, none⟩ .nil)
  make := fun (location, annotations, _) => ⟨location, annotations⟩

/-! ## Events -/

/-- The tag of an event. -/
def Event.tag : Tag Kind :=
  ⟨"internally tagged enum AnnotationEvent", "kind", Kind.name, Kind.all⟩

/-- Reads what stands beside the tag of an event. -/
def Kind.readRest : Kind → Value → Result Event
  | .module, rest => .module <$> (Occurrence.schema ModuleDecl.schema).read rest
  | .plugin, rest => .plugin <$> (Occurrence.schema PluginDecl.schema).read rest
  | .state, rest => .state <$> (Occurrence.schema StateDecl.schema).read rest
  | .action, rest => .action <$> (Occurrence.schema ActionDecl.schema).read rest
  | .config, rest => .config <$> (Occurrence.schema ConfigDecl.schema).read rest

/-- Reads an event. -/
def Event.ofValue (value : Value) : Result Event := do
  let (kind, rest) ← Event.tag.split Event.tag.readLabel value
  kind.readRest rest

/-- Events as texts of their own. -/
def Event.form : Form Mismatch Event :=
  ⟨Event.tag.watch, Event.ofValue⟩

/-- Kinds of annotations as texts of their own. -/
def Kind.form : Form Mismatch Kind :=
  variantForm Kind.name Kind.all

end Registrar
