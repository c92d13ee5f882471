import Registrar.Metadata
import Registrar.Path

/-!
# Annotations and where they were found

A source analyser reports every annotated declaration as one occurrence: its location and the
annotations written on it. A well-formed occurrence carries exactly one annotation. The location
alone decides which generated file the annotation belongs to, and under which module name.
-/

namespace Registrar

/-- The name of the generated file in every source directory. -/
def generatedFileName : String :=
  "zzz_plugins_annotations_generated.go"

/-- Where an annotation was found. -/
structure Location where
  /-- the directory of the annotated source file -/
  dir : Path
  /-- the directory at the top of its source tree -/
  root : Path
  /-- the package that the source file declares -/
  package : String
  deriving DecidableEq, Repr

/-- The generated file that the location contributes to. -/
def Location.outputPath (l : Location) : Path :=
  l.dir.clean.join ⟨generatedFileName⟩

/-- The name of the module that the source tree holds. -/
def Location.moduleName (l : Location) : String :=
  l.root.baseName

/-! ## The five annotations -/

/-- Which annotation a declaration carries. -/
inductive Kind where
  | module
  | plugin
  | state
  | action
  | config
  deriving DecidableEq, Repr

/-- Every kind of annotation. -/
def Kind.all : List Kind :=
  [.module, .plugin, .state, .action, .config]

/-- The annotation as it is written in source code. -/
def Kind.title : Kind → String
  | .module => "Module"
  | .plugin => "Plugin"
  | .state => "State"
  | .action => "Action"
  | .config => "Config"

/-- The name of the kind in a feed. -/
def Kind.name : Kind → String
  | .module => "module"
  | .plugin => "plugin"
  | .state => "state"
  | .action => "action"
  | .config => "config"

/-- Marks the module of a build. -/
structure ModuleDecl where
  /-- the version of plugins that declare none -/
  version : Option String
  deriving DecidableEq, Repr

/-- Declares the plugin of a generated file. -/
structure PluginDecl where
  /-- the identifier of the annotated type -/
  pluginType : String
  name : String
  description : String
  usage : Usage
  /-- the version of the plugin; where it is empty the version of the module counts -/
  version : String
  deriving DecidableEq, Repr

/-- Exposes a field as a state of the plugin. -/
structure StateDecl where
  field : String
  name : String
  description : String
  valueType : ValueType
  deriving DecidableEq, Repr

/-- Exposes a method as an action of the plugin. -/
structure ActionDecl where
  method : String
  name : String
  description : String
  valueType : ValueType
  deriving DecidableEq, Repr

/-- Exposes a field as a configuration entry of the plugin. -/
structure ConfigDecl where
  field : String
  name : String
  description : String
  valueType : SettingType
  deriving DecidableEq, Repr

/-! ## Occurrences and events -/

/-- A place in the source and the annotations found there. -/
structure Occurrence (α : Type) where
  location : Location
  annotations : List α
  deriving DecidableEq, Repr

/-- The only annotation of an occurrence, or how many it carries instead. -/
def Occurrence.single {α : Type} (o : Occurrence α) : Except Nat α :=
  match o.annotations with
  | [only] => .ok only
  | others => .error others.length

/-- One entry of the stream of annotations. -/
inductive Event where
  | module (occurrence : Occurrence ModuleDecl)
  | plugin (occurrence : Occurrence PluginDecl)
  | state (occurrence : Occurrence StateDecl)
  | action (occurrence : Occurrence ActionDecl)
  | config (occurrence : Occurrence ConfigDecl)
  deriving DecidableEq, Repr

/-- Which annotation the event reports. -/
def Event.kind : Event → Kind
  | .module _ => .module
  | .plugin _ => .plugin
  | .state _ => .state
  | .action _ => .action
  | .config _ => .config

/-- Where the event was found. -/
def Event.location : Event → Location
  | .module o => o.location
  | .plugin o => o.location
  | .state o => o.location
  | .action o => o.location
  | .config o => o.location

end Registrar
