import Registrar.BuildError
import Registrar.GoCode

/-!
# The draft of a generated file

A draft gathers what is known of one generated file. Annotations arrive in any order, members before
their plugin included, and the module may come first, last or never. Nothing is rendered before
`Draft.render`, which turns the draft into the text of the file.
-/

namespace Registrar

/-- What is known so far of one generated file. -/
structure Draft where
  outputPath : Path
  package : String
  moduleName : String
  /-- the declaration of the module, once it was seen -/
  binding : Option ModuleDecl
  plugin : Option PluginDecl
  states : List StateDecl
  actions : List ActionDecl
  configs : List ConfigDecl
  deriving DecidableEq, Repr

namespace Draft

/-- A draft of which nothing is known but its place and names. -/
def empty (outputPath : Path) (package moduleName : String) : Draft :=
  ⟨outputPath, package, moduleName, none, none, [], [], []⟩

/-- The draft of the file that a location contributes to. -/
def ofLocation (l : Location) : Draft :=
  empty l.outputPath l.package l.moduleName

/-- The name of the plugin, once it is declared. -/
def pluginName (d : Draft) : Option String :=
  d.plugin.map PluginDecl.name

/-! ## Adding declarations -/

/-- Records the module, in place of an earlier one. -/
def bind (d : Draft) (m : ModuleDecl) : Draft :=
  { d with binding := some m }

/-- Records the plugin; a file has only one. -/
def addPlugin (d : Draft) (p : PluginDecl) : Except BuildError Draft :=
  match d.plugin with
  | some _ => .error (.duplicatePlugin d.outputPath)
  | none => .ok { d with plugin := some p }

/-- Records a state after the earlier ones. -/
def addState (d : Draft) (s : StateDecl) : Draft :=
  { d with states := d.states ++ [s] }

/-- Records an action after the earlier ones. -/
def addAction (d : Draft) (a : ActionDecl) : Draft :=
  { d with actions := d.actions ++ [a] }

/-- Records a configuration field after the earlier ones. -/
def addConfig (d : Draft) (c : ConfigDecl) : Draft :=
  { d with configs := d.configs ++ [c] }

/-! ## Rendering -/

/-- The version of a plugin: its own, or that of the module where it has none. -/
def versionOf (d : Draft) (p : PluginDecl) : String :=
  if p.version = "" then (d.binding.bind ModuleDecl.version).getD "" else p.version

end Draft

/-- The line for a state. -/
def StateDecl.render (s : StateDecl) : Except BuildError String :=
  match s.valueType.code? with
  | some type => .ok (GoCode.member "AddState" s.field s.name s.description type)
  | none => .error (.emptyEnum s.name)

/-- The line for an action. -/
def ActionDecl.render (a : ActionDecl) : Except BuildError String :=
  match a.valueType.code? with
  | some type => .ok (GoCode.member "AddAction" a.method a.name a.description type)
  | none => .error (.emptyEnum a.name)

/-- The line for a configuration field. -/
def ConfigDecl.render (c : ConfigDecl) : String :=
  GoCode.member "AddConfig" c.field c.name c.description c.valueType.code

/-- The texts of several declarations after one another; the first failure wins. -/
def renderEach {α : Type} (render : α → Except BuildError String) (xs : List α) :
    Except BuildError String :=
  String.join <$> xs.mapM render

namespace Draft

/-- What identifies the plugin of the draft. -/
def header (d : Draft) (p : PluginDecl) : GoCode.Header :=
  ⟨p.pluginType, d.moduleName, p.name, p.description, p.usage, d.versionOf p⟩

/-- The text of the file: states, actions and configuration fields in this order, each of them in
the order of arrival. -/
def render (d : Draft) : Except BuildError String := do
  let some p := d.plugin | throw (.missingPlugin d.outputPath)
  let states ← renderEach StateDecl.render d.states
  let actions ← renderEach ActionDecl.render d.actions
  let configs := String.join (d.configs.map ConfigDecl.render)
  return GoCode.preamble d.package ++ GoCode.opening (d.header p) ++ states ++ actions ++ configs ++
    GoCode.closing

end Draft

end Registrar
