import Mathlib.Data.List.Dedup
import Mathlib.Data.List.Perm.Basic
import Registrar.Proofs.Build.Call
import Registrar.Proofs.Code.Template
import Registrar.Proofs.Paths.Clean

/-!
# What a stream of events generates

The reference that a build is measured by: the events of a stream are grouped by the path that they
lead to, and the content of each file is that of its own group and the version of the one module,
spelled as `FileContent.text?` does. Nothing in the reference happens step by step; `Grouped` says
that files are those of the reference.
-/

namespace Registrar

/-! ## The reference -/

/-- The generated file of a directory. -/
def fileIn (dir : Path) : Path :=
  dir.clean.join ⟨"zzz_plugins_annotations_generated.go"⟩

theorem Location.outputPath_eq_fileIn (l : Location) : l.outputPath = fileIn l.dir :=
  rfl

/-- The name of the module in a source tree: the name that the top of the tree ends in, else the top
as it is written, and a dot for an empty one. -/
def moduleNameOf (root : Path) : String :=
  match root.components.getLast? with
  | some (.name text) => text
  | _ => if root.text = "" then "." else root.text

theorem Location.moduleName_eq (l : Location) : l.moduleName = moduleNameOf l.root := by
  unfold moduleName Path.baseName Path.fileName moduleNameOf
  rcases l.root.components.getLast? with _ | step
  · rfl
  · cases step <;> rfl

/-- Whether the event contributes to the generated file at a path. -/
def Event.feeds (event : Event) (p : Path) : Bool :=
  event.kind ≠ .module && (fileIn event.location.dir).order p = .eq

/-- The events that contribute to the file at a path, in the order of the stream. -/
def eventsAt (events : List Event) (p : Path) : List Event :=
  events.filter (·.feeds p)

/-- The plugins that are declared for a path. -/
def pluginsAt (events : List Event) (p : Path) : List PluginDecl :=
  (eventsAt events p).flatMap Event.plugins

/-- The states that are declared for a path. -/
def statesAt (events : List Event) (p : Path) : List StateDecl :=
  (eventsAt events p).flatMap Event.states

/-- The actions that are declared for a path. -/
def actionsAt (events : List Event) (p : Path) : List ActionDecl :=
  (eventsAt events p).flatMap Event.actions

/-- The configuration fields that are declared for a path. -/
def configsAt (events : List Event) (p : Path) : List ConfigDecl :=
  (eventsAt events p).flatMap Event.configs

/-- The modules of a stream. -/
def modulesOf (events : List Event) : List ModuleDecl :=
  events.flatMap Event.modules

/-- The version of the module of a stream, if there is a module and it has one. -/
def moduleVersion? (events : List Event) : Option String :=
  (modulesOf events).head?.bind ModuleDecl.version

/-- What the file at a path is written from: the package of its first event, the module that this
event names, all else that its plugin declares, and its members. Where the plugin leaves its version
out, the module of the stream has it. -/
def contentAt? (events : List Event) (p : Path) : Option FileContent := do
  let first ← (eventsAt events p).head?
  let plugin ← (pluginsAt events p).head?
  return {
    package := first.location.package
    header := {
      pluginType := plugin.pluginType
      moduleName := moduleNameOf first.location.root
      name := plugin.name
      description := plugin.description
      usage := plugin.usage
      version :=
        if plugin.version ≠ "" then plugin.version else (moduleVersion? events).getD "" }
    states := statesAt events p
    actions := actionsAt events p
    configs := configsAt events p }

/-- The text of the file at a path. -/
def fileText? (events : List Event) (p : Path) : Option String :=
  (contentAt? events p).bind FileContent.text?

/-- The paths that events lead to, each once and in ascending order. -/
def outputPaths (events : List Event) : List Path :=
  ((events.filter (·.kind ≠ .module)).map (fileIn ·.location.dir)).dedup.mergeSort
    Path.atMost

/-- The files of a stream of events. -/
def filesOf? (events : List Event) : Option GeneratedFiles :=
  (outputPaths events).mapM fun p => return (p, Text.encode (← fileText? events p))

/-- The files are what the events make up, path by path, and every event has its place in one of
them. -/
structure Grouped (events : List Event) (files : GeneratedFiles) : Prop where
  /-- the files are those of the reference -/
  filesOf?_eq : filesOf? events = some files
  /-- their paths ascend strictly -/
  sorted : files.Sorted
  /-- their paths are those that some event leads to -/
  mem_keys_iff : ∀ p, p ∈ files.keys ↔ ∃ e ∈ events, e.kind ≠ .module ∧ fileIn e.location.dir = p
  /-- every event but a module contributes to exactly one of them -/
  existsUnique_feeds : ∀ e ∈ events, e.kind ≠ .module → ∃! p, p ∈ files.keys ∧ e.feeds p
  /-- every event carries one annotation -/
  count_eq_one : ∀ e ∈ events, e.count = 1
  /-- one plugin is declared for each of them -/
  pluginsAt_eq : ∀ p ∈ files.keys, ∃ plugin, pluginsAt events p = [plugin]
  /-- at most one module is declared -/
  length_modulesOf_le : (modulesOf events).length ≤ 1

end Registrar
