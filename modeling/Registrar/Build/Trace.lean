import Registrar.Build
import Registrar.Log.Record
import Registrar.Text.Quoted

/-!
# What a build reports

The log records of a build: drafts that come into being, declarations recorded in them, and the
files that come out. The records follow from the states of the build, and taking them down changes
nothing: `generateTraced_snd`.
-/

namespace Registrar

open Log (Record pathField numberField)

/-- The name under which builds report. -/
def buildTarget : String :=
  "annogen_framework::engine"

/-- The name under which drafts report. -/
def draftTarget : String :=
  "annogen_framework::generator"

namespace Build

/-- The record of a new draft. -/
def newDraftRecord (l : Location) : Record :=
  ⟨.debug, buildTarget, "Created file generator",
    [pathField "output" l.outputPath, ("module", l.moduleName)]⟩

/-- The record of a draft that learns of the module. -/
def bindingRecord (output : Path) : Record :=
  ⟨.trace, draftTarget, "Module binding recorded", [pathField "output" output]⟩

/-- The records of a draft that comes into being for a location, when there is none yet. -/
def newDraftRecords (b : Build) (l : Location) : List Record :=
  match b.draft? l.outputPath with
  | some _ => []
  | none =>
    newDraftRecord l ::
      match b.binding with
      | some _ => [bindingRecord l.outputPath]
      | none => []

/-- The record of a declaration. -/
def declarationRecord (level : Level) (l : Location) (message : String)
    (fields : List (String × String)) : Record :=
  ⟨level, draftTarget, message, fields ++ [pathField "dir" l.dir]⟩

/-- The field that shows a value type. -/
def typeField (type : ValueType) : String × String :=
  ("value_type", Text.Quoted.write type.kindName)

/-- The records of an event that the unfinished build accepts. -/
def records (b : Build) : Event → List Record
  | .module o =>
    ⟨.debug, buildTarget, "Distributing module binding",
        [("module", o.location.moduleName), numberField "generators" b.drafts.length]⟩ ::
      b.drafts.map fun (_, draft) => bindingRecord draft.outputPath
  | .plugin o =>
    b.newDraftRecords o.location ++ o.annotations.map fun p =>
      declarationRecord .debug o.location "Plugin recorded"
        [("plugin", p.name), ("plugin_type", p.pluginType)]
  | .state o =>
    b.newDraftRecords o.location ++ o.annotations.map fun s =>
      declarationRecord .trace o.location "State recorded"
        [("state", s.name), typeField s.valueType]
  | .action o =>
    b.newDraftRecords o.location ++ o.annotations.map fun a =>
      declarationRecord .trace o.location "Action recorded"
        [("action", a.name), typeField a.valueType]
  | .config o =>
    b.newDraftRecords o.location ++ o.annotations.map fun c =>
      declarationRecord .trace o.location "Config recorded" [("config", c.name)]

/-- The record of the files that come out. -/
def producedRecord (files : GeneratedFiles) : Record :=
  ⟨.info, buildTarget, "Generated plugin registration code", [numberField "files" files.length]⟩

/-- Takes events one after the other and keeps their records. -/
def acceptTraced (b : Build) : List Event → List Record × Except BuildError Build
  | [] => ([], .ok b)
  | event :: events =>
    match b.accept event with
    | .error e => ([], .error e)
    | .ok next =>
      let (records, result) := acceptTraced next events
      (b.records event ++ records, result)

end Build

/-- The files that a stream of events generates, and the records of their generation. -/
def generateTraced (events : List Event) : List Record × Except BuildError GeneratedFiles :=
  match Build.start.acceptTraced events with
  | (records, .error e) => (records, .error e)
  | (records, .ok b) =>
    match b.produce with
    | .error e => (records, .error e)
    | .ok (files, _) => (records ++ [Build.producedRecord files], .ok files)

namespace Build

theorem acceptTraced_snd (b : Build) (events : List Event) :
    (b.acceptTraced events).2 = events.foldlM Build.accept b := by
  induction events generalizing b with
  | nil => rfl
  | cons event events ih =>
    unfold acceptTraced
    rw [List.foldlM_cons]
    cases b.accept event with
    | error e => rfl
    | ok next => exact ih next

end Build

/-- Keeping records does not change what is generated. -/
theorem generateTraced_snd (events : List Event) :
    (generateTraced events).2 = generate events := by
  have h := Build.start.acceptTraced_snd events
  unfold generateTraced generate
  rw [Build.complete_run_fst, ← h]
  cases Build.start.acceptTraced events with
  | mk records result =>
    cases result with
    | error e => rfl
    | ok b =>
      cases hp : b.produce with
      | error e => simp [hp, bind, Except.bind]
      | ok pair => simp [hp, bind, Except.bind, pure, Except.pure]

end Registrar
